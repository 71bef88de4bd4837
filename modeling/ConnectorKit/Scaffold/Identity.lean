import ConnectorKit.Scaffold.Basic
import ConnectorKit.Scaffold.NameFormat

/-!
The skeleton of an identity file, which is the third phase of a migration. It prints and holds the
name of a resource, with its location where the format has one.
-/

set_option autoImplicit false
set_option relaxedAutoImplicit false

namespace ConnectorKit.Scaffold

open Text.Template (slot)

structure IdentityRequest where
  resource : String
  service : String
  version : String
  nameFormat : String
  deriving DecidableEq, Repr

def identityTemplate : String :=
  Text.Line.ofRows
    ["",
     "package " ++ slot "version",
     "",
     "import (",
     "\t\"context\"",
     "\t\"fmt\"",
     "",
     "\t\"github.com/GoogleCloudPlatform/k8s-config-connector/apis/common/parent\"",
     "\t\"sigs.k8s.io/controller-runtime/pkg/client\"",
     ")",
     "",
     "// " ++ slot "resource" ++ "Identity defines the resource reference to " ++ slot "kind" ++
       ".",
     "type " ++ slot "resource" ++ "Identity struct \x7b",
     "\tparent *" ++ slot "resource" ++ "Parent",
     "\tid     string",
     "\x7d",
     "",
     "// Format: " ++ slot "name_format",
     "func (i *" ++ slot "resource" ++ "Identity) String() string \x7b",
     "\treturn fmt.Sprintf(\"" ++ slot "sprintf_format" ++ "\", " ++ slot "format_args" ++ ")",
     "\x7d",
     "",
     "func (i *" ++ slot "resource" ++ "Identity) Parent() *" ++ slot "resource" ++
       "Parent \x7b",
     "\treturn i.parent",
     "\x7d",
     "",
     "func (i *" ++ slot "resource" ++ "Identity) ID() string \x7b",
     "\treturn i.id",
     "\x7d",
     "",
     "type " ++ slot "resource" ++ "Parent struct \x7b",
     "\t" ++ slot "parent_fields",
     "\x7d",
     "",
     "func (p *" ++ slot "resource" ++ "Parent) String() string \x7b",
     "\t" ++ slot "parent_string",
     "\x7d",
     "",
     "// New" ++ slot "resource" ++ "Identity builds a " ++ slot "resource" ++
       "Identity from the KRM object.",
     "func New" ++ slot "resource" ++
       "Identity(ctx context.Context, reader client.Reader, obj *" ++ slot "kind" ++ ") (*" ++
       slot "resource" ++ "Identity, error) \x7b",
     "\tprojectRef := obj.Spec.ProjectRef",
     "\tif projectRef == nil \x7b",
     "\t\treturn nil, fmt.Errorf(\"spec.projectRef is required\")",
     "\t\x7d",
     "\tprojectID, err := parent.ResolveProjectID(ctx, reader, projectRef)",
     "\tif err != nil \x7b",
     "\t\treturn nil, err",
     "\t\x7d",
     slot "location_check",
     "\tresourceID := valueOf(obj.Spec.ResourceID)",
     "\tif resourceID == \"\" \x7b",
     "\t\tresourceID = obj.GetName()",
     "\t\x7d",
     "\tif resourceID == \"\" \x7b",
     "\t\treturn nil, fmt.Errorf(\"cannot resolve resource ID\")",
     "\t\x7d",
     "",
     "\treturn &" ++ slot "resource" ++ "Identity\x7b",
     "\t\tparent: &" ++ slot "resource" ++ "Parent\x7b",
     "\t\t\tProjectID: projectID," ++ slot "location_field",
     "\t\t\x7d,",
     "\t\tid: resourceID,",
     "\t\x7d, nil",
     "\x7d",
     "",
     "func valueOf[T any](t *T) T \x7b",
     "\tvar zero T",
     "\tif t == nil \x7b",
     "\t\treturn zero",
     "\t\x7d",
     "\treturn *t",
     "\x7d",
     ""]

/-- The lines that ask for a location. -/
def locationCheck : String :=
  Text.Line.ofRows
    ["",
     "\tlocation := obj.Spec.Location",
     "\tif location == \"\" \x7b",
     "\t\treturn nil, fmt.Errorf(\"spec.location is required\")",
     "\t\x7d",
     ""]

namespace IdentityRequest

/-- What depends on whether names have a location. -/
def parentBindings (located : Bool) : List (String × String) :=
  if located then
    [("format_args", "i.parent.ProjectID, i.parent.Location, i.id"),
     ("parent_fields", "ProjectID string\n\tLocation  string"),
     ("parent_string",
      "return fmt.Sprintf(\"projects/%s/locations/%s\", p.ProjectID, p.Location)"),
     ("location_check", locationCheck),
     ("location_field", "\n\t\t\tLocation:  location,")]
  else
    [("format_args", "i.parent.ProjectID, i.id"),
     ("parent_fields", "ProjectID string"),
     ("parent_string", "return fmt.Sprintf(\"projects/%s\", p.ProjectID)"),
     ("location_check", ""),
     ("location_field", "")]

def bindings (r : IdentityRequest) (names : Names) : List (String × String) :=
  [("version", r.version),
   ("kind", names.kind),
   ("resource", names.resource),
   ("name_format", r.nameFormat),
   ("sprintf_format", NameFormat.printed r.nameFormat names.lower)] ++
    parentBindings (NameFormat.isLocated r.nameFormat)

def skeleton (r : IdentityRequest) (year : Nat) : Except Failure Skeleton := do
  let names ← Names.of r.resource r.service
  requireSegment "version" r.version
  if Text.Blank.isBlankText r.nameFormat then .error (.blankArgument "resource_name_format")
  return {
    path := Layout.identityFile names.service r.version names.lower
    content := licenseHeader year ++ Text.Template.render identityTemplate (r.bindings names) }

def nextSteps : List String :=
  ["Verify the resource name format matches the GCP API",
   "Adjust parsing logic if needed",
   "Use kcc_scaffold_controller to create the controller"]

end IdentityRequest

/-- Creates the identity file of a resource, and confirms it. -/
def identity (root : String) (year : Nat) (r : IdentityRequest) : Action Disk String :=
  createOne root "identity file" IdentityRequest.nextSteps (r.skeleton year)

end ConnectorKit.Scaffold
