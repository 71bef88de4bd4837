import ConnectorKit.Scaffold.Basic
import ConnectorKit.Scaffold.NameFormat

/-!
The skeleton of a mock server, which is the sixth phase of a migration. It parses and prints
resource names of the given format.
-/

set_option autoImplicit false
set_option relaxedAutoImplicit false

namespace ConnectorKit.Scaffold

open Text.Template (slot)

structure MockRequest where
  resource : String
  service : String
  protoPackage : String
  protoMessage : String
  nameFormat : String
  deriving DecidableEq, Repr

def mockTemplate : String :=
  Text.Line.ofRows
    ["",
     "package mock" ++ slot "service",
     "",
     "import (",
     "\t\"context\"",
     "\t\"fmt\"",
     "\t\"strings\"",
     "",
     "\t\"google.golang.org/grpc/codes\"",
     "\t\"google.golang.org/grpc/status\"",
     "\t\"google.golang.org/protobuf/proto\"",
     "",
     "\t\"github.com/GoogleCloudPlatform/k8s-config-connector/mockgcp/common/projects\"",
     "\tpb \"" ++ slot "proto_package" ++ "\"",
     ")",
     "",
     "func (s *" ++ slot "server" ++ ") Get" ++ slot "message" ++
       "(ctx context.Context, req *pb.Get" ++ slot "message" ++ "Request) (*pb." ++ slot "message" ++
       ", error) \x7b",
     "\tname, err := s.parse" ++ slot "message" ++ "Name(req.Name)",
     "\tif err != nil \x7b",
     "\t\treturn nil, err",
     "\t\x7d",
     "\tfqn := name.String()",
     "",
     "\tobj := &pb." ++ slot "message" ++ "\x7b\x7d",
     "\tif err := s.storage.Get(ctx, fqn, obj); err != nil \x7b",
     "\t\tif status.Code(err) == codes.NotFound \x7b",
     "\t\t\treturn nil, status.Errorf(codes.NotFound, \"Resource '%s' was not found\", fqn)",
     "\t\t\x7d",
     "\t\treturn nil, err",
     "\t\x7d",
     "\treturn obj, nil",
     "\x7d",
     "",
     "func (s *" ++ slot "server" ++ ") Create" ++ slot "message" ++
       "(ctx context.Context, req *pb.Create" ++ slot "message" ++ "Request) (*pb." ++
       slot "message" ++ ", error) \x7b",
     "\tname, err := s.parse" ++ slot "message" ++ "Name(req.Parent + \"/" ++ slot "collection" ++
       "/\" + req." ++ slot "message" ++ "Id)",
     "\tif err != nil \x7b",
     "\t\treturn nil, err",
     "\t\x7d",
     "\tfqn := name.String()",
     "",
     "\tobj := proto.Clone(req." ++ slot "message" ++ ").(*pb." ++ slot "message" ++ ")",
     "\tobj.Name = fqn",
     "\tif err := s.storage.Create(ctx, fqn, obj); err != nil \x7b",
     "\t\treturn nil, err",
     "\t\x7d",
     "\treturn obj, nil",
     "\x7d",
     "",
     "func (s *" ++ slot "server" ++ ") Update" ++ slot "message" ++
       "(ctx context.Context, req *pb.Update" ++ slot "message" ++ "Request) (*pb." ++
       slot "message" ++ ", error) \x7b",
     "\tname, err := s.parse" ++ slot "message" ++ "Name(req." ++ slot "message" ++ ".Name)",
     "\tif err != nil \x7b",
     "\t\treturn nil, err",
     "\t\x7d",
     "\tfqn := name.String()",
     "",
     "\texisting := &pb." ++ slot "message" ++ "\x7b\x7d",
     "\tif err := s.storage.Get(ctx, fqn, existing); err != nil \x7b",
     "\t\treturn nil, err",
     "\t\x7d",
     "",
     "\tupdated := proto.Clone(req." ++ slot "message" ++ ").(*pb." ++ slot "message" ++ ")",
     "\tupdated.Name = fqn",
     "\tif err := s.storage.Update(ctx, fqn, updated); err != nil \x7b",
     "\t\treturn nil, err",
     "\t\x7d",
     "\treturn updated, nil",
     "\x7d",
     "",
     "func (s *" ++ slot "server" ++ ") Delete" ++ slot "message" ++
       "(ctx context.Context, req *pb.Delete" ++ slot "message" ++ "Request) (*pb." ++
       slot "message" ++ ", error) \x7b",
     "\tname, err := s.parse" ++ slot "message" ++ "Name(req.Name)",
     "\tif err != nil \x7b",
     "\t\treturn nil, err",
     "\t\x7d",
     "\tfqn := name.String()",
     "",
     "\tdeleted := &pb." ++ slot "message" ++ "\x7b\x7d",
     "\tif err := s.storage.Delete(ctx, fqn, deleted); err != nil \x7b",
     "\t\treturn nil, err",
     "\t\x7d",
     "\treturn deleted, nil",
     "\x7d",
     "",
     "type " ++ slot "message" ++ "Name struct \x7b",
     "\tProject *projects.ProjectData" ++ slot "location_field",
     "\tID      string",
     "\x7d",
     "",
     "// Format: " ++ slot "name_format",
     "func (n *" ++ slot "message" ++ "Name) String() string \x7b",
     "\treturn fmt.Sprintf(\"" ++ slot "sprintf_format" ++ "\", " ++ slot "format_args" ++ ")",
     "\x7d",
     "",
     "// parse" ++ slot "message" ++ "Name parses a string into a " ++ slot "message" ++ "Name.",
     "func (s *" ++ slot "server" ++ ") parse" ++ slot "message" ++ "Name(name string) (*" ++
       slot "message" ++ "Name, error) \x7b",
     "\ttokens := strings.Split(name, \"/\")",
     "\tif " ++ slot "token_check" ++ " \x7b",
     "\t\tproject, err := s.Projects.GetProjectByID(tokens[1])",
     "\t\tif err != nil \x7b",
     "\t\t\treturn nil, err",
     "\t\t\x7d",
     "\t\treturn &" ++ slot "message" ++ "Name\x7b",
     "\t\t\tProject: project," ++ slot "location_value",
     "\t\t\tID:      tokens[" ++ slot "id_index" ++ "],",
     "\t\t\x7d, nil",
     "\t\x7d",
     "\treturn nil, status.Errorf(codes.InvalidArgument, \"name %q is not valid\", name)",
     "\x7d",
     ""]

namespace MockRequest

/-- The format without blanks around it. -/
def format (r : MockRequest) : String :=
  Text.Blank.trim r.nameFormat

/-- What depends on whether names have a location. -/
def locationBindings (located : Bool) : List (String × String) :=
  if located then
    [("format_args", "n.Project.ID, n.Location, n.ID"),
     ("location_field", "\n\tLocation string"),
     ("location_value", "\n\t\t\tLocation: tokens[3],")]
  else
    [("format_args", "n.Project.ID, n.ID"),
     ("location_field", ""),
     ("location_value", "")]

def bindings (r : MockRequest) (names : Names) (collection : String) :
    List (String × String) :=
  [("service", names.service),
   ("proto_package", r.protoPackage),
   ("server", Text.Case.capitalize names.service ++ "V1"),
   ("message", r.protoMessage),
   ("collection", collection),
   ("name_format", r.format),
   ("sprintf_format", NameFormat.printed r.format names.lower),
   ("token_check", NameFormat.tokenCheck r.format),
   ("id_index", toString ((NameFormat.segments r.format).length - 1))] ++
    locationBindings (NameFormat.isLocated r.format)

def skeleton (r : MockRequest) (year : Nat) : Except Failure Skeleton := do
  let names ← Names.of r.resource r.service
  requireSegment "proto_message" r.protoMessage
  match NameFormat.collection? r.format with
  | none => .error (.noCollection r.format names.lower)
  | some collection =>
    return {
      path := Layout.mockFile names.service names.lower
      content := licenseHeader year ++
        Text.Template.render mockTemplate (r.bindings names collection) }

def nextSteps (r : MockRequest) : List String :=
  ["Register the server in mockgcp/mock" ++ r.service ++ "/service.go",
   "Use kcc_scaffold_fixtures to create test fixtures",
   "Run the fixture tests with E2E_GCP_TARGET=mock"]

end MockRequest

/-- Creates the mock server of a resource, and confirms it. -/
def mock (root : String) (year : Nat) (r : MockRequest) : Action Disk String :=
  createOne root "MockGCP file" r.nextSteps (r.skeleton year)

end ConnectorKit.Scaffold
