import ConnectorKit.Scaffold.Basic

/-!
The skeleton of a controller, which is the fifth phase of a migration.
-/

set_option autoImplicit false
set_option relaxedAutoImplicit false

namespace ConnectorKit.Scaffold

open Text.Template (slot)

structure ControllerRequest where
  resource : String
  service : String
  version : String
  protoPackage : String
  protoMessage : String
  deriving DecidableEq, Repr

def controllerTemplate : String :=
  Text.Line.ofRows
    ["",
     "package " ++ slot "service",
     "",
     "import (",
     "\t\"context\"",
     "\t\"fmt\"",
     "",
     "\tkrm \"github.com/GoogleCloudPlatform/k8s-config-connector/apis/" ++ slot "service" ++
       "/" ++ slot "version" ++ "\"",
     "\t\"github.com/GoogleCloudPlatform/k8s-config-connector/pkg/config\"",
     "\t\"github.com/GoogleCloudPlatform/k8s-config-connector/pkg/controller/direct\"",
     "\t\"github.com/GoogleCloudPlatform/k8s-config-connector/pkg/controller/direct/directbase\"",
     "\t\"github.com/GoogleCloudPlatform/k8s-config-connector/pkg/controller/direct/registry\"",
     "",
     "\tpb \"" ++ slot "proto_go_package" ++ "\"",
     "\t\"k8s.io/apimachinery/pkg/apis/meta/v1/unstructured\"",
     "\t\"k8s.io/apimachinery/pkg/runtime\"",
     "\t\"k8s.io/klog/v2\"",
     "\t\"sigs.k8s.io/controller-runtime/pkg/client\"",
     ")",
     "",
     "func init() \x7b",
     "\tregistry.RegisterModel(krm." ++ slot "kind" ++ "GVK, New" ++ slot "resource" ++ "Model)",
     "\x7d",
     "",
     "func New" ++ slot "resource" ++
       "Model(ctx context.Context, config *config.ControllerConfig) (directbase.Model, " ++
       "error) \x7b",
     "\treturn &" ++ slot "resource" ++ "Model\x7bconfig: *config\x7d, nil",
     "\x7d",
     "",
     "var _ directbase.Model = &" ++ slot "resource" ++ "Model\x7b\x7d",
     "",
     "type " ++ slot "resource" ++ "Model struct \x7b",
     "\tconfig config.ControllerConfig",
     "\x7d",
     "",
     "func (m *" ++ slot "resource" ++
       "Model) AdapterForObject(ctx context.Context, reader client.Reader, u " ++
       "*unstructured.Unstructured) (directbase.Adapter, error) \x7b",
     "\tobj := &krm." ++ slot "kind" ++ "\x7b\x7d",
     "\tif err := runtime.DefaultUnstructuredConverter.FromUnstructured(u.Object, &obj); " ++
       "err != nil \x7b",
     "\t\treturn nil, fmt.Errorf(\"error converting to %T: %w\", obj, err)",
     "\t\x7d",
     "",
     "\tid, err := krm.New" ++ slot "resource" ++ "Identity(ctx, reader, obj)",
     "\tif err != nil \x7b",
     "\t\treturn nil, err",
     "\t\x7d",
     "",
     "\treturn &" ++ slot "resource" ++ "Adapter\x7b",
     "\t\tid:      id,",
     "\t\tdesired: obj,",
     "\t\treader:  reader,",
     "\t\x7d, nil",
     "\x7d",
     "",
     "func (m *" ++ slot "resource" ++
       "Model) AdapterForURL(ctx context.Context, url string) (directbase.Adapter, error) \x7b",
     "\treturn nil, nil",
     "\x7d",
     "",
     "type " ++ slot "resource" ++ "Adapter struct \x7b",
     "\tid      *krm." ++ slot "resource" ++ "Identity",
     "\tdesired *krm." ++ slot "kind",
     "\tactual  *pb." ++ slot "proto_message",
     "\treader  client.Reader",
     "\x7d",
     "",
     "var _ directbase.Adapter = &" ++ slot "resource" ++ "Adapter\x7b\x7d",
     "",
     "// Find retrieves the GCP resource.",
     "func (a *" ++ slot "resource" ++ "Adapter) Find(ctx context.Context) (bool, error) \x7b",
     "\tlog := klog.FromContext(ctx)",
     "\tlog.V(2).Info(\"getting " ++ slot "resource" ++ "\", \"name\", a.id)",
     "",
     "\t// Call Get" ++ slot "proto_message" ++ " and return false on NotFound.",
     "\treturn false, nil",
     "\x7d",
     "",
     "// Create creates the resource in GCP.",
     "func (a *" ++ slot "resource" ++
       "Adapter) Create(ctx context.Context, createOp *directbase.CreateOperation) error \x7b",
     "\tlog := klog.FromContext(ctx)",
     "\tlog.V(2).Info(\"creating " ++ slot "resource" ++ "\", \"name\", a.id)",
     "",
     "\tmapCtx := &direct.MapContext\x7b\x7d",
     "\tdesired := a.desired.DeepCopy()",
     "\tresource := " ++ slot "resource" ++ "Spec_ToProto(mapCtx, &desired.Spec)",
     "\tif mapCtx.Err() != nil \x7b",
     "\t\treturn mapCtx.Err()",
     "\t\x7d",
     "",
     "\t_ = resource",
     "\treturn fmt.Errorf(\"" ++ slot "resource" ++ " Create not yet implemented\")",
     "\x7d",
     "",
     "// Update updates the resource in GCP.",
     "func (a *" ++ slot "resource" ++
       "Adapter) Update(ctx context.Context, updateOp *directbase.UpdateOperation) error \x7b",
     "\tlog := klog.FromContext(ctx)",
     "\tlog.V(2).Info(\"updating " ++ slot "resource" ++ "\", \"name\", a.id)",
     "",
     "\tmapCtx := &direct.MapContext\x7b\x7d",
     "\tdesired := a.desired.DeepCopy()",
     "\tresource := " ++ slot "resource" ++ "Spec_ToProto(mapCtx, &desired.Spec)",
     "\tif mapCtx.Err() != nil \x7b",
     "\t\treturn mapCtx.Err()",
     "\t\x7d",
     "",
     "\t_ = resource",
     "\treturn fmt.Errorf(\"" ++ slot "resource" ++ " Update not yet implemented\")",
     "\x7d",
     "",
     "// Export maps the GCP object to a Config Connector resource spec.",
     "func (a *" ++ slot "resource" ++
       "Adapter) Export(ctx context.Context) (*unstructured.Unstructured, error) \x7b",
     "\tif a.actual == nil \x7b",
     "\t\treturn nil, fmt.Errorf(\"Find() not called\")",
     "\t\x7d",
     "",
     "\tobj := &krm." ++ slot "kind" ++ "\x7b\x7d",
     "\tmapCtx := &direct.MapContext\x7b\x7d",
     "\tobj.Spec = direct.ValueOf(" ++ slot "resource" ++ "Spec_FromProto(mapCtx, a.actual))",
     "\tif mapCtx.Err() != nil \x7b",
     "\t\treturn nil, mapCtx.Err()",
     "\t\x7d",
     "",
     "\tuObj, err := runtime.DefaultUnstructuredConverter.ToUnstructured(obj)",
     "\tif err != nil \x7b",
     "\t\treturn nil, err",
     "\t\x7d",
     "",
     "\tu := &unstructured.Unstructured\x7bObject: uObj\x7d",
     "\tu.SetName(a.id.ID())",
     "\tu.SetGroupVersionKind(krm." ++ slot "kind" ++ "GVK)",
     "\treturn u, nil",
     "\x7d",
     "",
     "// Delete deletes the resource from GCP.",
     "func (a *" ++ slot "resource" ++
       "Adapter) Delete(ctx context.Context, deleteOp *directbase.DeleteOperation) (bool, " ++
       "error) \x7b",
     "\tlog := klog.FromContext(ctx)",
     "\tlog.V(2).Info(\"deleting " ++ slot "resource" ++ "\", \"name\", a.id)",
     "",
     "\t// Call Delete" ++ slot "proto_message" ++ " and treat NotFound as deleted.",
     "\treturn true, nil",
     "\x7d",
     ""]

/-- Whether a part of a proto package is a version, such as `v1` or `v1beta1`. -/
def isVersion (part : String) : Bool :=
  match part.toList with
  | 'v' :: c :: _ => c.isDigit
  | _ => false

/-- The last part of a proto package that counts, a version at its end left out. -/
def packageName (protoPackage service : String) : String :=
  let parts := (Text.Search.split '.' protoPackage).filter (· ≠ "")
  let kept := match parts.getLast? with
    | some last => if isVersion last then parts.dropLast else parts
    | none => []
  kept.getLastD service

/-- Where the generated code of a proto package is imported from. -/
def importPath (protoPackage service : String) : String :=
  "cloud.google.com/go/" ++ service ++ "/apiv1/" ++ packageName protoPackage service ++ "pb"

namespace ControllerRequest

def bindings (r : ControllerRequest) (names : Names) : List (String × String) :=
  [("service", names.service),
   ("version", r.version),
   ("kind", names.kind),
   ("resource", names.resource),
   ("proto_message", r.protoMessage),
   ("proto_go_package", importPath r.protoPackage names.service)]

def skeleton (r : ControllerRequest) (year : Nat) : Except Failure Skeleton := do
  let names ← Names.of r.resource r.service
  requireSegment "version" r.version
  requireSegment "proto_message" r.protoMessage
  return {
    path := Layout.controllerFile names.service names.lower
    content := licenseHeader year ++ Text.Template.render controllerTemplate (r.bindings names) }

def nextSteps : List String :=
  ["Implement the GCP API calls in Find, Create, Update and Delete",
   "Add field mask logic for Update",
   "Resolve references if the resource has any",
   "Use kcc_scaffold_mockgcp to create the MockGCP implementation"]

end ControllerRequest

/-- Creates the controller file of a resource, and confirms it. -/
def controller (root : String) (year : Nat) (r : ControllerRequest) : Action Disk String :=
  createOne root "controller file" ControllerRequest.nextSteps (r.skeleton year)

end ConnectorKit.Scaffold
