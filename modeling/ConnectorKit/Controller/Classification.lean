import ConnectorKit.Disk.Search
import ConnectorKit.Layout.Artifact
import ConnectorKit.Layout.TypesFile
import ConnectorKit.Text.Glob

/-!
How a resource is controlled, told from the types files in the repository. A direct types file wins
over a legacy one; a resource without either is unknown, which is no failure. A pattern that is not
taken and a search that fails are.
-/

set_option autoImplicit false
set_option relaxedAutoImplicit false

namespace ConnectorKit.Controller

inductive Style where
  | direct
  | legacy
  | unknown
  deriving DecidableEq, Repr

def Style.text : Style → String
  | .direct => "direct"
  | .legacy => "legacy"
  | .unknown => "unknown"

structure Classification where
  resource : String
  style : Style
  /-- The types file that decided. -/
  location : Option String
  migrationNeeded : Bool
  hasDirectTypes : Bool
  hasLegacyTypes : Bool
  hasProto : Bool
  protoLocation : Option String
  service : Option String
  version : Option String
  /-- Why a types file tells no service and version. -/
  layoutError : Option String
  deriving DecidableEq, Repr

/-- Service and version, if both are known. -/
def Classification.coordinates? (c : Classification) : Option (String × String) := do
  return (← c.service, ← c.version)

/-- The files below a directory with a name that the pattern covers, if the pattern is taken. -/
def matching (engine : Text.Glob.Engine) (d : Disk) (root directory pattern : String) :
    Except Failure (List String) :=
  match engine.complaint? pattern with
  | some complaint => .error (.badPattern pattern complaint)
  | none => d.filesNamed root directory (Text.Glob.covers pattern)

/-- The style that the first files of both searches give, with the deciding file and its layout. -/
def decide? (direct legacy : List String) : Option (Style × String × Layout) :=
  match direct.head?, legacy.head? with
  | some path, _ => some (.direct, path, Layout.directTypes)
  | none, some path => some (.legacy, path, Layout.legacyTypes)
  | none, none => none

/-- The layout of the deciding file, if there is one. -/
def layout? (direct legacy : List String) : Option (Except Failure Layout.TypesFile) :=
  (decide? direct legacy).map fun (_, path, layout) => Layout.TypesFile.ofPath layout path

/-- The service that the deciding file tells. -/
def service? (direct legacy : List String) : Option String :=
  ((layout? direct legacy).bind Except.toOption).map (·.service)

/-- What the types files of both searches and the proto file tell of a resource. -/
def describe (resource : String) (direct legacy : List String) (proto : Option String) :
    Classification :=
  let decision := decide? direct legacy
  let style := (decision.map (·.1)).getD .unknown
  let layout := layout? direct legacy
  { resource := resource
    style := style
    location := decision.map fun (_, path, _) => path
    migrationNeeded := style = .legacy
    hasDirectTypes := !direct.isEmpty
    hasLegacyTypes := !legacy.isEmpty
    hasProto := proto.isSome
    protoLocation := proto
    service := service? direct legacy
    version := (layout.bind Except.toOption).map (·.version)
    layoutError := layout.bind fun
      | .ok _ => none
      | .error failure => some failure.message }

/-- The first proto file in a directory named for the service. -/
def findProto (d : Disk) (root service : String) : Except Failure (Option String) := do
  return (← d.filesWithPath root Layout.protoDirectory ("/" ++ service ++ "/") ".proto").head?

/-- The proto file of a service, looked for only where the service is known. -/
def protoOf (d : Disk) (root : String) : Option String → Except Failure (Option String)
  | some service => findProto d root service
  | none => .ok none

def classify (engine : Text.Glob.Engine) (d : Disk) (root resource : String) :
    Except Failure Classification := do
  let lower := Text.Case.lower resource
  let direct ← matching engine d root Layout.apisDirectory (Layout.directTypesPattern lower)
  let legacy ← matching engine d root Layout.legacyDirectory (Layout.legacyTypesPattern lower)
  let proto ← protoOf d root (service? direct legacy)
  return describe resource direct legacy proto

end ConnectorKit.Controller
