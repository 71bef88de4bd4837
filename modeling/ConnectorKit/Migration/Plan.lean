import ConnectorKit.Controller.Classification

/-!
The plan of a migration: what to do in each phase, and where the files go. Only a legacy resource
has one.
-/

set_option autoImplicit false
set_option relaxedAutoImplicit false

namespace ConnectorKit.Migration

structure PlannedPhase where
  number : Nat
  name : String
  description : String
  tasks : List String
  time : String
  deriving DecidableEq, Repr

/-- Where the proto of a resource is. -/
structure ProtoSource where
  service : String
  version : String
  package : String
  message : String
  deriving DecidableEq, Repr

structure Plan where
  resource : String
  style : Controller.Style
  needsMigration : Bool
  hasProto : Bool
  phases : List PlannedPhase
  /-- The path of each file to be made, by key. -/
  targets : List (String × String)
  proto : ProtoSource
  nextAction : String
  deriving DecidableEq, Repr

/-- Alpha and beta versions of a resource use the first version of the proto. -/
def protoSource (resource service version : String) : ProtoSource where
  service := service
  version := if version = "v1alpha1" ∨ version = "v1beta1" then "v1" else version
  package := "google.cloud." ++ service ++ ".v1"
  message := resource

def protoTask (proto : Option String) : String :=
  match proto with
  | some path => "Proto exists at " ++ path
  | none => "Check if proto exists in " ++ Layout.protoDirectory

def planPhases (resource service version lower : String) (proto : Option String) :
    List PlannedPhase :=
  [⟨1, "Proto Definitions", "Ensure proto definitions exist for the resource",
     [protoTask proto,
      "Identify proto package and message name",
      "Note any custom fields needed"],
     "1-2 hours"⟩,
   ⟨2, "API Types (KRM)", "Create Kubernetes resource model types",
     ["Create " ++ Layout.typesFile service version lower,
      "Define Spec struct with all fields",
      "Add +kcc:proto= annotations for each field",
      "Define nested types if needed",
      "Follow naming conventions (PascalCase)"],
     "4-6 hours"⟩,
   ⟨3, "Identity Handler", "Create resource name parsing and construction",
     ["Create " ++ Layout.identityFile service version lower,
      "Implement resource name format (e.g., projects/\x7bproject\x7d/...)",
      "Add parent identity handling",
      "Implement String() method"],
     "2-3 hours"⟩,
   ⟨4, "Mapper Generation", "Generate KRM <-> Proto conversion functions",
     ["Run " ++ Layout.mapperScript ++ " " ++ resource,
      "Verify " ++ Layout.mapperFile service ++ " updated",
      "Check for any mapper errors"],
     "30 minutes"⟩,
   ⟨5, "Controller Implementation", "Implement CRUD operations",
     ["Create " ++ Layout.controllerFile service lower,
      "Implement Find() method",
      "Implement Create() method",
      "Implement Update() method with field mask",
      "Implement Delete() method",
      "Implement Export() method",
      "Add reference resolution (if needed)"],
     "6-8 hours"⟩,
   ⟨6, "MockGCP Implementation", "Create mock GCP server for testing",
     ["Create " ++ Layout.mockFile service lower,
      "Implement Get method",
      "Implement List method",
      "Implement Create method with LRO",
      "Implement Update method with LRO",
      "Implement Delete method with LRO",
      "Add resource name parsing"],
     "4-6 hours"⟩,
   ⟨7, "Test Fixtures", "Create test cases",
     ["Create " ++ Layout.fixturesOf service version lower ++ "/",
      "Create create.yaml with initial resource",
      "Create update.yaml with changed fields",
      "Add _http.log for HTTP golden files",
      "Run tests and update golden files"],
     "2-3 hours"⟩]

/-- The files to be made, in order of their keys. -/
def planTargets (service version lower : String) : List (String × String) :=
  [("controller_file", Layout.controllerFile service lower),
   ("identity_file", Layout.identityFile service version lower),
   ("mapper_file", Layout.mapperFile service),
   ("mockgcp_file", Layout.mockFile service lower),
   ("test_fixtures_dir", Layout.fixturesOf service version lower),
   ("types_file", Layout.typesFile service version lower)]

/-- What was searched for in vain. -/
def searchedTypes (lower : String) : String :=
  Layout.apisDirectory ++ "/**/" ++ Layout.directTypesPattern lower ++ " or " ++
    Layout.legacyDirectory ++ "/**/" ++ Layout.legacyTypesPattern lower

/-- The plan for a classified resource. -/
def buildPlan (info : Controller.Classification) : Except Failure Plan :=
  let lower := Text.Case.lower info.resource
  match info.style, info.coordinates? with
  | .direct, _ => .error (.alreadyMigrated info.resource info.location)
  | .unknown, _ => .error (.resourceNotFound info.resource (searchedTypes lower))
  | .legacy, none => .error (.unresolvedLocation info.resource info.location)
  | .legacy, some (service, version) =>
    .ok {
      resource := info.resource
      style := info.style
      needsMigration := true
      hasProto := info.hasProto
      phases := planPhases info.resource service version lower info.protoLocation
      targets := planTargets service version lower
      proto := protoSource info.resource service version
      nextAction :=
        if info.hasProto then "Start with Phase 2: Create API types using kcc_scaffold_types"
        else "Check Phase 1: Verify proto definitions exist" }

/-- The plan for a resource. -/
def plan (engine : Text.Glob.Engine) (d : Disk) (root resource : String) : Except Failure Plan := do
  buildPlan (← Controller.classify engine d root resource)

end ConnectorKit.Migration
