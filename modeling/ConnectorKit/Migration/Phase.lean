import ConnectorKit.Layout.Artifact

/-!
The seven phases of a migration to a direct controller, each with the files that complete it.
-/

set_option autoImplicit false
set_option relaxedAutoImplicit false

namespace ConnectorKit.Migration

inductive Completion where
  | notStarted
  | inProgress
  | completed
  deriving DecidableEq, Repr

def Completion.text : Completion → String
  | .notStarted => "not_started"
  | .inProgress => "in_progress"
  | .completed => "completed"

/-- Completed when every file is there, not started when none is. -/
def Completion.ofPresence (present : List Bool) : Completion :=
  if present.all id then .completed
  else if present.any id then .inProgress
  else .notStarted

structure Phase where
  number : Nat
  name : String
  /-- Key and path of each file, in order of their keys. -/
  artifacts : List (String × String)
  deriving DecidableEq, Repr

/-- The phases of one resource, its name in lower case. -/
def phases (service version lower proto : String) : List Phase :=
  [⟨1, "Proto Definitions", [("proto", proto)]⟩,
   ⟨2, "API Types", [("types", Layout.typesFile service version lower)]⟩,
   ⟨3, "Identity Handler", [("identity", Layout.identityFile service version lower)]⟩,
   ⟨4, "Mapper", [("mapper", Layout.mapperFile service)]⟩,
   ⟨5, "Controller", [("controller", Layout.controllerFile service lower)]⟩,
   ⟨6, "MockGCP", [("mockgcp", Layout.mockFile service lower)]⟩,
   ⟨7, "Test Fixtures",
     [("create_yaml", Layout.fixtureFile service version lower Layout.createFixture),
      ("update_yaml", Layout.fixtureFile service version lower Layout.updateFixture)]⟩]

/-- What to do about a phase of which nothing is there. -/
def startAdvice (number : Nat) : String :=
  match number with
  | 1 => "Check proto definitions exist in mockgcp/third_party/googleapis"
  | 2 => "Use kcc_scaffold_types to create API types file"
  | 3 => "Use kcc_scaffold_identity to create identity handler"
  | 4 => "Run kcc_generate_mapper to generate mapper functions"
  | 5 => "Use kcc_scaffold_controller to create controller"
  | 6 => "Use kcc_scaffold_mockgcp to create MockGCP implementation"
  | _ => "Create test fixtures (create.yaml and update.yaml) with kcc_scaffold_fixtures"

end ConnectorKit.Migration
