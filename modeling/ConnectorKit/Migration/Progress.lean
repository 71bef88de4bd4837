import ConnectorKit.Controller.Classification
import ConnectorKit.Migration.Phase

/-!
How far a migration has come, told from the files that are there.
-/

set_option autoImplicit false
set_option relaxedAutoImplicit false

namespace ConnectorKit.Migration

structure PhaseStatus where
  number : Nat
  name : String
  completion : Completion
  /-- Which files of the phase are there, by key. -/
  present : List (String × Bool)
  deriving DecidableEq, Repr

def PhaseStatus.isCompleted (p : PhaseStatus) : Bool :=
  p.completion = .completed

structure Progress where
  resource : String
  service : Option String
  version : Option String
  overall : String
  current : PhaseStatus
  phases : List PhaseStatus
  nextAction : String
  canAddFields : Bool
  /-- Whether phases 1 to 5 are all completed. -/
  coreComplete : Bool
  deriving DecidableEq, Repr

/-- How many phases have to be completed before fields may be added, whichever they are. -/
def addFieldsThreshold : Nat := 4

/-- The status that stands for a finished migration. -/
def finished : PhaseStatus :=
  ⟨7, "Complete", .completed, []⟩

/-- The first phase that is not completed, else the last one. -/
def currentPhase (phases : List PhaseStatus) : PhaseStatus :=
  ((phases.find? fun p => !p.isCompleted).or phases.getLast?).getD finished

def nextAction (current : PhaseStatus) : String :=
  match current.completion with
  | .notStarted => startAdvice current.number
  | .inProgress => "Complete phase " ++ toString current.number ++ ": " ++ current.name
  | .completed =>
    "All phases complete. Verify tests pass, then use kcc_add_field to add new fields."

/-- The report on phases in ascending order. -/
def summarize (resource : String) (phases : List PhaseStatus) : Progress :=
  let completed := phases.countP PhaseStatus.isCompleted
  let current := currentPhase phases
  { resource := resource
    service := none
    version := none
    overall := toString completed ++ "/" ++ toString phases.length ++ " phases"
    current := current
    phases := phases
    nextAction := nextAction current
    canAddFields := addFieldsThreshold ≤ completed
    coreComplete := (phases.filter (·.number ≤ 5)).countP PhaseStatus.isCompleted = 5 }

def alreadyDirect (info : Controller.Classification) : Progress where
  resource := info.resource
  service := info.service
  version := info.version
  overall := "Migration complete"
  current := finished
  phases := []
  nextAction := "Migration complete. Use kcc_add_field to add new fields."
  canAddFields := true
  coreComplete := true

/-- Looks for the files of a phase. -/
def probe (d : Disk) (root : String) (phase : Phase) : PhaseStatus :=
  let present := phase.artifacts.map fun (key, path) => (key, d.stands root path)
  ⟨phase.number, phase.name, .ofPresence (present.map (·.2)), present⟩

/-- The report on a classified resource. -/
def evaluate (d : Disk) (root : String) (info : Controller.Classification) :
    Except Failure Progress :=
  if info.style = .direct then .ok (alreadyDirect info)
  else match info.coordinates? with
    | none => .error (.unresolvedLayout info.resource info.layoutError)
    | some (service, version) =>
      let proto := info.protoLocation.getD (Layout.defaultProto service)
      let lower := Text.Case.lower info.resource
      let report := summarize info.resource
        ((phases service version lower proto).map (probe d root))
      .ok { report with service := some service, version := some version }

/-- The report on a resource. -/
def status (engine : Text.Glob.Engine) (d : Disk) (root resource : String) :
    Except Failure Progress := do
  evaluate d root (← Controller.classify engine d root resource)

end ConnectorKit.Migration
