import ConnectorKit.Json.Writer
import ConnectorKit.Report
import ConnectorKit.Text.Columns

/-!
Reports as text for a reader at the terminal.
-/

set_option autoImplicit false
set_option relaxedAutoImplicit false

namespace ConnectorKit.Command.Output

private def ofLines (lines : List String) : String :=
  String.join (lines.map (· ++ "\n"))

private def yesNo (b : Bool) : String :=
  if b then "yes" else "no"

/-- A label, with blanks up to the column of the values. -/
private def labelled (label value : String) : String :=
  String.ofList (Text.Columns.pad 17 (label ++ ":")) ++ value

/-- A JSON value over several lines. -/
def json (v : Json.Value) : String :=
  Json.Writer.pretty v ++ "\n"

def location (l : Controller.Location) : String :=
  let row (key path : String) : List String :=
    [key, path, yesNo ((l.present.lookup key).getD false)]
  ofLines [l.resource ++ " (" ++ l.service ++ " " ++ l.version ++ ")", ""] ++
    Text.Columns.render ["KIND", "PATH", "EXISTS"] [
      row "types" l.typesFile,
      row "controller" l.controllerFile,
      row "mapper" l.mapperFile,
      row "test_fixtures" l.fixtures]

def classification (c : Controller.Classification) : String :=
  let place := match c.location with
    | some path => [labelled "Location" path]
    | none => []
  let service := match c.coordinates? with
    | some (service, version) => [labelled "Service" (service ++ " " ++ version)]
    | none => []
  let note :=
    if c.hasDirectTypes && c.hasLegacyTypes then
      [labelled "Note" "legacy types are still present"]
    else []
  let layout := match c.layoutError with
    | some reason => [labelled "Layout" reason]
    | none => []
  ofLines ([labelled "Resource" c.resource, labelled "Type" c.style.text] ++ place ++ service ++
    [labelled "Migration" (if c.migrationNeeded then "needed" else "not needed"),
     labelled "Proto" (c.protoLocation.getD "not found")] ++ note ++ layout)

def progress (p : Migration.Progress) : String :=
  let row (phase : Migration.PhaseStatus) : List String :=
    [toString phase.number, phase.name, phase.completion.text]
  let table :=
    if p.phases.isEmpty then ""
    else Text.Columns.render ["PHASE", "NAME", "STATUS"] (p.phases.map row) ++ "\n"
  ofLines [p.resource ++ ": " ++ p.overall, ""] ++ table ++
    ofLines ["Next: " ++ p.nextAction, "Can add fields: " ++ yesNo p.canAddFields]

private def phaseLines (phase : Migration.PlannedPhase) : List String :=
  ["", "Phase " ++ toString phase.number ++ ": " ++ phase.name ++ " [" ++ phase.time ++ "]"] ++
    phase.tasks.map ("  - " ++ ·)

def plan (p : Migration.Plan) : String :=
  let target := fun ((key, path) : String × String) =>
    "  " ++ String.ofList (Text.Columns.pad 12 key) ++ " " ++ path
  ofLines (["Migration plan for " ++ p.resource ++ " (" ++ p.style.text ++ ")"] ++
    p.phases.flatMap phaseLines ++ ["", "Target files:"] ++ p.targets.map target ++
    ["", "Next: " ++ p.nextAction])

end ConnectorKit.Command.Output
