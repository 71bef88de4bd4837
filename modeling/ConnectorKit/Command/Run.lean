import ConnectorKit.Command.Arguments
import ConnectorKit.Command.Output
import ConnectorKit.Server.Serve

/-!
The command line: what it prints, what it complains of, and its exit code. A failure is told on a
line of its own with exit code 1, a wrong use with exit code 2.
-/

set_option autoImplicit false
set_option relaxedAutoImplicit false

namespace ConnectorKit.Command

/-- What goes to the standard output. -/
inductive Printed where
  | text (t : String)
  | replies (rs : List Server.Reply)

def Printed.toString : Printed → String
  | .text t => t
  | .replies rs => String.join (rs.map fun r => r.text ++ "\n")

/-- How a run ends. -/
structure Exit where
  code : Nat
  printed : Printed
  complaint : String

namespace Exit

def success (text : String) : Exit :=
  ⟨0, .text text, ""⟩

/-- Tells a failure after what was printed before it. -/
def failure (f : Failure) (printed : String) : Exit :=
  ⟨1, .text printed, "error: " ++ f.message ++ "\n"⟩

end Exit

def helpText : String :=
  "Contributor tooling for k8s-config-connector: resource inspection, migration planning, " ++
    "scaffolding and guarded commits\n\n" ++
  "Usage: kcc-mcp [OPTIONS] <COMMAND>\n\n" ++
  "Commands:\n" ++
  "  mcp            Run as an MCP stdio server\n" ++
  "  find           Locate the files of a direct-controller resource\n" ++
  "  detect         Classify a resource's controller as direct, legacy or unknown\n" ++
  "  status         Show per-phase migration progress\n" ++
  "  plan           Print the seven-phase migration plan\n" ++
  "  check-message  Check a commit message against the commit policy without committing\n" ++
  "  help           Print this message or the help of the given subcommand(s)\n\n" ++
  "Options:\n" ++
  "      --repo <REPO>  Path to the k8s-config-connector checkout [env: KCC_REPO_PATH=]\n" ++
  "  -j, --json         Output as JSON\n" ++
  "  -h, --help         Print help\n" ++
  "  -V, --version      Print version\n"

/-- The line that tells the version, under the name of the command it was asked of. -/
def versionText (command : Option String) : String :=
  "kcc-mcp" ++ (command.map ("-" ++ ·)).getD "" ++ " " ++ Server.serverVersion ++ "\n"

def Stop.exit : Stop → Exit
  | .usage => ⟨2, .text "", helpText⟩
  | .help => .success helpText
  | .version command => .success (versionText command)

/-- Prints a report, as JSON or as text. -/
def printReport {α : Type} (json : Bool) (value : α → Json.Value) (text : α → String) :
    Except Failure α → Exit
  | .error f => .failure f ""
  | .ok a => .success (if json then Output.json (value a) else text a)

/-- Prints what the checks say of a message. -/
def messageExit (settings : Settings) (json : Bool) (message : String) : Exit :=
  match Commit.checkMessage settings.conventional message with
  | .ok () =>
    .success (if json then Output.json (.object [("ok", .bool true)]) else "Commit message OK\n")
  | .error f =>
    .failure f (if json then
      Output.json (.object [("error", .string f.message), ("ok", .bool false)]) else "")

/-- Does a task in a repository. -/
def Task.run (t : Task) (settings : Settings) (json : Bool) (m : Machine) (input : ByteArray)
    (d : Disk) : Exit × Disk :=
  match t with
  | .serve =>
    let (replies, w) := Server.serve (.standard m settings) input ⟨d, ()⟩
    (⟨0, .replies replies, ""⟩, w.disk)
  | .find resource =>
    (printReport json Report.location Output.location
      (Controller.locate m.engine d settings.repository resource), d)
  | .detect resource =>
    (printReport json Report.classification Output.classification
      (Controller.classify m.engine d settings.repository resource), d)
  | .status resource =>
    (printReport json Report.progress Output.progress
      (Migration.status m.engine d settings.repository resource), d)
  | .plan resource =>
    (printReport json Report.plan Output.plan
      (Migration.plan m.engine d settings.repository resource), d)
  | .checkMessage message => (messageExit settings json message, d)

/-- A whole run: reads the arguments, finds the settings, and does the task. -/
def run (m : Machine) (arguments : List String) (input : ByteArray) (d : Disk) : Exit × Disk :=
  match read m.environment arguments with
  | .error stop => (stop.exit, d)
  | .ok i =>
    match (Settings.load m.run m.environment i.repository).perform d with
    | (.error f, d) => (.failure f "", d)
    | (.ok settings, d) => i.task.run settings i.json m input d

end ConnectorKit.Command
