import ConnectorKit.Git.CommandLine
import ConnectorKit.Layout.Artifact

/-!
Generating the mapper of a resource with the script of the repository. What the script writes is
passed on as it is.
-/

set_option autoImplicit false
set_option relaxedAutoImplicit false

namespace ConnectorKit.Migration

/-- What a run of the script wrote, its complaints last. -/
def mapperOutput (o : Process.Outcome) : String :=
  o.outputText ++ o.errorText

private def mapperHelp : String :=
  "\nMake sure:\n" ++
  "1. Proto annotations (+kcc:proto=) are correct\n" ++
  "2. Proto definitions exist in " ++ Layout.protoDirectory ++ "/\n" ++
  "3. Field names match proto (use snake_case in annotation)"

/-- The answer of a run of the script. -/
def mapperAnswer (resource : String) (o : Process.Outcome) : Except Failure String :=
  if o.succeeded then
    .ok ("Mapper generated successfully for " ++ resource ++ "\n\n" ++ mapperOutput o)
  else
    .error (.externalTool (Layout.mapperScript ++ " " ++ resource) (mapperOutput o ++ mapperHelp))

/-- Runs the script once, in the repository. -/
def generateMapper (run : Process.Runner) (environment : Environment) (root resource : String) :
    Action Disk String :=
  fun d =>
    let process : Process := {
      program := Disk.Path.join root Layout.mapperScriptPath
      arguments := [resource]
      directory := root
      environment := environment }
    match run process d with
    | (.error fault, d) =>
      (.error (.externalTool (Layout.mapperScript ++ " " ++ resource) fault.message), d)
    | (.ok outcome, d) => (mapperAnswer resource outcome, d)

end ConnectorKit.Migration
