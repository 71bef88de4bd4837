import ConnectorKit.Git.Basic
import ConnectorKit.Process
import ConnectorKit.Text.Blank

/-!
Version control by the `git` program on the search path, run in a repository. What it writes is its
answer; another exit code than the expected one is a failure with what it complained of.
-/

set_option autoImplicit false
set_option relaxedAutoImplicit false

namespace ConnectorKit

namespace Git

/-- The directories of the search path. -/
def searchPath (environment : Environment) : List String :=
  match environment.lookup "PATH" with
  | some path => Text.Search.split ':' path
  | none => []

/-- A directory in whose name a tilde stands for the home directory. -/
def underHome (environment : Environment) (directory : String) : String :=
  match Text.Search.split '/' directory with
  | "~" :: rest =>
    let below := rest.filter fun part => part ≠ "" ∧ part ≠ "."
    "/".intercalate ((environment.lookup "HOME").getD "" :: below)
  | _ => directory

/-- The first executable file of the name in the directories of the search path. -/
def program? (d : Disk) (environment : Environment) (name : String) : Option String :=
  (searchPath environment).findSome? fun directory =>
    let candidate := Disk.Path.join (underHome environment directory) name
    match d.lookup? candidate with
    | some (.file _ true) => some candidate
    | _ => none

/-- How a call is written for the program. -/
def Call.arguments : Call → List String
  | .config key => ["config", key]
  | .add path => ["add", "--", path]
  | .addAll => ["add", "-A"]
  | .commit message _ => ["commit", "-m", message]
  | .status => ["status", "--short"]

/-- What a call adds to the environment: a commit names author and committer. -/
def Call.environment : Call → Environment
  | .commit _ author =>
    [("GIT_AUTHOR_NAME", author.name), ("GIT_AUTHOR_EMAIL", author.email),
     ("GIT_COMMITTER_NAME", author.name), ("GIT_COMMITTER_EMAIL", author.email)]
  | _ => []

/-- What a failed call complained of, or else wrote. -/
def complaint (o : Process.Outcome) : String :=
  let errors := Text.Blank.trim o.errorText
  if errors = "" then Text.Blank.trim o.outputText else errors

/-- The value of a setting; exit code 1 tells that it is not set. -/
def readSetting (c : Call) (o : Process.Outcome) : Except Failure (Option String) :=
  match o.code with
  | some 0 => .ok (Text.Blank.filled? (Text.Blank.trim o.outputText))
  | some 1 => .ok none
  | _ => .error (c.refused (Text.Blank.trim o.errorText))

/-- What a call answers, told from how the program ended. -/
def readAnswer (c : Call) (o : Process.Outcome) : Except Failure c.Answer :=
  match c with
  | .config key => readSetting (.config key) o
  | .add path => if o.succeeded then .ok () else .error (Call.refused (.add path) (complaint o))
  | .addAll => if o.succeeded then .ok () else .error (Call.refused .addAll (complaint o))
  | .commit message author =>
    if o.succeeded then .ok ()
    else .error (Call.refused (.commit message author) (complaint o))
  | .status =>
    if o.succeeded then .ok o.outputText else .error (Call.refused .status (complaint o))

/-- The program on the search path, in a repository. -/
def commandLine (run : Process.Runner) (environment : Environment) (repository : String) :
    Git Disk where
  ask c := fun d =>
    match program? d environment "git" with
    | none => (.error .gitNotInstalled, d)
    | some program =>
      let process : Process := {
        program := program
        arguments := c.arguments
        directory := repository
        environment := c.environment ++ environment }
      match run process d with
      | (.error fault, d) => (.error (c.refused fault.message), d)
      | (.ok outcome, d) => (readAnswer c outcome, d)

/-- Starts the first of some programs that can be started; the search goes on past those that are
not there or may not be run. -/
def runFirst (run : Process.Runner) (process : String → Process) :
    List String → StateM Disk (Option Process.Outcome)
  | [] => return none
  | program :: rest => do
    let (ended, d) := run (process program) (← get)
    set d
    match ended with
    | .ok outcome => return some outcome
    | .error fault =>
      if fault = .missing ∨ fault = .notDirectory ∨ fault = .noPermission then
        runFirst run process rest
      else return none

/-- The value of a setting outside any repository, asked in the current directory; without a
program that tells it there is none. -/
def globalSetting (run : Process.Runner) (environment : Environment) (key : String) :
    StateM Disk (Option String) := do
  let programs := (searchPath environment).map (Disk.Path.join · "git")
  let outcome ← runFirst run (fun program => {
    program := program
    arguments := (Call.config key).arguments
    directory := "."
    environment := environment }) programs
  return outcome.bind fun o =>
    if o.succeeded then Text.Blank.filled? (Text.Blank.trim o.outputText) else none

/-- Version control of a part of a larger world. -/
def within {ω σ : Type} (get : σ → ω) (set : ω → σ → σ) (git : Git ω) : Git σ where
  ask c := Action.within get set (git.ask c)

end Git

end ConnectorKit
