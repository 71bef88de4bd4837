import ConnectorKit.Settings.Resolve

/-!
The arguments of the command line. The options stand before or after the name of the command, each
at most once at either place, and the later place wins; after two dashes nothing is an option.
-/

set_option autoImplicit false
set_option relaxedAutoImplicit false

namespace ConnectorKit.Command

/-- What is to be done. -/
inductive Task where
  | serve
  | find (resource : String)
  | detect (resource : String)
  | status (resource : String)
  | plan (resource : String)
  | checkMessage (message : String)
  deriving DecidableEq, Repr

/-- A task with the options that were given. -/
structure Invocation where
  task : Task
  repository : Option String
  json : Bool
  deriving DecidableEq, Repr

/-- Why no task is done. -/
inductive Stop where
  | usage
  | help
  | version (command : Option String)
  deriving DecidableEq, Repr

/-- The options of one place. -/
structure Options where
  repository : Option String := none
  json : Bool := false
  deriving DecidableEq, Repr

def Options.setRepository (o : Options) (value : String) : Except Stop Options :=
  if o.repository.isSome ∨ value = "" then .error .usage
  else .ok { o with repository := some value }

def Options.setJson (o : Options) : Except Stop Options :=
  if o.json then .error .usage else .ok { o with json := true }

/-- Reads option letters after one dash; `command` is the command they are given to. -/
def readLetters (command : Option String) (o : Options) : List Char → Except Stop Options
  | [] => .ok o
  | 'j' :: rest => do readLetters command (← o.setJson) rest
  | 'h' :: _ => .error .help
  | 'V' :: _ => .error (.version command)
  | _ => .error .usage

/-- Whether an argument has the form of an option. -/
def isOption (argument : String) : Bool :=
  Text.Search.startsWith argument "-" && argument ≠ "-"

/-- Reads an option that needs no other argument. -/
def readOption (command : Option String) (o : Options) (argument : String) :
    Except Stop Options :=
  match argument with
  | "--json" => o.setJson
  | "--help" => .error .help
  | "--version" => .error (.version command)
  | _ =>
    match Text.Search.after? "--repo=" argument, argument.toList with
    | some value, _ => o.setRepository value
    | none, '-' :: '-' :: _ => .error .usage
    | none, letters => readLetters command o (letters.drop 1)

/-- Reads options up to the first argument that is none. -/
def readOptions (command : Option String) (o : Options) :
    List String → Except Stop (Options × List String)
  | [] => .ok (o, [])
  | "--repo" :: value :: rest => do
    if isOption value then .error .usage
    readOptions command (← o.setRepository value) rest
  | argument :: rest =>
    if argument = "--" then .ok (o, argument :: rest)
    else if isOption argument then do readOptions command (← readOption command o argument) rest
    else .ok (o, argument :: rest)

/-- Reads what follows the name of a command that takes at most one value. -/
def readCommand (command : String) (takesValue : Bool) (arguments : List String) :
    Except Stop (Options × Option String) := do
  let (o, rest) ← readOptions (some command) {} arguments
  match rest with
  | [] => return (o, none)
  | "--" :: values =>
    match values with
    | [] => return (o, none)
    | [value] => if takesValue then return (o, some value) else .error .usage
    | _ => .error .usage
  | value :: rest =>
    if !takesValue then .error .usage
    let (o, rest) ← readOptions (some command) o rest
    if rest = [] ∨ rest = ["--"] then return (o, some value) else .error .usage

def taskOf (command : String) (value : Option String) : Option Task :=
  match command, value with
  | "mcp", none => some .serve
  | "find", some resource => some (.find resource)
  | "detect", some resource => some (.detect resource)
  | "status", some resource => some (.status resource)
  | "plan", some resource => some (.plan resource)
  | "check-message", some message => some (.checkMessage message)
  | _, _ => none

def commands : List String :=
  ["mcp", "find", "detect", "status", "plan", "check-message"]

/-- What `help` shows: the commands it is asked about have to exist. -/
def readHelp (names : List String) : Stop :=
  match names with
  | [] => .help
  | [name] => if name ∈ "help" :: commands then .help else .usage
  | _ => .usage

/-- Reads the arguments. An empty repository in the environment is as wrong as an empty option. -/
def read (environment : Environment) (arguments : List String) : Except Stop Invocation := do
  let (before, rest) ← readOptions none {} arguments
  match rest with
  | [] => .error .usage
  | command :: rest =>
    if command = "help" then .error (readHelp rest)
    if command ∉ commands then .error .usage
    let (after, value) ← readCommand command (command ≠ "mcp") rest
    let known := environment.lookup Settings.repositoryKey
    if known = some "" ∧ (before.repository.isNone ∨ after.repository.isNone) then .error .usage
    match taskOf command value with
    | none => .error .usage
    | some task =>
      return {
        task := task
        repository := (after.repository.or before.repository).or known
        json := before.json || after.json }

end ConnectorKit.Command
