import ConnectorKit.Disk.Fault

/-!
Why an operation of the tool kit fails. A failure says what was wrong; `message` gives the words.
-/

set_option autoImplicit false
set_option relaxedAutoImplicit false

namespace ConnectorKit

/-- Who makes a commit. -/
structure Author where
  name : String
  email : String
  deriving DecidableEq, Repr

def Author.text (a : Author) : String :=
  a.name ++ " <" ++ a.email ++ ">"

inductive Failure where
  | resourceNotFound (resource searched : String)
  | unexpectedLayout (path layout : String)
  | unresolvedLayout (resource : String) (reason : Option String)
  | unresolvedLocation (resource : String) (location : Option String)
  | alreadyMigrated (resource : String) (location : Option String)
  | bannedTerm (term : String)
  | formatViolation (line : String)
  | identityMismatch (current expected : Author) (repository : String)
  | collision (path : String)
  | externalTool (command output : String)
  | parentTypeNotFound (parent file : String)
  | unsupportedFieldType (name : String)
  | blankArgument (field : String)
  | notOneSegment (field value : String)
  | outsideRepository (path : String)
  | noCollection (format placeholder : String)
  | authorNotConfigured
  | repositoryNotConfigured
  | gitNotInstalled
  | badPattern (pattern complaint : String)
  | disk (fault : Disk.Fault)
  /-- A directory that a search comes to cannot be opened. -/
  | walk (directory : String) (fault : Disk.Fault)
  deriving DecidableEq, Repr

namespace Failure

/-- Where the settings file lies below the home directory. -/
def settingsFile : String :=
  ".config/kcc-mcp-server/config.json"

private def authorHelp : String :=
  "Git author not configured. Set either:\n" ++
  "1. KCC_AUTHOR_EMAIL and KCC_AUTHOR_NAME environment variables, or\n" ++
  "2. ~/" ++ settingsFile ++ ", or\n" ++
  "3. git config user.email and user.name\n\n" ++
  "Example config file:\n" ++
  "\x7b\n" ++
  "  \"git\": \x7b\n" ++
  "    \"author_name\": \"Your Name\",\n" ++
  "    \"author_email\": \"you@example.com\"\n" ++
  "  \x7d,\n" ++
  "  \"kcc_repo_path\": \"/path/to/k8s-config-connector\"\n" ++
  "\x7d"

private def repositoryHelp : String :=
  "KCC repository path not configured. Set either:\n" ++
  "1. KCC_REPO_PATH environment variable, or\n" ++
  "2. kcc_repo_path in ~/" ++ settingsFile ++ ", or\n" ++
  "3. the --repo flag"

private def mismatchHelp (current expected : Author) (repository : String) : String :=
  "git identity mismatch\n\nCurrent in repository: " ++ current.text ++
  "\nExpected from config: " ++ expected.text ++
  "\n\nRun in " ++ repository ++
  ":\n  git config user.email \"" ++ expected.email ++
  "\"\n  git config user.name \"" ++ expected.name ++ "\""

/-- What was wrong with an argument. -/
def argument (detail : String) : String :=
  "invalid argument: " ++ detail

def message : Failure → String
  | resourceNotFound resource searched =>
    "resource not found: " ++ resource ++ "\n\nSearched for: " ++ searched
  | unexpectedLayout path layout =>
    "path '" ++ path ++ "' does not match layout '" ++ layout ++ "'"
  | unresolvedLayout resource none =>
    "could not determine service/version for " ++ resource
  | unresolvedLayout resource (some reason) =>
    "could not determine service/version for " ++ resource ++ " (" ++ reason ++ ")"
  | unresolvedLocation resource location =>
    "could not determine service/version for " ++ resource ++
      "\nFound at: " ++ location.getD "<unknown>"
  | alreadyMigrated resource location =>
    resource ++ " is already a direct controller at " ++ location.getD "" ++
      "\nNo migration needed. Use kcc_add_field to add fields."
  | bannedTerm term =>
    "commit message contains banned term '" ++ term ++
      "': AI attribution is not allowed in k8s-config-connector contributions"
  | formatViolation line =>
    "commit message does not follow conventional commit format " ++
      "<type>(<scope>): <description>\n\n" ++
      "Types: feat, fix, docs, style, refactor, perf, test, chore\n" ++
      "Your message: \"" ++ line ++ "\""
  | identityMismatch current expected repository => mismatchHelp current expected repository
  | collision path => "file already exists: " ++ path
  | externalTool command output => "`" ++ command ++ "` failed:\n\n" ++ output
  | parentTypeNotFound parent file =>
    "could not find parent type: " ++ parent ++ "\n\nMake sure the type exists in " ++ file
  | unsupportedFieldType name =>
    "unsupported field type: " ++ name ++ " (expected string, int64, bool, object or array)"
  | blankArgument field => argument (field ++ " must not be empty")
  | notOneSegment field value =>
    argument (field ++ " must be a single path segment, got '" ++ value ++ "'")
  | outsideRepository path =>
    argument ("types_file must be a path inside the repository: " ++ path)
  | noCollection format placeholder =>
    argument ("resource_name_format '" ++ format ++ "' must end in <collection>/\x7b" ++
      placeholder ++ "\x7d")
  | authorNotConfigured => authorHelp
  | repositoryNotConfigured => repositoryHelp
  | gitNotInstalled => "git not found on PATH"
  | badPattern pattern complaint => argument ("pattern '" ++ pattern ++ "': " ++ complaint)
  | disk fault => fault.message
  | walk directory fault => "IO error for operation on " ++ directory ++ ": " ++ fault.message

end Failure

/-- A computation on a world that changes it, also where it fails. -/
abbrev Action (ω : Type) := ExceptT Failure (StateM ω)

namespace Action

/-- The outcome of an action and the world after it. -/
def perform {ω α : Type} (act : Action ω α) (w : ω) : Except Failure α × ω :=
  act w

def ofExcept {ω α : Type} (result : Except Failure α) : Action ω α :=
  fun w => (result, w)

/-- The action on a part of a larger world. -/
def within {ω σ α : Type} (get : σ → ω) (set : ω → σ → σ) (act : Action ω α) : Action σ α :=
  fun s => let (result, w) := act (get s); (result, set w s)

end Action

end ConnectorKit
