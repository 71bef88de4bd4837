import ConnectorKit.Git.CommandLine
import ConnectorKit.Settings.File
import ConnectorKit.Text.Case

/-!
The settings that the tools work with. Each value is that of the first source that has one: the
environment, then the settings file, then version control for the author. Blank values are none.
-/

set_option autoImplicit false
set_option relaxedAutoImplicit false

namespace ConnectorKit

structure Settings where
  author : Author
  repository : String
  /-- Whether commit messages have to be conventional. -/
  conventional : Bool
  deriving DecidableEq, Repr

namespace Settings

/-- A source of values by key. -/
abbrev Source := String → Option String

def nameKey : String := "KCC_AUTHOR_NAME"

def emailKey : String := "KCC_AUTHOR_EMAIL"

def repositoryKey : String := "KCC_REPO_PATH"

def conventionalKey : String := "KCC_REQUIRE_CONVENTIONAL_COMMITS"

/-- A value, unless it is blank. -/
def filled (value : Option String) : Option String :=
  value.bind Text.Blank.filled?

/-- The first value that is not blank. -/
def firstFilled (values : List (Option String)) : Option String :=
  values.findSome? filled

/-- Whether a value switches a rule off. -/
def isOff (value : String) : Bool :=
  Text.Case.lower (Text.Blank.trim value) ∈ ["0", "false", "no", "off"]

/-- Whether messages have to be conventional; they have to, unless a source says no. -/
def resolveRule (environment : Option String) (file : Option Bool) : Bool :=
  match filled environment with
  | some value => !isOff value
  | none => file.getD true

/-- The settings of layered sources. -/
def resolve (environment : Source) (file : File) (git : Source) : Except Failure Settings :=
  match firstFilled [environment nameKey, file.authorName, git "user.name"],
      firstFilled [environment emailKey, file.authorEmail, git "user.email"],
      firstFilled [environment repositoryKey, file.repository] with
  | some name, some email, some repository =>
    .ok ⟨⟨name, email⟩, repository, resolveRule (environment conventionalKey) file.conventional⟩
  | some _, some _, none => .error .repositoryNotConfigured
  | _, _, _ => .error .authorNotConfigured

/-- The environment, with the repository that was asked for in the stead of its own. -/
def overridden (environment : Environment) (repository : Option String) : Source := fun key =>
  match repository with
  | some path => if key = repositoryKey then some path else environment.lookup key
  | none => environment.lookup key

/-- What version control is asked for: what neither the environment nor the file tells of the
author. -/
def missingKeys (environment : Source) (file : File) : List String :=
  let asked (key : String) (values : List (Option String)) : List String :=
    if (firstFilled values).isNone then [key] else []
  asked "user.name" [environment nameKey, file.authorName] ++
    asked "user.email" [environment emailKey, file.authorEmail]

/-- The settings of this process. To ask version control can change the disk. -/
def load (run : Process.Runner) (environment : Environment) (repository : Option String) :
    Action Disk Settings :=
  fun d =>
    let source := overridden environment repository
    let file := File.load d (environment.lookup "HOME")
    let (answers, d) := Id.run <| StateT.run (s := d) <| (missingKeys source file).mapM fun key => do
      return (key, ← Git.globalSetting run environment key)
    (resolve source file fun key => (answers.lookup key).join, d)

end Settings

end ConnectorKit
