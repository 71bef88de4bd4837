import ConnectorKit.Commit.Policy
import ConnectorKit.Git.Basic

/-!
The way to a commit: the message is checked, then the identity of the repository, then files are
added and committed in the name of the configured author. The first refusal ends it.
-/

set_option autoImplicit false
set_option relaxedAutoImplicit false

namespace ConnectorKit.Commit

variable {ω : Type}

/-- Asks for the identity of a repository, and refuses any other than the author's. -/
def verifyIdentity (git : Git ω) (author : Author) (repository : String) : Action ω Unit := do
  let email ← git.ask (.config "user.email")
  let name ← git.ask (.config "user.name")
  let current : Author := ⟨name.getD "", email.getD ""⟩
  if current = author then return ()
  else throw (.identityMismatch current author repository)

/-- Adds the files, or every change where none is named. -/
def stage (git : Git ω) (files : List String) : Action ω Unit :=
  if files.isEmpty then git.ask .addAll
  else files.forM fun file => git.ask (.add file)

/-- Checks, adds and commits. What was added stays so where the commit fails. -/
def create (git : Git ω) (author : Author) (conventional : Bool) (repository message : String)
    (files : List String) : Action ω Unit := do
  Action.ofExcept (checkTerms message)
  Action.ofExcept (checkForm conventional message)
  verifyIdentity git author repository
  stage git files
  git.ask (.commit message author)

end ConnectorKit.Commit
