import ConnectorKit.Failure

/-!
Version control as commits need it: five calls, each with an answer of its own type. Any world that
answers them will do, and a call may change it.
-/

set_option autoImplicit false
set_option relaxedAutoImplicit false

namespace ConnectorKit

namespace Git

inductive Call where
  /-- The value of a setting of the repository. -/
  | config (key : String)
  | add (path : String)
  | addAll
  /-- Commits what was added, with the author as committer too. -/
  | commit (message : String) (author : Author)
  | status
  deriving DecidableEq, Repr

/-- What a call answers; a setting that is not set has no value. -/
abbrev Call.Answer : Call → Type
  | .config _ => Option String
  | .add _ => Unit
  | .addAll => Unit
  | .commit _ _ => Unit
  | .status => String

/-- How a call is spoken of. -/
def Call.label : Call → String
  | .config key => "config " ++ key
  | .add path => "add " ++ path
  | .addAll => "add -A"
  | .commit _ _ => "commit"
  | .status => "status --short"

/-- The failure of a call that the outside refuses. -/
def Call.refused (c : Call) (output : String) : Failure :=
  .externalTool ("git " ++ c.label) output

end Git

/-- Version control over a world. -/
structure Git (ω : Type) where
  ask : (c : Git.Call) → Action ω c.Answer

end ConnectorKit
