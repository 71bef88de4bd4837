import ConnectorKit.Disk.Basic
import ConnectorKit.Text.Utf8

/-!
Programs that are run. What a program does is left to a runner, which may start any program in any
way: it tells what the program wrote and how it ended, and leaves the files as the program left them.
-/

set_option autoImplicit false
set_option relaxedAutoImplicit false

namespace ConnectorKit

/-- The environment of a process: variables and their values. -/
abbrev Environment := List (String × String)

/-- A program to be run, with all it is given. -/
structure Process where
  program : String
  arguments : List String
  directory : String
  environment : Environment

namespace Process

/-- What a process wrote, and its exit code unless it was killed. -/
structure Outcome where
  output : ByteArray
  errors : ByteArray
  code : Option Nat

namespace Outcome

def outputText (o : Outcome) : String :=
  Text.Utf8.read o.output

def errorText (o : Outcome) : String :=
  Text.Utf8.read o.errors

def succeeded (o : Outcome) : Bool :=
  o.code = some 0

end Outcome

/-- Runs a program to its end. One that cannot be started is told by the fault of the operating
system. -/
abbrev Runner := Process → Disk → Except Disk.Fault Outcome × Disk

end Process

end ConnectorKit
