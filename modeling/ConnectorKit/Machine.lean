import ConnectorKit.Process
import ConnectorKit.Text.Glob

/-!
The machine that the tools work on, without its files.
-/

set_option autoImplicit false
set_option relaxedAutoImplicit false

namespace ConnectorKit

structure Machine where
  run : Process.Runner
  /-- What file-name patterns are compiled by. -/
  engine : Text.Glob.Engine
  /-- The environment that programs are run with. -/
  environment : Environment
  /-- The year that generated files are stamped with. -/
  year : Nat

end ConnectorKit
