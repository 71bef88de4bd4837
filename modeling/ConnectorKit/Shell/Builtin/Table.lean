import ConnectorKit.Shell.Builtin.Binding
import ConnectorKit.Shell.Builtin.Directory
import ConnectorKit.Shell.Builtin.Job
import ConnectorKit.Shell.Builtin.Limit
import ConnectorKit.Shell.Builtin.Name
import ConnectorKit.Shell.Builtin.Reading
import ConnectorKit.Shell.Builtin.Signal

/-!
The built-in commands that run no other ones, by their names.
-/

set_option autoImplicit false
set_option relaxedAutoImplicit false

namespace ConnectorKit.Shell.Builtin

/-- The command that is built in under a name. -/
def named? (name : String) : Option (List Octets → Run Nat) :=
  match name with
  | ":" | "true" => some fun _ => return 0
  | "false" => some fun _ => return 1
  | "echo" => some echo
  | "printf" => some printf
  | "cd" | "chdir" => some changeDirectory
  | "pwd" => some printDirectory
  | "export" => some export_
  | "readonly" => some readonly
  | "local" => some makeLocal
  | "unset" => some unset
  | "set" => some set_
  | "shift" => some shift
  | "read" => some read
  | "getopts" => some getopts
  | "test" => some test
  | "[" => some bracket
  | "trap" => some trap
  | "kill" => some kill
  | "type" => some type
  | "command" => some command
  | "alias" => some alias_
  | "unalias" => some unalias
  | "hash" => some hash
  | "umask" => some umask
  | "ulimit" => some ulimit
  | "jobs" => some jobs
  | "bg" | "fg" => some resume
  | "times" => some fun _ => print "0m0.00s 0m0.00s\n0m0.00s 0m0.00s\n".toList
  | _ => none

end ConnectorKit.Shell.Builtin
