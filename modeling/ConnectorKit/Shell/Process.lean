import ConnectorKit.Process
import ConnectorKit.Shell.Run

/-!
A runner of programs that are scripts of the shell. It knows no other programs.
-/

set_option autoImplicit false
set_option relaxedAutoImplicit false

namespace ConnectorKit.Shell

private def hasZero (text : String) : Bool :=
  text.toList.contains '\x00'

/-- The disk that a process sees, and the program that it runs. A file whose first line names no
program is none for the operating system. -/
def startProcess (p : Process) (d : Disk) : Except Disk.Fault (Disk × Program) := do
  if hasZero p.program ∨ p.arguments.any hasZero ∨ hasZero p.directory ∨
      p.environment.any (fun (_, value) => hasZero value) then .error .zeroInArgument
  let current ← d.locate p.directory
  if d.tree.lookup? current ≠ some .directory then .error .notDirectory
  let d := { d with current := current }
  match ← Program.load d (Octets.ofText p.program) with
  | .bare => .error .wrongFormat
  | program => return (d, program)

/-- What a process starts from: it reads nothing, and what it writes is kept. -/
def origin (d : Disk) : State :=
  .initial d #[.nothing, .ofBytes .empty, .ofBytes .empty] [(0, 0), (1, 1), (2, 2)] []

/-- Runs the program of a process, and tells its exit code unless it is killed. -/
def mainOf (p : Process) (program : Program) : Run (Option Nat) := do
  let environment := p.environment.map fun (name, value) =>
    (Octets.ofText name, Octets.ofText value)
  let arguments := p.arguments.map Octets.ofText
  let path := Octets.ofText p.program
  match ← launch (Shell.run depthLimit) environment launchLimit path program arguments with
  | .exited code => return some code
  | .killed _ => return none

/-- The bytes that were written on a descriptor of a process. -/
def written (s : State) (descriptor : Nat) : ByteArray :=
  match s.streams[descriptor]? with
  | some stream => stream.data s.disk
  | none => .empty

/-- Runs a script to its end. -/
def runner : Process.Runner := fun p d =>
  match startProcess p d with
  | .error fault => (.error fault, d)
  | .ok (started, program) =>
    match (mainOf p program).run (origin started) with
    | .ok code s => (.ok ⟨written s 1, written s 2, code⟩, ⟨s.tree, d.current⟩)
    | .error _ s => (.ok ⟨written s 1, written s 2, none⟩, ⟨s.tree, d.current⟩)

end ConnectorKit.Shell
