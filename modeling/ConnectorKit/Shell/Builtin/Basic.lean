import ConnectorKit.Shell.Condition
import ConnectorKit.Shell.Format
import ConnectorKit.Shell.State

/-!
Options and output of the built-in commands, and the commands that only print or tell a truth. Each
takes its arguments and gives its status.
-/

set_option autoImplicit false
set_option relaxedAutoImplicit false

namespace ConnectorKit.Shell.Builtin

def say (t : Octets) : Run Bool :=
  write 1 t

/-- The status of a command that only writes; where it cannot, that is said. -/
def print (t : Octets) : Run Nat := do
  if t.isEmpty || (← say t) then return 0
  let name := ((← get).builtin).getD []
  complain (name ++ ": I/O error".toList)
  return 1

/-- Writes parts that have a status each, and gives the greatest one. -/
def printAll (parts : List (Octets × Nat)) : Run Nat := do
  return (parts.map Prod.snd).foldl max (← print (parts.flatMap Prod.fst))

/-- The options at the start of the arguments, each one a letter, and what follows them. -/
def options (known : List Char) : List Octets → Run (List Char × List Octets)
  | [] => return ([], [])
  | ['-', '-'] :: rest => return ([], rest)
  | ('-' :: c :: letters) :: rest => do
    for letter in c :: letters do
      if !known.contains letter then fault ("Illegal option -".toList ++ [letter])
    let (more, rest) ← options known rest
    return (c :: letters ++ more, rest)
  | arguments => return ([], arguments)

def echo (arguments : List Octets) : Run Nat :=
  print (Message.echo arguments)

def printf (arguments : List Octets) : Run Nat := do
  let (_, arguments) ← options [] arguments
  match arguments with
  | [] => faultText "usage: printf format [arg ...]"
  | format :: rest =>
    let p := Format.printf format rest
    for (argument, words) in p.complaints do
      complain (argument ++ ": ".toList ++ words.toList)
    match p.fault with
    | some message =>
      discard <| say p.text
      fault message
    | none =>
      let status ← print p.text
      return max status (if p.complaints.isEmpty then 0 else 1)

def test (arguments : List Octets) : Run Nat := do
  return if ← Condition.holds arguments then 0 else 1

/-- The test in brackets: the last argument has to start with the closing one. -/
def bracket (arguments : List Octets) : Run Nat := do
  if (arguments.getLastD []).head? ≠ some ']' then faultText "missing ]"
  test arguments.dropLast

end ConnectorKit.Shell.Builtin
