import ConnectorKit.Shell.Builtin.Basic
import ConnectorKit.Shell.Program

/-!
What names mean as commands: texts in their place, and programs on the search path.
-/

set_option autoImplicit false
set_option relaxedAutoImplicit false

namespace ConnectorKit.Shell.Builtin

/-- The rows of a table of so many, each with its names in the order in which they came. -/
def byRow {α : Type} (rows : Nat) (name : α → Octets) (items : List α) : List α :=
  let row (a : α) : Nat :=
    let t := name a
    ((t.head?.map Char.toNat).getD 0 * 16 + (t.map Char.toNat).foldl (· + ·) 0) % 32768 % rows
  items.mergeSort fun a b => decide (row a ≤ row b)

private def aliasLine (name text : Octets) : Octets :=
  name ++ '=' :: Octets.quote text ++ ['\n']

/-- Tells or sets the texts that take the place of names. -/
def alias_ (arguments : List Octets) : Run Nat := do
  if arguments.isEmpty then
    print ((byRow 39 Prod.fst (← get).aliases).flatMap fun (name, text) => aliasLine name text)
  else
    let parts ← arguments.mapM fun a => do
      let s ← get
      match a.take 1, Octets.assignment? (a.drop 1) with
      | first, some (rest, text) =>
        let name := first ++ rest
        let replaced := s.aliases.map fun (n, t) => if n = name then (n, text) else (n, t)
        set { s with
          aliases := if (s.aliases.lookup name).isSome then replaced
            else s.aliases ++ [(name, text)] }
        return ([], 0)
      | _, none =>
        match s.aliases.lookup a with
        | some text => return (aliasLine a text, 0)
        | none =>
          discard <| write 2 ("alias: ".toList ++ a ++ " not found\n".toList)
          return ([], 1)
    printAll parts

def unalias (arguments : List Octets) : Run Nat := do
  let (letters, names) ← options ['a'] arguments
  if !letters.isEmpty then
    modify fun s => { s with aliases := [] }
    return 0
  let statuses ← names.mapM fun name => do
    let s ← get
    if (s.aliases.lookup name).isSome then
      set { s with aliases := s.aliases.filter (·.1 ≠ name) }
      return 0
    else
      discard <| write 2 ("unalias: ".toList ++ name ++ " not found\n".toList)
      return 1
  return statuses.foldl max 0

/-- Tells the programs that were found on the search path, or looks for programs there. -/
def hash (arguments : List Octets) : Run Nat := do
  let (letters, names) ← options ['r'] arguments
  if !letters.isEmpty then
    modify fun s => { s with found := [] }
    return 0
  let s ← get
  if names.isEmpty then
    print ((byRow 31 Prod.fst s.found).flatMap fun (name, elsewhere) =>
      match s.search name with
      | .path p => p ++ if elsewhere then ['*', '\n'] else ['\n']
      | .unusable _ => [])
  else
    let statuses ← names.mapM fun name => do
      match (← get).meaning true name with
      | .unusable f =>
        complain (name ++ (": " ++ faultReason f).toList)
        return 1
      | _ =>
        modify (·.remember name)
        return 0
    return statuses.foldl max 0

/-- What is told of a name as a command, with the status. -/
private def told (name : Octets) : Option Octets → Run (Octets × Nat)
  | some words => do
    modify fun s => if (s.found.lookup name).isSome then s else s.remember name
    return (words ++ ['\n'], 0)
  | none => return (name ++ ": not found\n".toList, 127)

/-- Tells what each of the names means as a command. -/
def type (arguments : List Octets) : Run Nat := do
  printAll (← arguments.mapM fun name => do told name ((← get).describe name true))

/-- Tells what the first argument means as a command. -/
def command (arguments : List Octets) : Run Nat := do
  let (letters, names) ← options ['p', 'v', 'V'] arguments
  let inWords := letters.contains 'V'
  match names with
  | [] => return 0
  | name :: _ =>
    if !inWords && !letters.contains 'v' then return 0
    match (← get).describe name inWords with
    | none => if inWords then printAll [← told name none] else return 127
    | words => printAll [← told name words]

end ConnectorKit.Shell.Builtin
