import ConnectorKit.Shell.Builtin.Basic
import ConnectorKit.Shell.Field

/-!
Reading lines into variables. A line is cut into fields as values are, but into as many as there
are names, so that the last name takes all that is left.
-/

set_option autoImplicit false
set_option relaxedAutoImplicit false

namespace ConnectorKit.Shell.Builtin

/-- A byte of a line, and whether it may separate fields. -/
private def takeByte : Run (Option Char) :=
  modifyGet fun s =>
    match s.stream? 0 with
    | none => (none, s)
    | some (n, stream) =>
      match (stream.data s.disk)[stream.position]? with
      | none => (none, s)
      | some b =>
        (some (Char.ofNat b.toNat), { s with
          streams := s.streams.setIfInBounds n { stream with position := stream.position + 1 } })

private def bytesLeft (s : State) : Nat :=
  match s.stream? 0 with
  | none => 0
  | some (_, stream) => (stream.data s.disk).size - stream.position

/-- A byte before the parts of a line. -/
private def consByte (c : Char) : List Part → List Part
  | ⟨.atSeparators, atoms⟩ :: rest => ⟨.atSeparators, .char c .value :: atoms⟩ :: rest
  | rest => ⟨.atSeparators, [.char c .value]⟩ :: rest

/-- The parts of a line, and whether it came to its end. Unless the line is read as it is, a
backslash keeps the next byte from separating fields, and joins two lines. -/
private def readLine (raw : Bool) : Nat → Run (List Part × Bool)
  | 0 => return ([], false)
  | fuel + 1 => do
    match ← takeByte with
    | none => return ([], false)
    | some '\n' => return ([], true)
    | some c =>
      if c = '\\' && !raw then
        match ← takeByte with
        | none => return ([], false)
        | some c =>
          let (rest, ended) ← readLine raw fuel
          let part : Part := ⟨.nowhere, if c = '\n' then [] else [.char c .quoted]⟩
          return (part :: rest, ended)
      else
        let (rest, ended) ← readLine raw fuel
        return (if c = '\x00' then rest else consByte c rest, ended)

/-- How far a line is cut into as many fields as are asked for. -/
structure LineFields where
  fields : Fields
  /-- How many fields are still to be ended; the last one takes all that is left. -/
  left : Nat
  /-- What the last field is if the line ends here: without the separators at its end. -/
  trimmed : Option (List Atom)

namespace LineFields

/-- Takes a byte into the last field. -/
def takeLast (separators : Octets) (l : LineFields) (a : Atom) : LineFields :=
  let fields := l.fields.add a
  if a.isGap separators then
    { l with fields := fields, trimmed := l.trimmed.or (some l.fields.current) }
  else
    { l with
      fields := { fields with passing := false }
      trimmed := if a.isStop separators && l.fields.passing then l.trimmed else none }

/-- Takes a byte. The separator that would end the last field stays in it, if more follows. -/
def take (separators : Octets) (l : LineFields) (a : Atom) : LineFields :=
  let f := l.fields
  if l.left = 0 then l.takeLast separators a
  else
    let taken := f.take separators false a
    if taken.done.length = f.done.length then { l with fields := taken }
    else if l.left = 1 then
      ⟨{ f.add a with passing := a.isGap separators }, 0, some f.current⟩
    else { l with fields := taken, left := l.left - 1 }

def takePart (separators : Octets) (l : LineFields) (part : Part) : LineFields :=
  match part.cutting with
  | .atSeparators =>
    part.atoms.foldl (take separators) { l with fields := { l.fields with passing := false } }
  | _ => { l with fields := part.atoms.foldl Fields.add l.fields }

/-- The fields of the parts of a line. -/
def ofParts (separators : Octets) (count : Nat) (parts : List Part) : List (List Atom) :=
  let l := parts.foldl (takePart separators) ⟨.start, count, none⟩
  l.fields.done.reverse ++ [(l.trimmed.getD l.fields.current).reverse]

end LineFields

/-- Gives each name a field, and those that are left over the empty text. -/
private def assignFields : List Octets → List (List Atom) → Run Unit
  | [], _ => return ()
  | name :: names, fields => do
    assign name (Atom.text (fields.headD []))
    assignFields names fields.tail

/-- The options of `read` and the names that it is given. A prompt is asked for, but shown to
nobody. -/
private def readOptions : List Octets → Run (Bool × List Octets)
  | [] => return (false, [])
  | ['-', '-'] :: rest => return (false, rest)
  | ('-' :: c :: letters) :: rest => do
    let plain := (c :: letters).takeWhile (· ≠ 'p')
    for letter in plain do
      if letter ≠ 'r' then fault ("Illegal option -".toList ++ [letter])
    let raw := !plain.isEmpty
    match (c :: letters).drop plain.length with
    | [] =>
      let (more, names) ← readOptions rest
      return (raw || more, names)
    | [_] =>
      match rest with
      | [] => faultText "No arg for -p option"
      | _ :: rest =>
        let (more, names) ← readOptions rest
        return (raw || more, names)
    | _ =>
      let (more, names) ← readOptions rest
      return (raw || more, names)
  | arguments => return (false, arguments)

def read (arguments : List Octets) : Run Nat := do
  let (raw, names) ← readOptions arguments
  if names.isEmpty then faultText "arg count"
  let (line, ended) ← readLine raw (bytesLeft (← get) + 1)
  let separators := (← get).separators
  assignFields names (LineFields.ofParts separators names.length line)
  return if ended then 0 else 1

end ConnectorKit.Shell.Builtin
