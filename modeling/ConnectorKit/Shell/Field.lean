import ConnectorKit.Shell.Pattern

/-!
Fields of a word. What a word gives is a row of parts, and each says where it is cut into fields:
values outside quotes at separators, all parameters in quotes where two of them meet, and all else
nowhere. White space between fields counts once however much of it there is; any other separator
ends a field of its own.
-/

set_option autoImplicit false
set_option relaxedAutoImplicit false

namespace ConnectorKit.Shell

/-- Where a byte of a word came from. -/
inductive Origin where
  | script
  | quoted
  | value
  deriving DecidableEq, Repr

/-- What a word gives, from left to right. -/
inductive Atom where
  | char (c : Char) (origin : Origin)
  /-- A quote stood here. -/
  | quote
  /-- The border of two parameters. -/
  | cut
  deriving DecidableEq, Repr

namespace Atom

def ofOctets (origin : Origin) (t : Octets) : List Atom :=
  t.map (.char · origin)

/-- The byte of an atom, for matching: a border is a zero. -/
def byte? : Atom → Option Char
  | .char c _ => some c
  | .cut => some '\x00'
  | .quote => none

/-- Atoms as one text. -/
def text (atoms : List Atom) : Octets :=
  atoms.filterMap fun
    | .char c _ => some c
    | .cut => some ' '
    | .quote => none

/-- Atoms as the bytes of a pattern; what is quoted stands for itself. -/
def marked (atoms : List Atom) : List Marked :=
  atoms.filterMap fun
    | .char c origin => some (c, origin ≠ .quoted)
    | .cut => some (' ', true)
    | .quote => none

/-- Whether the atom is white space between fields. -/
def isGap (separators : Octets) : Atom → Bool
  | .char c .value => separators.contains c && (c = ' ' || c = '\t' || c = '\n')
  | .cut => true
  | _ => false

/-- Whether the atom separates fields and is no white space. -/
def isStop (separators : Octets) : Atom → Bool
  | .char c .value => separators.contains c && !(c = ' ' || c = '\t' || c = '\n')
  | _ => false

end Atom

/-- Where a part of what a word gives is cut. -/
inductive Cutting where
  | nowhere
  /-- At separators, and where two parameters meet. -/
  | atSeparators
  /-- Only where two parameters meet. -/
  | atBorders
  /-- Nowhere, and empty parts right before it decide nothing about the next one. -/
  | anew
  deriving DecidableEq, Repr

/-- A part of what a word gives. -/
structure Part where
  cutting : Cutting
  atoms : List Atom

/-- All atoms of parts. -/
def Part.all (parts : List Part) : List Atom :=
  parts.flatMap Part.atoms

/-- How far a word is cut. -/
structure Fields where
  /-- The fields that are done, backwards. -/
  done : List (List Atom)
  /-- The atoms of the field that is not done, backwards. -/
  current : List Atom
  /-- White space has ended a field, and separators that belong to it may follow. -/
  passing : Bool
  /-- The last part that is cut was one of all parameters in quotes. -/
  afterBorders : Bool
  /-- The same of the last one before the empty parts that were taken last, the first part that is
  cut not being counted among these; if there was none, there is nothing here. -/
  before : Option Bool

namespace Fields

def start : Fields :=
  ⟨[], [], false, false, none⟩

/-- Ends the current field. -/
def next (f : Fields) : Fields :=
  { f with done := f.current.reverse :: f.done, current := [] }

def add (f : Fields) (a : Atom) : Fields :=
  { f with current := a :: f.current }

/-- Takes an atom of a part that is cut at separators. In a strict part white space is a separator
like any other. -/
def take (separators : Octets) (strict : Bool) (f : Fields) (a : Atom) : Fields :=
  let gap := a.isGap separators
  if gap || a.isStop separators then
    if f.passing then { f with passing := gap }
    else if strict then f.next
    else if gap && f.current.isEmpty then f
    else { f.next with passing := gap }
  else { f.add a with passing := false }

/-- Notes what part was cut last. -/
def note (f : Fields) (part : Part) (borders : Bool) : Fields :=
  { f with
    afterBorders := borders
    before := if part.atoms.isEmpty then f.before.or (some borders) else some borders }

/-- Takes a part. One that follows all parameters in quotes is cut strictly. -/
def takePart (separators : Octets) (f : Fields) (part : Part) : Fields :=
  match part.cutting with
  | .nowhere =>
    let f := part.atoms.foldl add f
    if part.atoms.isEmpty then f else { f with before := f.before.map fun _ => f.afterBorders }
  | .atSeparators =>
    (part.atoms.foldl (take separators f.afterBorders) { f with passing := false }).note part false
  | .atBorders =>
    (part.atoms.foldl (fun f a => if a = .cut then f.next else f.add a) f).note part true
  | .anew => { f with afterBorders := f.before.getD false }

/-- The fields of a word that gave the parts. The last one counts if anything is in it or it is a
parameter in quotes. -/
def ofParts (separators : Octets) (parts : List Part) : List (List Atom) :=
  let f := parts.foldl (takePart separators) start
  (if f.afterBorders || !f.current.isEmpty then f.next else f).done.reverse

end Fields

end ConnectorKit.Shell
