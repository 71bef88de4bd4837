import ConnectorKit.Text.Search
import ConnectorKit.Text.Utf8

/-!
Text as the shell sees it. The shell cuts, counts and compares bytes, so each byte is held as the
character with its number; only at the borders, for files and messages, do bytes spell characters.
-/

set_option autoImplicit false
set_option relaxedAutoImplicit false

namespace ConnectorKit.Shell

/-- Bytes, each held as the character with its number. -/
abbrev Octets := List Char

namespace Octets

def ofBytes (bytes : ByteArray) : Octets :=
  bytes.toList.map fun b => Char.ofNat b.toNat

def ofText (text : String) : Octets :=
  ofBytes text.toUTF8

def bytes (t : Octets) : ByteArray :=
  ⟨(t.map fun c => UInt8.ofNat c.toNat).toArray⟩

/-- What the bytes spell. -/
def text (t : Octets) : String :=
  Text.Utf8.read (bytes t)

/-- A whole number in digits. -/
def ofInt (n : Int) : Octets :=
  (toString n).toList

/-- The value of a byte, where the upper half counts as negative. -/
def weight (c : Char) : Int :=
  if c.toNat < 128 then c.toNat else c.toNat - 256

/-- Whether a name may start with the byte. -/
def startsName (c : Char) : Bool :=
  c.isAlpha || c = '_'

/-- Whether a name may go on with the byte. -/
def continuesName (c : Char) : Bool :=
  c.isAlphanum || c = '_'

/-- Whether the text can be the name of a variable. -/
def isName (t : Octets) : Bool :=
  match t with
  | c :: rest => startsName c && rest.all continuesName
  | [] => false

/-- Whether the byte is white space of a number. -/
def isSpace (c : Char) : Bool :=
  c = ' ' || (9 ≤ c.toNat && c.toNat ≤ 13)

/-- The parts before and after the first equals sign, if there is one. -/
def assignment? (t : Octets) : Option (Octets × Octets) :=
  match t.dropWhile (· ≠ '=') with
  | _ :: value => some (t.takeWhile (· ≠ '='), value)
  | [] => none

/-- A text in quotes that the shell reads back as it was. -/
def quote (t : Octets) : Octets :=
  (runs t.length t)
where
  /-- Runs without single quotes stand between them, and runs of them between double quotes. -/
  runs : Nat → Octets → Octets
    | 0, t => '\'' :: t ++ ['\'']
    | fuel + 1, t =>
      let plain := '\'' :: t.takeWhile (· ≠ '\'') ++ ['\'']
      let rest := t.dropWhile (· ≠ '\'')
      let quotes := rest.takeWhile (· = '\'')
      let after := rest.dropWhile (· = '\'')
      if rest.isEmpty then plain
      else if after.isEmpty then plain ++ '"' :: quotes ++ ['"']
      else plain ++ '"' :: quotes ++ '"' :: runs fuel after

end Octets

end ConnectorKit.Shell
