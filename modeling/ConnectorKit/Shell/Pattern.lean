import ConnectorKit.Shell.Octets

/-!
Patterns of the shell. Where it is not quoted, a star stands for any text, a question mark for one
byte, and brackets for one of the bytes in them: single ones, ranges and classes.
-/

set_option autoImplicit false
set_option relaxedAutoImplicit false

namespace ConnectorKit.Shell

/-- What can stand between brackets. -/
inductive Member where
  | range (first last : Char)
  | kind (name : Octets)
  deriving DecidableEq, Repr

/-- A part of a pattern. -/
inductive Glyph where
  | char (c : Char)
  | one
  | any
  | set (negated : Bool) (members : List Member)
  deriving DecidableEq, Repr

/-- A byte, and whether it is active, so that it can mean something else than itself. -/
abbrev Marked := Char × Bool

namespace Member

private def isPrint (c : Char) : Bool :=
  32 ≤ c.toNat && c.toNat < 127

/-- The classes of bytes by their names. -/
def kinds : List (String × (Char → Bool)) := [
  ("alnum", Char.isAlphanum),
  ("alpha", Char.isAlpha),
  ("blank", fun c => c = ' ' || c = '\t'),
  ("cntrl", fun c => c.toNat < 32 || c.toNat = 127),
  ("digit", Char.isDigit),
  ("graph", fun c => isPrint c && c ≠ ' '),
  ("lower", Char.isLower),
  ("print", isPrint),
  ("punct", fun c => isPrint c && c ≠ ' ' && !c.isAlphanum),
  ("space", Octets.isSpace),
  ("upper", Char.isUpper),
  ("xdigit", fun c => c.isDigit || ('a' ≤ c && c ≤ 'f') || ('A' ≤ c && c ≤ 'F'))]

def accepts (m : Member) (c : Char) : Bool :=
  match m with
  | .range first last =>
    Octets.weight first ≤ Octets.weight c && Octets.weight c ≤ Octets.weight last
  | .kind name =>
    match kinds.lookup (String.ofList name) with
    | some test => test c
    | none => false

end Member

namespace Glyph

/-- The class that follows an opening bracket, if one does. -/
private def kind? (t : List Marked) : Option (Octets × List Marked) :=
  match t with
  | (':', true) :: rest =>
    let name := (rest.takeWhile (·.1 ≠ ':')).map Prod.fst
    match rest.dropWhile (·.1 ≠ ':') with
    | _ :: (']', true) :: after =>
      if (Member.kinds.lookup (String.ofList name)).isSome then some (name, after) else none
    | _ => none
  | _ => none

/-- The byte that stands first, where an active backslash gives way to the one after it. -/
private def plain? : List Marked → Option (Char × List Marked)
  | ('\\', true) :: (c, _) :: rest => some (c, rest)
  | (c, _) :: rest => some (c, rest)
  | [] => none

/-- The members of a set up to its closing bracket, and what follows it. The first byte does not
close the set. -/
def members : Nat → Bool → List Marked → Option (List Member × List Marked)
  | 0, _, _ => none
  | fuel + 1, first, t =>
    match t with
    | [] => none
    | (c, active) :: rest =>
      if c = ']' && active && !first then some ([], rest)
      else match (if c = '[' && active then kind? rest else none) with
        | some (name, after) => do
          let (ms, after) ← members fuel false after
          return (.kind name :: ms, after)
        | none => do
          let (c, rest) ← plain? t
          match rest with
          | ('-', true) :: (d, closes) :: after =>
            if d = ']' && closes then
              let (ms, after) ← members fuel false rest
              return (.range c c :: ms, after)
            else
              let (d, after) ← plain? ((d, closes) :: after)
              let (ms, after) ← members fuel false after
              return (.range c d :: ms, after)
          | rest =>
            let (ms, after) ← members fuel false rest
            return (.range c c :: ms, after)

/-- The set that an opening bracket starts, and what follows it. -/
def set? (t : List Marked) : Option (Glyph × List Marked) :=
  match t with
  | ('!', true) :: rest => do
    let (ms, after) ← members (rest.length + 1) true rest
    return (.set true ms, after)
  | _ => do
    let (ms, after) ← members (t.length + 1) true t
    return (.set false ms, after)

/-- The glyphs of marked bytes, their number being fuel enough. -/
def ofMarkedFrom : Nat → List Marked → List Glyph
  | 0, _ => []
  | _, [] => []
  | fuel + 1, (c, false) :: rest => .char c :: ofMarkedFrom fuel rest
  | fuel + 1, ('\\', true) :: (c, _) :: rest => .char c :: ofMarkedFrom fuel rest
  | fuel + 1, ('*', true) :: rest => .any :: ofMarkedFrom fuel rest
  | fuel + 1, ('?', true) :: rest => .one :: ofMarkedFrom fuel rest
  | fuel + 1, ('[', true) :: rest =>
    match set? rest with
    | some (glyph, after) => glyph :: ofMarkedFrom fuel after
    | none => .char '[' :: ofMarkedFrom fuel rest
  | fuel + 1, (c, true) :: rest => .char c :: ofMarkedFrom fuel rest

def ofMarked (t : List Marked) : List Glyph :=
  ofMarkedFrom t.length t

/-- The byte that the glyph stands for, if it stands for itself. -/
def char? : Glyph → Option Char
  | .char c => some c
  | _ => none

def accepts (g : Glyph) (c : Char) : Bool :=
  match g with
  | .char d => c = d
  | .one | .any => true
  | .set negated ms => (ms.any (·.accepts c)) != negated

/-- Whether the glyphs cover the whole text. -/
def covers : List Glyph → Octets → Bool
  | [], text => text.isEmpty
  | .any :: rest, [] => covers rest []
  | .any :: rest, c :: text => covers rest (c :: text) || covers (.any :: rest) text
  | _ :: _, [] => false
  | g :: rest, c :: text => g.accepts c && covers rest text
termination_by glyphs text => glyphs.length + text.length

/-- How many bytes of a text can be taken away, from none to all. -/
private def lengths (longest : Bool) (text : Octets) : List Nat :=
  let counts := List.range (text.length + 1)
  if longest then counts.reverse else counts

/-- Whether the glyphs cover a text; after a zero, which stands between parameters, anything may
follow. -/
private def coversFirst (glyphs : List Glyph) (text : Octets) : Bool :=
  covers glyphs (text.takeWhile (· ≠ '\x00'))

/-- A text without the shortest or longest start that the glyphs cover. -/
def trimStart (glyphs : List Glyph) (longest : Bool) (text : Octets) : Octets :=
  match (lengths longest text).find? fun n => coversFirst glyphs (text.take n) with
  | some n => text.drop n
  | none => text

/-- A text without the shortest or longest end that the glyphs cover. -/
def trimEnd (glyphs : List Glyph) (longest : Bool) (text : Octets) : Octets :=
  match (lengths longest text).find? fun n => coversFirst glyphs (text.drop (text.length - n)) with
  | some n => text.take (text.length - n)
  | none => text

end Glyph

end ConnectorKit.Shell
