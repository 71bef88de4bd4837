import ConnectorKit.Yaml.Plain

/-!
A text as the value of a member in a YAML block mapping. It is written plain where a reader takes it
for the same text, as a literal block where it has line feeds, else in single quotes, or in double
quotes where characters have to be escaped. Lines are never folded.
-/

set_option autoImplicit false
set_option relaxedAutoImplicit false

namespace ConnectorKit.Yaml

inductive Style where
  | plain
  | single
  | double
  | literal
  deriving DecidableEq, Repr

namespace Scalar

def isPrintable (c : Char) : Bool :=
  let n := c.toNat
  n = 0xA || (0x20 ≤ n && n ≤ 0x7E) || (0xA0 ≤ n && n ≠ 0xFEFF && n ≠ 0xFFFE && n ≠ 0xFFFF)

def isBreak (c : Char) : Bool :=
  c = '\n' || c = '\r' || c.toNat = 0x85 || c.toNat = 0x2028 || c.toNat = 0x2029

/-- Whether a blank, a line break or the end of the text stands first. -/
def atGap : List Char → Bool
  | [] => true
  | c :: _ => c = ' ' || c = '\t' || c = '\x00' || isBreak c

/-- Whether a text that starts like this means something else in a block. -/
def startsMark : List Char → Bool
  | '-' :: '-' :: '-' :: _ => true
  | '.' :: '.' :: '.' :: _ => true
  | c :: rest =>
    c ∈ ['#', ',', '[', ']', '{', '}', '&', '*', '!', '|', '>', '\'', '"', '%', '@', '`'] ||
      (c ∈ ['?', ':', '-'] && atGap rest)
  | [] => false

/-- Whether a mark stands after the first character: a colon before a gap, or a number sign after
one. `previous` is the character before. -/
def holdsMark (previous : Char) : List Char → Bool
  | [] => false
  | c :: rest =>
    (c = ':' && atGap rest) || (c = '#' && atGap [previous]) || holdsMark c rest

def hasMark (text : List Char) : Bool :=
  startsMark text ||
    match text with
    | c :: rest => holdsMark c rest
    | [] => false

/-- Whether a character of the first kind stands directly before one of the second. -/
def hasPair (first second : Char → Bool) : List Char → Bool
  | c :: d :: rest => (first c && second d) || hasPair first second (d :: rest)
  | _ => false

private def isSpace (c : Char) : Bool :=
  c = ' '

private def isEdge (c : Char) : Bool :=
  isSpace c || isBreak c

/-- Whether only double quotes keep the text. -/
def needsEscape (text : List Char) : Bool :=
  text.any (fun c => !isPrintable c) || hasPair isSpace isBreak text

def allowsPlain (text : List Char) : Bool :=
  !(needsEscape text || text.any isBreak || hasMark text ||
    (text.head?.map isEdge).getD false || (text.getLast?.map isEdge).getD false)

def allowsSingle (text : List Char) : Bool :=
  !(needsEscape text || hasPair isBreak isSpace text)

def allowsLiteral (text : List Char) : Bool :=
  !(needsEscape text || text.getLast? = some ' ')

/-- How a text is written. -/
def style (text : String) : Style :=
  let chars := text.toList
  if chars.contains '\n' then if allowsLiteral chars then .literal else .double
  else if !Plain.isAmbiguous text && allowsPlain chars then .plain
  else if allowsSingle chars then .single
  else .double

private def hexDigits (n : Nat) : List Char :=
  (Nat.toDigits 16 n).map Char.toUpper

private def hexPadded (width n : Nat) : List Char :=
  List.replicate (width - (hexDigits n).length) '0' ++ hexDigits n

/-- A character in double quotes. -/
def escape (c : Char) : List Char :=
  let n := c.toNat
  if c = '"' ∨ c = '\\' then ['\\', c]
  else if isPrintable c ∧ !isBreak c then [c]
  else match n with
    | 0 => ['\\', '0']
    | 7 => ['\\', 'a']
    | 8 => ['\\', 'b']
    | 9 => ['\\', 't']
    | 10 => ['\\', 'n']
    | 11 => ['\\', 'v']
    | 12 => ['\\', 'f']
    | 13 => ['\\', 'r']
    | 27 => ['\\', 'e']
    | 0x85 => ['\\', 'N']
    | 0x2028 => ['\\', 'L']
    | 0x2029 => ['\\', 'P']
    | _ => if n ≤ 0xFF then '\\' :: 'x' :: hexPadded 2 n else '\\' :: 'u' :: hexPadded 4 n

/-- The lines of a text, each break kept at the end of its line. -/
def linesWithBreaks : List Char → List (List Char)
  | [] => []
  | c :: rest =>
    if isBreak c then [c] :: linesWithBreaks rest
    else match linesWithBreaks rest with
      | line :: lines => (c :: line) :: lines
      | [] => [[c]]

private def startsWithBreak (line : List Char) : Bool :=
  (line.head?.map isBreak).getD false

/-- A line with blanks before it, unless it is empty. -/
def indentLine (indent : Nat) (line : List Char) : List Char :=
  if startsWithBreak line then line else List.replicate indent ' ' ++ line

/-- The indentation digit, where the first line does not tell the indentation. -/
def indentHint (text : List Char) : List Char :=
  if (text.head?.map isEdge).getD false then ['2'] else []

/-- What becomes of the breaks at the end of a block. -/
def endHint (text : List Char) : List Char :=
  match text.reverse with
  | [] => ['-']
  | [last] => if isBreak last then ['+'] else ['-']
  | last :: before :: _ =>
    if !isBreak last then ['-'] else if isBreak before then ['+'] else []

def literalText (indent : Nat) (text : List Char) : List Char :=
  let body := (linesWithBreaks text).flatMap (indentLine indent)
  let finish := if (text.getLast?.map isBreak).getD false then [] else ['\n']
  '|' :: indentHint text ++ endHint text ++ '\n' :: body ++ finish

private def doubleQuote (c : Char) : List Char :=
  if c = '\'' then ['\'', '\''] else [c]

/-- In single quotes; what follows a break is indented. -/
def singleText (indent : Nat) (text : List Char) : List Char :=
  let body := match linesWithBreaks text with
    | [] => []
    | line :: lines => line ++ lines.flatMap (indentLine indent)
  let finish :=
    if (text.getLast?.map isBreak).getD false then List.replicate indent ' ' else []
  '\'' :: body.flatMap doubleQuote ++ finish ++ ['\'', '\n']

/-- The text after `key: `, with the line feed that ends it; `indent` is that of lines inside. -/
def write (indent : Nat) (text : String) : List Char :=
  let chars := text.toList
  match style text with
  | .plain => chars ++ ['\n']
  | .single => singleText indent chars
  | .double => '"' :: chars.flatMap escape ++ ['"', '\n']
  | .literal => literalText indent chars

end Scalar

/-- One member of a block mapping that stands `depth` blanks deep. -/
def member (depth : Nat) (key text : String) : String :=
  String.ofList (List.replicate depth ' ' ++ key.toList ++ ':' :: ' ' ::
    Scalar.write (depth + 2) text)

/-- The line that opens a mapping inside a mapping. -/
def opening (depth : Nat) (key : String) : String :=
  String.ofList (List.replicate depth ' ' ++ key.toList ++ [':', '\n'])

end ConnectorKit.Yaml
