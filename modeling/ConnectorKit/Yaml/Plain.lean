import ConnectorKit.Text.Search

/-!
Plain texts that a YAML reader takes for something other than text: null, truth values, whole
numbers of up to 128 bits and finite numbers. Such a text needs quotes.
-/

set_option autoImplicit false
set_option relaxedAutoImplicit false

namespace ConnectorKit.Yaml.Plain

def isNull (text : String) : Bool :=
  text ∈ ["", "null", "Null", "NULL", "~"]

def isTruth (text : String) : Bool :=
  text ∈ ["true", "True", "TRUE", "false", "False", "FALSE"]

private def digit? (radix : Nat) (c : Char) : Option Nat :=
  let value :=
    if '0' ≤ c ∧ c ≤ '9' then c.toNat - 48
    else if 'a' ≤ c ∧ c ≤ 'f' then c.toNat - 87
    else if 'A' ≤ c ∧ c ≤ 'F' then c.toNat - 55
    else radix
  if value < radix then some value else none

/-- The whole number that the digits spell; there has to be one. -/
def wholeOf? (radix : Nat) (digits : List Char) : Option Nat :=
  if digits.isEmpty then none
  else digits.foldl (fun n c => do return (← n) * radix + (← digit? radix c)) (some 0)

private def isWithin (limit : Nat) (n : Option Nat) : Bool :=
  match n with
  | some n => n ≤ limit
  | none => false

private def withoutSign : List Char → List Char
  | '+' :: rest => rest
  | '-' :: rest => rest
  | text => text

private def allDigits (text : List Char) : Bool :=
  text.all Char.isDigit

/-- Digits with a zero before them, signed or not: no number, but easily taken for one. -/
def isPadded (text : List Char) : Bool :=
  match withoutSign text with
  | '0' :: d :: rest => allDigits (d :: rest)
  | _ => false

/-- The radix that the start of an unsigned number tells, and the digits. -/
private def radixed : List Char → Nat × List Char
  | '0' :: 'x' :: rest => (16, rest)
  | '0' :: 'o' :: rest => (8, rest)
  | '0' :: 'b' :: rest => (2, rest)
  | digits => (10, digits)

private def isWholeBelow (limit : Nat) (digits : List Char) : Bool :=
  let (radix, digits) := radixed digits
  isWithin limit (wholeOf? radix digits)

/-- Whether the text is a whole number: at least `-2 ^ 127`, below `2 ^ 128`. -/
def isWhole (text : List Char) : Bool :=
  !isPadded text &&
    match text with
    | '-' :: digits => isWholeBelow (Nat.pow 2 127) digits
    | '+' :: digits => isWholeBelow (Nat.pow 2 128 - 1) digits
    | digits => isWholeBelow (Nat.pow 2 128 - 1) digits

/-- The exponent at the end of a number, zero where there is none. -/
private def exponentOf? : List Char → Option Int
  | [] => some 0
  | e :: rest =>
    if e = 'e' ∨ e = 'E' then
      match rest with
      | '-' :: digits => (wholeOf? 10 digits).map fun n => -(n : Int)
      | '+' :: digits => (wholeOf? 10 digits).map fun n => (n : Int)
      | digits => (wholeOf? 10 digits).map fun n => (n : Int)
    else none

private def numeral (digits : List Char) : Nat :=
  digits.foldl (fun n c => n * 10 + (c.toNat - 48)) 0

/-- The least number that rounds to no finite number of 64 bits. -/
private def infinityBound : Nat :=
  Nat.pow 2 1024 - Nat.pow 2 970

/-- Whether `significand * 10 ^ exponent` rounds to a finite number of 64 bits. -/
def isFinite (significand : Nat) (exponent : Int) : Bool :=
  let places : Int := (Nat.toDigits 10 significand).length + exponent
  if significand = 0 ∨ places ≤ 308 then true
  else if 309 < places then false
  else if 0 ≤ exponent then significand * Nat.pow 10 exponent.toNat < infinityBound
  else significand < infinityBound * Nat.pow 10 (-exponent).toNat

/-- Whether the text without its sign is a finite decimal number. -/
private def isDecimal (text : List Char) : Bool :=
  let whole := text.takeWhile Char.isDigit
  let (fraction, rest) := match text.dropWhile Char.isDigit with
    | '.' :: rest => (rest.takeWhile Char.isDigit, rest.dropWhile Char.isDigit)
    | rest => ([], rest)
  if whole.isEmpty && fraction.isEmpty then false
  else match exponentOf? rest with
    | some exponent => isFinite (numeral (whole ++ fraction)) (exponent - fraction.length)
    | none => false

private def isInfinity (text : List Char) : Bool :=
  text ∈ [['.', 'i', 'n', 'f'], ['.', 'I', 'n', 'f'], ['.', 'I', 'N', 'F']]

private def isNotANumber (text : List Char) : Bool :=
  text ∈ [['.', 'n', 'a', 'n'], ['.', 'N', 'a', 'N'], ['.', 'N', 'A', 'N']]

/-- Whether the text is a number with a fraction or exponent, an infinity or no number. -/
def isReal (text : List Char) : Bool :=
  isInfinity (withoutSign text) || isNotANumber text || isDecimal (withoutSign text)

/-- Whether a reader would not take the text for text. -/
def isAmbiguous (text : String) : Bool :=
  isNull text || isTruth text || isPadded text.toList || isWhole text.toList || isReal text.toList

end ConnectorKit.Yaml.Plain
