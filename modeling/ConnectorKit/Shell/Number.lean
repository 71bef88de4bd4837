import ConnectorKit.Shell.Octets

/-!
Whole numbers as text. White space may stand on both sides, a sign before the digits; where the
base is open, `0x` starts a hexadecimal number, `0b` a binary one and another zero an octal one.
-/

set_option autoImplicit false
set_option relaxedAutoImplicit false

namespace ConnectorKit.Shell.Number

/-- The least and the greatest number of a word of the machine. -/
def least : Int := -9223372036854775808

def greatest : Int := 9223372036854775807

def fits (n : Int) : Bool :=
  least ≤ n && n ≤ greatest

/-- The number of a word that is nearest. -/
def clamp (n : Int) : Int :=
  max least (min greatest n)

/-- The value of a digit of any base up to sixteen. -/
def digit? (base : Nat) (c : Char) : Option Nat :=
  let value :=
    if c.isDigit then c.toNat - 48
    else if 'a' ≤ c ∧ c ≤ 'f' then c.toNat - 87
    else if 'A' ≤ c ∧ c ≤ 'F' then c.toNat - 55
    else base
  if value < base then some value else none

/-- The value of the digits at the start of a text, and what follows them. -/
def digits (base : Nat) : Nat → Octets → Nat × Octets
  | value, [] => (value, [])
  | value, c :: rest =>
    match digit? base c with
    | some d => digits base (value * base + d) rest
    | none => (value, c :: rest)

/-- The value of the digits at the start of a text, if it starts with one. -/
def natural? (base : Nat) (t : Octets) : Option (Nat × Octets) :=
  match t with
  | c :: _ => if (digit? base c).isSome then some (digits base 0 t) else none
  | [] => none

/-- The value of the digits at the start of a text in a base that the text tells. -/
def openBase? (t : Octets) : Option (Nat × Octets) :=
  match t with
  | '0' :: x :: rest =>
    if x = 'x' ∨ x = 'X' then (natural? 16 rest).or (some (0, x :: rest))
    else if x = 'b' ∨ x = 'B' then (natural? 2 rest).or (some (0, x :: rest))
    else natural? 8 t
  | '0' :: _ => natural? 8 t
  | _ => natural? 10 t

/-- The number at the start of a text, and what follows it. -/
def leading? (anyBase : Bool) (t : Octets) : Option (Int × Octets) :=
  let read := if anyBase then openBase? else natural? 10
  match t.dropWhile Octets.isSpace with
  | '-' :: rest => (read rest).map fun (n, rest) => (-(n : Int), rest)
  | '+' :: rest => (read rest).map fun (n, rest) => ((n : Int), rest)
  | rest => (read rest).map fun (n, rest) => ((n : Int), rest)

/-- The number that a text is, white space aside. -/
def ofText? (t : Octets) : Option Int :=
  match leading? false t with
  | some (n, rest) => if rest.all Octets.isSpace && fits n then some n else none
  | none => none

/-- The number that a text is in a base of its own; blank text is zero. -/
def ofValue? (t : Octets) : Option Int :=
  if t.all Octets.isSpace then some 0
  else match leading? true t with
    | some (n, rest) => if rest.all Octets.isSpace && fits n then some n else none
    | none => none

/-- A count: a number that is not negative and not too great. -/
def count? (t : Octets) : Option Nat :=
  match ofText? t with
  | some n => if 0 ≤ n ∧ n ≤ 2147483647 then some n.toNat else none
  | none => none

end ConnectorKit.Shell.Number
