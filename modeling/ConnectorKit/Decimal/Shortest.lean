import ConnectorKit.Decimal.Binary64

/-!
Decimal text of a binary number: the fewest digits that no other number is nearer to, and of those
the nearest. The digits are sought on the decimal grids with one, two and more places, exactly.
-/

set_option autoImplicit false
set_option relaxedAutoImplicit false

namespace ConnectorKit.Decimal.Shortest

/-- The value `digits * 10 ^ exponent`. -/
structure Numeral where
  digits : Nat
  exponent : Int
  deriving DecidableEq, Repr

private def digitCount (n : Nat) : Nat :=
  if n = 0 then 0 else (Nat.toDigits 10 n).length

/-- A positive magnitude and the ends of the interval that rounds to it, over one denominator. -/
structure Interval where
  low : Nat
  value : Nat
  high : Nat
  denominator : Nat
  closed : Bool

def interval (m : Magnitude) : Interval :=
  let gap := if m.mantissa = Nat.pow 2 52 ∧ Binary64.leastExponent < m.exponent then 1 else 2
  let up := if 2 ≤ m.exponent then Nat.pow 2 (m.exponent - 2).toNat else 1
  let down := if 2 ≤ m.exponent then 1 else Nat.pow 2 (2 - m.exponent).toNat
  ⟨(4 * m.mantissa - gap) * up, 4 * m.mantissa * up, (4 * m.mantissa + 2) * up, down,
    m.mantissa % 2 = 0⟩

/-- The exponent of the first digit. -/
def leadingExponent (i : Interval) : Int :=
  if i.denominator ≤ i.value then (digitCount (i.value / i.denominator) : Int) - 1
  else -(digitCount ((i.denominator - 1) / i.value) : Int)

/-- The nearest point of the grid of `10 ^ exponent`, if it rounds to the value. -/
def onGrid? (i : Interval) (exponent : Int) : Option Numeral :=
  let unit := if 0 ≤ exponent then i.denominator * Nat.pow 10 exponent.toNat else i.denominator
  let factor := if 0 ≤ exponent then 1 else Nat.pow 10 (-exponent).toNat
  let value := i.value * factor
  let inside (d : Nat) : Bool :=
    if i.closed then i.low * factor ≤ d * unit && d * unit ≤ i.high * factor
    else i.low * factor < d * unit && d * unit < i.high * factor
  let below := value / unit
  let rest := value % unit
  let above := below + 1
  match inside below, inside above with
  | true, true =>
    if 2 * rest < unit || (2 * rest == unit && below % 2 == 0) then some ⟨below, exponent⟩
    else some ⟨above, exponent⟩
  | true, false => some ⟨below, exponent⟩
  | false, true => some ⟨above, exponent⟩
  | false, false => none

/-- The shortest numeral of a magnitude; seventeen digits always suffice. -/
def numeral (m : Magnitude) : Numeral :=
  if m.mantissa = 0 then ⟨0, 0⟩
  else
    let i := interval m
    let lead := leadingExponent i
    ((List.range 17).findSome? fun (extra : Nat) => onGrid? i (lead - extra)).getD ⟨0, 0⟩

/-- The digits without zeros at their end, and the place of the point counted from their start. -/
def parts (n : Numeral) : List Char × Int :=
  let digits := Nat.toDigits 10 n.digits
  let kept := (digits.reverse.dropWhile (· = '0')).reverse
  if kept.isEmpty then (['0'], 1) else (kept, digits.length + n.exponent)

/-- The digits with a point, and at least one digit on each side of it. -/
def positional (digits : List Char) (point : Int) : List Char :=
  if point ≤ 0 then '0' :: '.' :: List.replicate (-point).toNat '0' ++ digits
  else if (digits.length : Int) ≤ point then
    digits ++ List.replicate (point.toNat - digits.length) '0' ++ ['.', '0']
  else digits.take point.toNat ++ '.' :: digits.drop point.toNat

/-- One digit, the others after a point, and the signed exponent. -/
def scientific (digits : List Char) (point : Int) : List Char :=
  let exponent := point - 1
  let fraction := match digits.drop 1 with
    | [] => []
    | more => '.' :: more
  digits.take 1 ++ fraction ++ 'e' :: (if exponent < 0 then '-' else '+')
    :: Nat.toDigits 10 exponent.natAbs

def signed (x : Binary64) (text : List Char) : List Char :=
  if x.negative then '-' :: text else text

/-- Positional from the fifth place after the point to the sixteenth before it, else scientific. -/
def text (x : Binary64) : List Char :=
  let (digits, point) := parts (numeral x.magnitude)
  signed x (if -5 < point ∧ point ≤ 16 then positional digits point else scientific digits point)

end ConnectorKit.Decimal.Shortest
