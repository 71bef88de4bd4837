/-!
Finite numbers of the 64-bit binary format, in exact integer arithmetic: a magnitude is
`mantissa * 2 ^ exponent`, and every operation is an exact quotient rounded once to the nearest
magnitude, ties to an even mantissa.
-/

set_option autoImplicit false
set_option relaxedAutoImplicit false

namespace ConnectorKit.Decimal

/-- A magnitude `mantissa * 2 ^ exponent`, the mantissa below `2 ^ 53`. -/
structure Magnitude where
  mantissa : Nat
  exponent : Int
  deriving DecidableEq, Repr

/-- A signed magnitude; zero has two signs. -/
structure Binary64 where
  negative : Bool
  magnitude : Magnitude
  deriving DecidableEq, Repr

namespace Binary64

def leastExponent : Int := -1074

def greatestExponent : Int := 971

/-- `numerator / denominator / 2 ^ exponent` as a quotient of whole numbers. -/
def scale (numerator denominator : Nat) (exponent : Int) : Nat × Nat :=
  if 0 ≤ exponent then (numerator, denominator * Nat.pow 2 exponent.toNat)
  else (numerator * Nat.pow 2 (-exponent).toNat, denominator)

/-- The whole number nearest to the quotient, the even one of two. -/
def roundQuotient (numerator denominator : Nat) : Nat :=
  let whole := numerator / denominator
  let rest := numerator % denominator
  if denominator < 2 * rest || (2 * rest == denominator && whole % 2 == 1) then whole + 1
  else whole

/-- The magnitude nearest to the quotient, unless it is beyond the greatest one. -/
def nearest (numerator denominator : Nat) : Option Magnitude :=
  if numerator = 0 then some ⟨0, leastExponent⟩
  else
    let low : Int := max ((numerator.log2 : Int) - denominator.log2 - 53) leastExponent
    let trial := scale numerator denominator low
    let exponent := if trial.1 / trial.2 < Nat.pow 2 53 then low else low + 1
    let exact := scale numerator denominator exponent
    let mantissa := roundQuotient exact.1 exact.2
    let rounded : Magnitude :=
      if mantissa = Nat.pow 2 53 then ⟨Nat.pow 2 52, exponent + 1⟩ else ⟨mantissa, exponent⟩
    if greatestExponent < rounded.exponent then none else some rounded

/-- The magnitude as a quotient of whole numbers. -/
def quotient (m : Magnitude) : Nat × Nat :=
  if 0 ≤ m.exponent then (m.mantissa * Nat.pow 2 m.exponent.toNat, 1)
  else (m.mantissa, Nat.pow 2 (-m.exponent).toNat)

def times (a b : Magnitude) : Option Magnitude :=
  nearest ((quotient a).1 * (quotient b).1) ((quotient a).2 * (quotient b).2)

def dividedBy (a b : Magnitude) : Option Magnitude :=
  nearest ((quotient a).1 * (quotient b).2) ((quotient a).2 * (quotient b).1)

/-- The greatest power of ten within range. -/
def greatestPower : Nat := 308

/-- Divides by the greatest power of ten, `count` times or until nothing is left. -/
def shrink : Nat → Magnitude → Option Magnitude
  | 0, m => some m
  | count + 1, m =>
    if m.mantissa = 0 then some m
    else do shrink count (← dividedBy m (← nearest (Nat.pow 10 greatestPower) 1))

/-- `significand * 10 ^ exponent` by rounded steps: the significand is rounded, then multiplied or
divided by a rounded power of ten. -/
def ofDecimal (significand : Nat) (exponent : Int) : Option Magnitude := do
  let m ← nearest significand 1
  if m.mantissa = 0 then some m
  else if 0 ≤ exponent then
    if (greatestPower : Int) < exponent then none
    else times m (← nearest (Nat.pow 10 exponent.toNat) 1)
  else
    let places := (-exponent).toNat
    let rounds := (places - 1) / greatestPower
    dividedBy (← shrink rounds m) (← nearest (Nat.pow 10 (places - rounds * greatestPower)) 1)

end Binary64

end ConnectorKit.Decimal
