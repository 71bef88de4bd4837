import ConnectorKit.Json.Value

/-!
Reading JSON text in two steps. A draft is what the grammar accepts: it keeps every member, and it
marks a number beyond range and a string with half a surrogate pair without refusing them. A value
is a draft without such marks, nested less deep than the limit, with the last of equal keys.
-/

set_option autoImplicit false
set_option relaxedAutoImplicit false

namespace ConnectorKit.Json

/-- What the grammar accepts; a missing number is beyond range, a missing text has a lone half. -/
inductive Draft where
  | null
  | bool (b : Bool)
  | number (n : Option Number)
  | string (s : Option String)
  | array (items : List Draft)
  | object (members : List (Option String × Draft))
  deriving Inhabited

namespace Draft

private def isGap (c : Char) : Bool :=
  c = ' ' || c = '\t' || c = '\n' || c = '\r'

def skipGap (text : List Char) : List Char :=
  text.dropWhile isGap

private def hexValue? (c : Char) : Option Nat :=
  if '0' ≤ c ∧ c ≤ '9' then some (c.toNat - 48)
  else if 'a' ≤ c ∧ c ≤ 'f' then some (c.toNat - 87)
  else if 'A' ≤ c ∧ c ≤ 'F' then some (c.toNat - 55)
  else none

private def unit? (a b c d : Char) : Option Nat := do
  return (((← hexValue? a) * 16 + (← hexValue? b)) * 16 + (← hexValue? c)) * 16 + (← hexValue? d)

private def escaped? (c : Char) : Option Nat :=
  if c = '"' ∨ c = '\\' ∨ c = '/' then some c.toNat
  else if c = 'b' then some 8
  else if c = 'f' then some 12
  else if c = 'n' then some 10
  else if c = 'r' then some 13
  else if c = 't' then some 9
  else none

/-- The code units of a string after its opening quote, and what follows the closing one. -/
def readUnits : List Char → Option (List Nat × List Char)
  | [] => none
  | '"' :: rest => some ([], rest)
  | '\\' :: 'u' :: a :: b :: c :: d :: rest => do
    let unit ← unit? a b c d
    let (units, rest) ← readUnits rest
    return (unit :: units, rest)
  | '\\' :: e :: rest => do
    let unit ← escaped? e
    let (units, rest) ← readUnits rest
    return (unit :: units, rest)
  | c :: rest =>
    if c.toNat < 0x20 then none
    else do
      let (units, rest) ← readUnits rest
      return (c.toNat :: units, rest)

private def isHigh (n : Nat) : Bool :=
  0xD800 ≤ n && n ≤ 0xDBFF

private def isLow (n : Nat) : Bool :=
  0xDC00 ≤ n && n ≤ 0xDFFF

/-- The characters of code units, unless half a surrogate pair stands alone. -/
def charsOfUnits : List Nat → Option (List Char)
  | [] => some []
  | [n] => if isHigh n || isLow n then none else some [Char.ofNat n]
  | n :: m :: rest =>
    if isHigh n then
      if isLow m then
        (charsOfUnits rest).map (Char.ofNat (0x10000 + (n - 0xD800) * 0x400 + (m - 0xDC00)) :: ·)
      else none
    else if isLow n then none
    else (charsOfUnits (m :: rest)).map (Char.ofNat n :: ·)

def digits (text : List Char) : List Nat × List Char :=
  ((text.takeWhile Char.isDigit).map (·.toNat - 48), text.dropWhile Char.isDigit)

/-- The leading digits that fit into 64 bits on top of `significand`, and those left over. -/
def gather (significand : Nat) : List Nat → Nat × List Nat
  | [] => (significand, [])
  | d :: rest =>
    if significand * 10 + d < Nat.pow 2 64 then gather (significand * 10 + d) rest
    else (significand, d :: rest)

private def numeral (ds : List Nat) : Nat :=
  ds.foldl (fun n d => n * 10 + d) 0

/-- The number with these digits before the point, after it, and this exponent. -/
def number? (negative : Bool) (whole : List Nat) (fraction : Option (List Nat))
    (exponent : Option Int) : Option Number :=
  let (significand, left) := gather 0 whole
  match fraction, exponent with
  | none, none =>
    if left.isEmpty ∧ (!negative ∨ (0 < significand ∧ significand ≤ Nat.pow 2 63)) then
      some (.whole (if negative then -(significand : Int) else significand))
    else real significand left.length
  | _, _ =>
    let places := fraction.getD []
    let (significand, dropped) := gather significand places
    real significand
      (left.length - ((places.length : Int) - dropped.length) + exponent.getD 0)
where
  real (significand : Nat) (exponent : Int) : Option Number :=
    (Decimal.Binary64.ofDecimal significand exponent).map fun m => .real ⟨negative, m⟩

private def readExponent (text : List Char) : Option (Option Int × List Char) :=
  match text with
  | e :: rest =>
    if e = 'e' ∨ e = 'E' then
      let (negative, rest) := match rest with
        | '+' :: rest => (false, rest)
        | '-' :: rest => (true, rest)
        | rest => (false, rest)
      match digits rest with
      | ([], _) => none
      | (ds, rest) => some (some (if negative then -(numeral ds : Int) else numeral ds), rest)
    else some (none, text)
  | [] => some (none, [])

private def readFraction (text : List Char) : Option (Option (List Nat) × List Char) :=
  match text with
  | '.' :: rest =>
    match digits rest with
    | ([], _) => none
    | (ds, rest) => some (some ds, rest)
  | _ => some (none, text)

/-- A number without its sign: no zero before another digit, a digit on each side of the point. -/
def readNumber (negative : Bool) (text : List Char) : Option (Option Number × List Char) := do
  let (whole, rest) := digits text
  match whole with
  | [] => none
  | 0 :: _ :: _ => none
  | _ =>
    let (fraction, rest) ← readFraction rest
    let (exponent, rest) ← readExponent rest
    return (number? negative whole fraction exponent, rest)

private def readWord (word : List Char) (draft : Draft) (text : List Char) :
    Option (Draft × List Char) :=
  if word.isPrefixOf text then some (draft, text.drop word.length) else none

private def readString (text : List Char) : Option (Option String × List Char) := do
  let (units, rest) ← readUnits text
  return ((charsOfUnits units).map String.ofList, rest)

mutual

/-- A value at the start of the text. Each step takes a character, so the length of the text is
fuel enough. -/
def readValue : Nat → List Char → Option (Draft × List Char)
  | 0, _ => none
  | fuel + 1, text =>
    match skipGap text with
    | '"' :: rest => do
      let (s, rest) ← readString rest
      return (.string s, rest)
    | '[' :: rest =>
      match skipGap rest with
      | ']' :: rest => some (.array [], rest)
      | rest => do
        let (items, rest) ← readItems fuel rest
        return (.array items, rest)
    | '{' :: rest =>
      match skipGap rest with
      | '}' :: rest => some (.object [], rest)
      | rest => do
        let (members, rest) ← readMembers fuel rest
        return (.object members, rest)
    | 't' :: rest => readWord ['r', 'u', 'e'] (.bool true) rest
    | 'f' :: rest => readWord ['a', 'l', 's', 'e'] (.bool false) rest
    | 'n' :: rest => readWord ['u', 'l', 'l'] .null rest
    | '-' :: rest => do
      let (n, rest) ← readNumber true rest
      return (.number n, rest)
    | rest => do
      let (n, rest) ← readNumber false rest
      return (.number n, rest)

def readItems : Nat → List Char → Option (List Draft × List Char)
  | 0, _ => none
  | fuel + 1, text => do
    let (item, rest) ← readValue fuel text
    match skipGap rest with
    | ',' :: rest => do
      let (items, rest) ← readItems fuel rest
      return (item :: items, rest)
    | ']' :: rest => some ([item], rest)
    | _ => none

def readMembers : Nat → List Char → Option (List (Option String × Draft) × List Char)
  | 0, _ => none
  | fuel + 1, text =>
    match skipGap text with
    | '"' :: rest => do
      let (key, rest) ← readString rest
      match skipGap rest with
      | ':' :: rest => do
        let (item, rest) ← readValue fuel rest
        match skipGap rest with
        | ',' :: rest => do
          let (members, rest) ← readMembers fuel rest
          return ((key, item) :: members, rest)
        | '}' :: rest => some ([(key, item)], rest)
        | _ => none
      | _ => none
    | _ => none

end

/-- The draft of a text that holds one JSON value and blanks around it. -/
def read? (text : String) : Option Draft :=
  match readValue (2 * text.toList.length + 2) text.toList with
  | some (draft, rest) => if (skipGap rest).isEmpty then some draft else none
  | none => none

mutual

/-- The value of a draft that is nested at most `room` deep. -/
def value? (room : Nat) : Draft → Option Value
  | .null => some .null
  | .bool b => some (.bool b)
  | .number n => n.map .number
  | .string s => s.map .string
  | .array items =>
    match room with
    | 0 => none
    | room + 1 => (itemValues? room items).map .array
  | .object members =>
    match room with
    | 0 => none
    | room + 1 => (memberValues? room members).map fun ms => .object (Value.sortMembers ms)

def itemValues? (room : Nat) : List Draft → Option (List Value)
  | [] => some []
  | d :: rest => do
    let v ← value? room d
    let vs ← itemValues? room rest
    return v :: vs

def memberValues? (room : Nat) : List (Option String × Draft) → Option (List (String × Value))
  | [] => some []
  | (key, d) :: rest => do
    let key ← key
    let v ← value? room d
    let vs ← memberValues? room rest
    return (key, v) :: vs

end

/-- The greatest nesting of arrays and objects. -/
def depthLimit : Nat := 127

end Draft

/-- The value that a text spells. -/
def Value.read? (text : String) : Option Value := do
  (← Draft.read? text).value? Draft.depthLimit

end ConnectorKit.Json
