/-!
Reading bytes as UTF-8 without failing: each longest run that starts a character and is cut off,
and each byte that starts none, is read as the replacement character.
-/

set_option autoImplicit false
set_option relaxedAutoImplicit false

namespace ConnectorKit.Text.Utf8

def within (low high : Nat) (b : UInt8) : Bool :=
  low ≤ b.toNat && b.toNat ≤ high

def payload (b : UInt8) : Nat :=
  b.toNat % 64

/-- The bytes that may stand second after `lead`. -/
def secondBounds (lead : Nat) : Nat × Nat :=
  if lead = 0xE0 then (0xA0, 0xBF)
  else if lead = 0xED then (0x80, 0x9F)
  else if lead = 0xF0 then (0x90, 0xBF)
  else if lead = 0xF4 then (0x80, 0x8F)
  else (0x80, 0xBF)

def opens (lead : Nat) (b : UInt8) : Bool :=
  within (secondBounds lead).1 (secondBounds lead).2 b

/-- The character that `lead` starts, and how many of the following bytes belong to it. -/
def readChar (lead : UInt8) (rest : List UInt8) : Char × Nat :=
  let n := lead.toNat
  if n < 0x80 then (Char.ofNat n, 0)
  else if 0xC2 ≤ n ∧ n ≤ 0xDF then
    match rest with
    | b :: _ => if opens n b then (Char.ofNat (n % 32 * 64 + payload b), 1) else ('\uFFFD', 0)
    | [] => ('\uFFFD', 0)
  else if 0xE0 ≤ n ∧ n ≤ 0xEF then
    match rest with
    | b :: c :: _ =>
      if !opens n b then ('\uFFFD', 0)
      else if !within 0x80 0xBF c then ('\uFFFD', 1)
      else (Char.ofNat ((n % 16 * 64 + payload b) * 64 + payload c), 2)
    | [b] => ('\uFFFD', if opens n b then 1 else 0)
    | [] => ('\uFFFD', 0)
  else if 0xF0 ≤ n ∧ n ≤ 0xF4 then
    match rest with
    | b :: c :: d :: _ =>
      if !opens n b then ('\uFFFD', 0)
      else if !within 0x80 0xBF c then ('\uFFFD', 1)
      else if !within 0x80 0xBF d then ('\uFFFD', 2)
      else (Char.ofNat (((n % 8 * 64 + payload b) * 64 + payload c) * 64 + payload d), 3)
    | [b, c] =>
      ('\uFFFD', if !opens n b then 0 else if within 0x80 0xBF c then 2 else 1)
    | [b] => ('\uFFFD', if opens n b then 1 else 0)
    | [] => ('\uFFFD', 0)
  else ('\uFFFD', 0)

/-- The characters of the bytes that are left after passing over `skip` of them. -/
def charsFrom : Nat → List UInt8 → List Char
  | _, [] => []
  | skip + 1, _ :: rest => charsFrom skip rest
  | 0, lead :: rest =>
    let (c, used) := readChar lead rest
    c :: charsFrom used rest

/-- The text that the bytes spell, with replacement characters for what spells none. -/
def read (bytes : ByteArray) : String :=
  String.ofList (charsFrom 0 bytes.toList)

end ConnectorKit.Text.Utf8
