import ConnectorKit.Proofs.Text.Bytes
import ConnectorKit.Text.Utf8

/-!
The bytes of a text spell that text. Reading without failing changes nothing where there is nothing
to replace.
-/

set_option autoImplicit false
set_option relaxedAutoImplicit false

namespace ConnectorKit.Text.Utf8

private theorem toNat_ofNat {n : Nat} (byte : n < 256) : (UInt8.ofNat n).toNat = n := by
  rw [UInt8.toNat_ofNat']
  omega

private theorem within_eq (low high : Nat) {n : Nat} {b : UInt8} (code : b.toNat = n) (above : low ≤ n)
    (below : n ≤ high) : within low high b = true := by
  simp [within, code, above, below]

/-- A byte that may go on any character may go second where the number of the character is not too
small for the length and no surrogate. -/
private theorem opens_eq (lead : Nat) {n : Nat} {b : UInt8} (code : b.toNat = n) (above : 0x80 ≤ n)
    (below : n ≤ 0xBF) (three : lead = 0xE0 → 0xA0 ≤ n) (plain : lead = 0xED → n ≤ 0x9F)
    (four : lead = 0xF0 → 0x90 ≤ n) (last : lead = 0xF4 → n ≤ 0x8F) : opens lead b = true := by
  unfold opens secondBounds
  split
  · exact within_eq _ _ code (three ‹_›) below
  · split
    · exact within_eq _ _ code above (plain ‹_›)
    · split
      · exact within_eq _ _ code (four ‹_›) below
      · split
        · exact within_eq _ _ code above (last ‹_›)
        · exact within_eq _ _ code above below

section Lengths

variable {v : Nat} (rest : List UInt8)

private theorem readChar_one (below : v ≤ 0x7F) :
    readChar (UInt8.ofNat v) rest = (Char.ofNat v, 0) := by
  have first := toNat_ofNat (n := v) (by omega)
  unfold readChar
  dsimp only
  rw [first, if_pos (by omega)]

private theorem readChar_two (above : 0x7F < v) (below : v ≤ 0x7FF) :
    readChar (UInt8.ofNat (v / 64 % 32 + 192)) (UInt8.ofNat (v % 64 + 128) :: rest) =
      (Char.ofNat v, 1) := by
  have first := toNat_ofNat (n := v / 64 % 32 + 192) (by omega)
  have second := toNat_ofNat (n := v % 64 + 128) (by omega)
  have opened := opens_eq (v / 64 % 32 + 192) second (by omega) (by omega) (by omega)
    (by omega) (by omega) (by omega)
  have value : (v / 64 % 32 + 192) % 32 * 64 + payload (UInt8.ofNat (v % 64 + 128)) = v := by
    rw [payload, second]
    omega
  unfold readChar
  dsimp only
  rw [first, if_neg (by omega), if_pos (by omega)]
  simp only [opened, if_true, value]

private theorem readChar_three (above : 0x7FF < v) (below : v ≤ 0xFFFF)
    (valid : v < 0xD800 ∨ 0xDFFF < v) :
    readChar (UInt8.ofNat (v / 4096 % 16 + 224))
        (UInt8.ofNat (v / 64 % 64 + 128) :: UInt8.ofNat (v % 64 + 128) :: rest) =
      (Char.ofNat v, 2) := by
  have first := toNat_ofNat (n := v / 4096 % 16 + 224) (by omega)
  have second := toNat_ofNat (n := v / 64 % 64 + 128) (by omega)
  have third := toNat_ofNat (n := v % 64 + 128) (by omega)
  have opened := opens_eq (v / 4096 % 16 + 224) second (by omega) (by omega)
    (by omega) (by omega) (by omega) (by omega)
  have goes := within_eq 0x80 0xBF third (by omega) (by omega)
  have value : ((v / 4096 % 16 + 224) % 16 * 64 + payload (UInt8.ofNat (v / 64 % 64 + 128))) * 64 +
      payload (UInt8.ofNat (v % 64 + 128)) = v := by
    rw [payload, payload, second, third]
    omega
  unfold readChar
  dsimp only
  rw [first, if_neg (by omega), if_neg (by omega), if_pos (by omega)]
  simp only [opened, goes, Bool.not_true, Bool.false_eq_true, if_false, value]

private theorem readChar_four (above : 0xFFFF < v) (below : v < 0x110000) :
    readChar (UInt8.ofNat (v / 262144 % 8 + 240)) (UInt8.ofNat (v / 4096 % 64 + 128) ::
        UInt8.ofNat (v / 64 % 64 + 128) :: UInt8.ofNat (v % 64 + 128) :: rest) =
      (Char.ofNat v, 3) := by
  have first := toNat_ofNat (n := v / 262144 % 8 + 240) (by omega)
  have second := toNat_ofNat (n := v / 4096 % 64 + 128) (by omega)
  have third := toNat_ofNat (n := v / 64 % 64 + 128) (by omega)
  have fourth := toNat_ofNat (n := v % 64 + 128) (by omega)
  have opened := opens_eq (v / 262144 % 8 + 240) second (by omega) (by omega)
    (by omega) (by omega) (by omega) (by omega)
  have goes := within_eq 0x80 0xBF third (by omega) (by omega)
  have ends := within_eq 0x80 0xBF fourth (by omega) (by omega)
  have value : (((v / 262144 % 8 + 240) % 8 * 64 +
      payload (UInt8.ofNat (v / 4096 % 64 + 128))) * 64 +
        payload (UInt8.ofNat (v / 64 % 64 + 128))) * 64 +
          payload (UInt8.ofNat (v % 64 + 128)) = v := by
    rw [payload, payload, payload, second, third, fourth]
    omega
  unfold readChar
  dsimp only
  rw [first, if_neg (by omega), if_neg (by omega), if_neg (by omega), if_pos (by omega)]
  simp only [opened, goes, ends, Bool.not_true, Bool.false_eq_true, if_false, value]

end Lengths

private theorem readChar_encode {c : Char} {lead : UInt8} {tail : List UInt8}
    (bytes : String.utf8EncodeChar c = lead :: tail) (rest : List UInt8) :
    readChar lead (tail ++ rest) = (c, tail.length) := by
  have valid : c.val.toNat < 0xD800 ∨ 0xDFFF < c.val.toNat ∧ c.val.toNat < 0x110000 := c.valid
  have own : Char.ofNat c.val.toNat = c := Char.ofNat_toNat c
  unfold String.utf8EncodeChar at bytes
  generalize c.val.toNat = v at valid own bytes
  subst own
  dsimp only at bytes
  split at bytes
  · obtain ⟨rfl, rfl⟩ := List.cons.inj bytes
    exact readChar_one rest ‹_›
  · split at bytes
    · obtain ⟨rfl, rfl⟩ := List.cons.inj bytes
      exact readChar_two rest (by omega) ‹_›
    · split at bytes
      · obtain ⟨rfl, rfl⟩ := List.cons.inj bytes
        exact readChar_three rest (by omega) ‹_› (by omega)
      · obtain ⟨rfl, rfl⟩ := List.cons.inj bytes
        exact readChar_four rest (by omega) (by omega)

private theorem charsFrom_append (front rest : List UInt8) :
    charsFrom front.length (front ++ rest) = charsFrom 0 rest := by
  induction front with
  | nil => rfl
  | cons b front ih => exact ih

theorem charsFrom_encode (text : List Char) :
    charsFrom 0 (text.flatMap String.utf8EncodeChar) = text := by
  induction text with
  | nil => rfl
  | cons c text ih =>
    obtain ⟨lead, tail, bytes⟩ := List.exists_cons_of_ne_nil (String.utf8EncodeChar_ne_nil (c := c))
    rw [List.flatMap_cons, bytes, List.cons_append, charsFrom, readChar_encode bytes]
    dsimp only
    rw [charsFrom_append, ih]

theorem read_toUTF8 (text : String) : read text.toUTF8 = text := by
  rw [read, Bytes.toUTF8_toList, charsFrom_encode, String.ofList_toList]

end ConnectorKit.Text.Utf8
