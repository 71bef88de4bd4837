/-!
The bytes of a text. A line feed in the bytes is a line feed of the text, since every other
character is written with bytes of its own; and texts are in the order of their bytes.
-/

set_option autoImplicit false
set_option relaxedAutoImplicit false

namespace ConnectorKit.Text.Bytes

private theorem loop_eq (bs : ByteArray) (i : Nat) (front : List UInt8) :
    ByteArray.toList.loop bs i front = front.reverse ++ bs.data.toList.drop i := by
  fun_induction ByteArray.toList.loop bs i front with
  | case1 i front inside ih =>
    have bound : i < bs.data.size := inside
    have byte : bs.get! i = bs.data[i] := getElem!_pos bs.data i bound
    have split : bs.data.toList.drop i = bs.data[i] :: bs.data.toList.drop (i + 1) :=
      List.drop_eq_getElem_cons bound
    rw [ih, byte, split, List.reverse_cons, List.append_assoc, List.singleton_append]
  | case2 i front beyond =>
    have short : bs.data.toList.length ≤ i := Nat.le_of_not_lt beyond
    rw [List.drop_of_length_le short, List.append_nil]

theorem toList_eq (bs : ByteArray) : bs.toList = bs.data.toList :=
  loop_eq bs 0 []

theorem toList_append (a b : ByteArray) : (a ++ b).toList = a.toList ++ b.toList := by
  simp only [toList_eq, ByteArray.toList_data_append]

theorem toByteArray_toList (l : List UInt8) : l.toByteArray.toList = l := by
  rw [toList_eq, List.data_toByteArray]

theorem toUTF8_toList (s : String) : s.toUTF8.toList = s.toList.flatMap String.utf8EncodeChar := by
  rw [String.toUTF8_eq_toByteArray, ← String.utf8Encode_toList, List.utf8Encode,
    toByteArray_toList]

theorem toUTF8_of_fromUTF8? {data : ByteArray} {text : String}
    (h : String.fromUTF8? data = some text) : text.toUTF8 = data := by
  unfold String.fromUTF8? at h
  split at h
  · cases h
    rfl
  · cases h

theorem fromUTF8?_toUTF8 (text : String) : String.fromUTF8? text.toUTF8 = some text := by
  have valid : text.toUTF8.IsValidUTF8 := text.isValidUTF8
  rw [String.fromUTF8?, dif_pos valid]
  rfl

private theorem byte_ne {n : Nat} (low : 10 < n) (high : n < 256) : (10 : UInt8) ≠ UInt8.ofNat n := by
  intro same
  have value := congrArg UInt8.toNat same
  rw [UInt8.toNat_ofNat'] at value
  have : (10 : UInt8).toNat = 10 := rfl
  omega

theorem lineFeed_mem_encode {c : Char} : (10 : UInt8) ∈ String.utf8EncodeChar c ↔ c = '\n' := by
  constructor
  · intro mem
    unfold String.utf8EncodeChar at mem
    generalize value : c.val.toNat = v at mem
    by_cases one : v ≤ 0x7f
    · rw [if_pos one, List.mem_singleton] at mem
      have ten := congrArg UInt8.toNat mem
      rw [UInt8.toNat_ofNat'] at ten
      have : (10 : UInt8).toNat = 10 := rfl
      have code : c.val.toNat = 10 := by omega
      exact Char.ext (UInt32.toNat_inj.1 code)
    · -- each byte of a longer form is at least 0x80
      rw [if_neg one] at mem
      split at mem
      · simp only [List.mem_cons, List.not_mem_nil, or_false] at mem
        rcases mem with same | same <;> exact absurd same (byte_ne (by omega) (by omega))
      · split at mem
        · simp only [List.mem_cons, List.not_mem_nil, or_false] at mem
          rcases mem with same | same | same <;>
            exact absurd same (byte_ne (by omega) (by omega))
        · simp only [List.mem_cons, List.not_mem_nil, or_false] at mem
          rcases mem with same | same | same | same <;>
            exact absurd same (byte_ne (by omega) (by omega))
  · rintro rfl
    decide

theorem lineFeed_mem_toUTF8 {s : String} : (10 : UInt8) ∈ s.toUTF8.toList ↔ '\n' ∈ s.toList := by
  rw [toUTF8_toList, List.mem_flatMap]
  constructor
  · rintro ⟨c, mem, feed⟩
    exact lineFeed_mem_encode.1 feed ▸ mem
  · intro mem
    exact ⟨'\n', mem, lineFeed_mem_encode.2 rfl⟩

private theorem splitOn_append {front : List UInt8} (plain : (10 : UInt8) ∉ front)
    (rest : List UInt8) :
    (front ++ rest).splitOn 10 = (rest.splitOn 10).modifyHead (front ++ ·) := by
  induction front with
  | nil =>
    rw [List.nil_append]
    cases rest.splitOn 10 <;> rfl
  | cons b front ih =>
    have other : b ≠ 10 := fun same => plain (same ▸ List.mem_cons_self)
    rw [List.cons_append, List.splitOn_cons_eq_if_modifyHead, if_neg (by simpa using other),
      ih fun mem => plain (List.mem_cons_of_mem _ mem)]
    simp [Function.comp_def]

theorem splitOn_encode (text : List Char) : (text.flatMap String.utf8EncodeChar).splitOn 10 =
    (text.splitOn '\n').map (·.flatMap String.utf8EncodeChar) := by
  induction text with
  | nil => rfl
  | cons c rest ih =>
    rw [List.flatMap_cons, List.splitOn_cons_eq_if_modifyHead]
    by_cases feed : c = '\n'
    · subst feed
      have bytes : String.utf8EncodeChar '\n' = [10] := by decide
      rw [bytes, List.singleton_append, List.splitOn_cons_eq_if_modifyHead, ih]
      rfl
    · have plain : (10 : UInt8) ∉ String.utf8EncodeChar c := fun mem =>
        feed (lineFeed_mem_encode.1 mem)
      rw [splitOn_append plain, ih, if_neg (by simpa using feed)]
      obtain ⟨run, runs, split⟩ := List.exists_cons_of_ne_nil (List.splitOn_ne_nil '\n' rest)
      rw [split]
      rfl

/-- The lines of a file: the runs between its line feeds. -/
def lines (data : ByteArray) : List (List UInt8) :=
  data.toList.splitOn 10

theorem lines_toUTF8 (text : String) : lines text.toUTF8 =
    (text.toList.splitOn '\n').map (·.flatMap String.utf8EncodeChar) := by
  rw [lines, toUTF8_toList, splitOn_encode]

section Order

private theorem cons_lt {m n : Nat} {ps qs : List UInt8} (le : m ≤ n) (high : n < 256)
    (later : m = n → ps < qs) : UInt8.ofNat m :: ps < UInt8.ofNat n :: qs := by
  rcases Nat.lt_or_eq_of_le le with lt | rfl
  · refine List.Lex.rel (UInt8.lt_iff_toNat_lt.2 ?_)
    rw [UInt8.toNat_ofNat', UInt8.toNat_ofNat']
    omega
  · exact List.Lex.cons (later rfl)

/-- A character with a smaller code is written with smaller bytes, whatever comes behind. The first
byte tells how many there are, so it decides where the numbers of bytes differ. -/
theorem encode_lt {c d : Char} (lt : c < d) (ps qs : List UInt8) :
    String.utf8EncodeChar c ++ ps < String.utf8EncodeChar d ++ qs := by
  have codes : c.val.toNat < d.val.toNat := lt
  have bound : d.val.toNat < 0x110000 := by
    have valid : d.val.isValidChar := d.valid
    unfold UInt32.isValidChar Nat.isValidChar at valid
    omega
  unfold String.utf8EncodeChar
  dsimp only
  generalize c.val.toNat = v at codes
  generalize d.val.toNat = w at codes bound
  by_cases one : w ≤ 0x7f
  · rw [if_pos one, if_pos (by omega)]
    exact cons_lt (by omega) (by omega) fun same => absurd same (by omega)
  · rw [if_neg one]
    by_cases two : w ≤ 0x7ff
    · rw [if_pos two]
      split
      · exact cons_lt (by omega) (by omega) fun same => absurd same (by omega)
      · rw [if_pos (by omega)]
        refine cons_lt (by omega) (by omega) fun first => ?_
        exact cons_lt (by omega) (by omega) fun second => absurd second (by omega)
    · rw [if_neg two]
      by_cases three : w ≤ 0xffff
      · rw [if_pos three]
        split
        · exact cons_lt (by omega) (by omega) fun same => absurd same (by omega)
        · split
          · exact cons_lt (by omega) (by omega) fun same => absurd same (by omega)
          · rw [if_pos (by omega)]
            refine cons_lt (by omega) (by omega) fun first => ?_
            refine cons_lt (by omega) (by omega) fun second => ?_
            exact cons_lt (by omega) (by omega) fun third => absurd third (by omega)
      · rw [if_neg three]
        split
        · exact cons_lt (by omega) (by omega) fun same => absurd same (by omega)
        · split
          · exact cons_lt (by omega) (by omega) fun same => absurd same (by omega)
          · split
            · exact cons_lt (by omega) (by omega) fun same => absurd same (by omega)
            · refine cons_lt (by omega) (by omega) fun first => ?_
              refine cons_lt (by omega) (by omega) fun second => ?_
              refine cons_lt (by omega) (by omega) fun third => ?_
              exact cons_lt (by omega) (by omega) fun fourth => absurd fourth (by omega)

theorem toUTF8_lt {s t : String} (lt : s < t) : s.toUTF8.toList < t.toUTF8.toList := by
  have chars : s.toList < t.toList := lt
  rw [toUTF8_toList, toUTF8_toList]
  generalize s.toList = front at chars
  generalize t.toList = back at chars
  induction chars with
  | @nil c rest =>
    obtain ⟨b, bytes, some_⟩ := List.exists_cons_of_ne_nil (String.utf8EncodeChar_ne_nil (c := c))
    rw [List.flatMap_cons, some_]
    exact List.nil_lt_cons _ _
  | cons _ ih =>
    rw [List.flatMap_cons, List.flatMap_cons]
    exact List.append_left_lt ih
  | rel lt =>
    rw [List.flatMap_cons, List.flatMap_cons]
    exact encode_lt lt _ _

end Order

end ConnectorKit.Text.Bytes
