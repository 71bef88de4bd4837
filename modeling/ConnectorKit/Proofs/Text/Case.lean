import ConnectorKit.Proofs.Basic
import ConnectorKit.Proofs.Disk.Path
import ConnectorKit.Proofs.Text.Search
import ConnectorKit.Text.Case

/-!
What a change of letter case leaves alone. No character below the letters comes from another one, so
a name stays a name, and but for the two small sigmas the lower case of a text is that of its
characters, one after the other.
-/

set_option autoImplicit false
set_option relaxedAutoImplicit false

namespace ConnectorKit.Text.Case

theorem toNat_of_isAlphanum {c : Char} (own : c.isAlphanum = true) :
    (65 ≤ c.toNat ∧ c.toNat ≤ 90 ∨ 97 ≤ c.toNat ∧ c.toNat ≤ 122) ∨
      48 ≤ c.toNat ∧ c.toNat ≤ 57 := by
  rcases Bool.or_eq_true_iff.1 own with letter | digit
  · refine .inl ?_
    rcases Bool.or_eq_true_iff.1 letter with upper | lower
    · exact .inl (of_decide_eq_true upper)
    · obtain ⟨low, high⟩ := Bool.and_eq_true_iff.1 lower
      exact .inr ⟨of_decide_eq_true low, of_decide_eq_true high⟩
  · obtain ⟨low, high⟩ := Bool.and_eq_true_iff.1 digit
    exact .inr ⟨of_decide_eq_true low, of_decide_eq_true high⟩

/-- All that a span gives is a character, and none is below `low`. -/
private def reaches (low : Nat) (s : CaseTable.Span) : Bool :=
  low ≤ s.first + s.shift && (s.last + s.shift < 0xD800 || 0xE000 ≤ s.first + s.shift) &&
    s.last + s.shift < 0x110000

private theorem toNat_of_span {low code value : Nat} {s : CaseTable.Span}
    (within : reaches low s = true) (mapped : s.map? code = some value) :
    low ≤ (Char.ofNat value).toNat := by
  unfold CaseTable.Span.map? at mapped
  split at mapped
  · rename_i covered
    cases mapped
    simp only [reaches, Bool.and_eq_true, Bool.or_eq_true, decide_eq_true_eq] at within
    have valid : Nat.isValidChar (code + s.shift).toNat := by
      unfold Nat.isValidChar
      omega
    rw [Char.ofNat, dif_pos valid]
    change low ≤ (code + s.shift).toNat
    omega
  · cases mapped

private theorem tables_reach :
    (∀ s ∈ CaseTable.lower, reaches 0x61 s = true) ∧
      (∀ s ∈ CaseTable.upper, reaches 0x41 s = true) ∧
      ∀ entry ∈ CaseTable.upperSeveral, entry.2 ≠ [] ∧
        ∀ code ∈ entry.2, 0x41 ≤ (Char.ofNat code).toNat := by
  decide +kernel

private theorem partner_low {low : Nat} {table : List CaseTable.Span} {c : Char}
    (within : ∀ s ∈ table, reaches low s = true) (under : (partner table c).toNat < low) :
    partner table c = c := by
  unfold partner at under ⊢
  cases found : table.findSome? (·.map? c.toNat) with
  | none => rfl
  | some code =>
    rw [found] at under
    obtain ⟨s, mem, mapped⟩ := List.exists_of_findSome?_eq_some found
    exact absurd (toNat_of_span (within s mem) mapped) (Nat.not_le.2 under)

private theorem ascii_cases {c : Char} (ascii : c.toNat < 128) :
    ((c.toLower = c ∨ 0x61 ≤ c.toLower.toNat) ∧ (c.toUpper = c ∨ 0x41 ≤ c.toUpper.toNat)) ∧
      c.toLower.toNat < 128 ∧
      (c.isAlphanum = true → c.toUpper.isAlphanum = true ∧ c.toLower.isAlphanum = true) := by
  have table : ∀ n : Fin 128,
      (((Char.ofNat n).toLower = Char.ofNat n ∨ 0x61 ≤ (Char.ofNat n).toLower.toNat) ∧
        ((Char.ofNat n).toUpper = Char.ofNat n ∨ 0x41 ≤ (Char.ofNat n).toUpper.toNat)) ∧
      (Char.ofNat n).toLower.toNat < 128 ∧
      ((Char.ofNat n).isAlphanum = true →
        (Char.ofNat n).toUpper.isAlphanum = true ∧ (Char.ofNat n).toLower.isAlphanum = true) := by
    decide +kernel
  have checked := table ⟨c.toNat, ascii⟩
  rwa [Char.ofNat_toNat] at checked

theorem eq_of_mem_lowerChar {c x : Char} (mem : c ∈ lowerChar x) (under : c.toNat < 0x61) :
    c = x := by
  unfold lowerChar at mem
  split at mem
  · rename_i ascii
    obtain rfl := List.mem_singleton.1 mem
    exact (ascii_cases ascii).1.1.resolve_right (Nat.not_le.2 under)
  · split at mem
    · rcases List.mem_cons.1 mem with rfl | mem
      · exact absurd under (by decide)
      · obtain rfl := List.mem_singleton.1 mem
        exact absurd under (by decide)
    · obtain rfl := List.mem_singleton.1 mem
      exact partner_low tables_reach.1 under

theorem eq_of_mem_upperChar {c x : Char} (mem : c ∈ upperChar x) (under : c.toNat < 0x41) :
    c = x := by
  unfold upperChar at mem
  split at mem
  · rename_i ascii
    obtain rfl := List.mem_singleton.1 mem
    exact (ascii_cases ascii).1.2.resolve_right (Nat.not_le.2 under)
  · split at mem
    · rename_i codes found
      obtain ⟨code, inside, rfl⟩ := List.mem_map.1 mem
      have high := (tables_reach.2.2 _ (mem_of_lookup found)).2 code inside
      exact absurd under (Nat.not_lt.2 high)
    · obtain rfl := List.mem_singleton.1 mem
      exact partner_low tables_reach.2.1 under

theorem isAlphanum_of_mem_upperChar {c x : Char} (mem : c ∈ upperChar x)
    (own : x.isAlphanum = true) : c.isAlphanum = true := by
  have ranges := toNat_of_isAlphanum own
  have ascii : x.toNat < 128 := by omega
  rw [upperChar, if_pos ascii, List.mem_singleton] at mem
  subst mem
  exact ((ascii_cases ascii).2.2 own).1

theorem isAlphanum_of_mem_lowerChars {text : List Char} {c : Char} (mem : c ∈ lowerChars text)
    (own : ∀ x ∈ text, x.isAlphanum = true) : c.isAlphanum = true := by
  suffices every : ∀ before, c ∈ lowerFrom before text → c.isAlphanum = true from every [] mem
  clear mem
  induction text with
  | nil => exact fun _ => nofun
  | cons x rest ih =>
    intro before mem
    have first := own x List.mem_cons_self
    have ranges := toNat_of_isAlphanum first
    have ascii : x.toNat < 128 := by omega
    have other : x ≠ 'Σ' := by
      rintro rfl
      exact absurd ascii (by decide)
    rw [lowerFrom, if_neg other, lowerChar, if_pos ascii] at mem
    rcases List.mem_append.1 mem with here | later
    · obtain rfl := List.mem_singleton.1 here
      exact ((ascii_cases ascii).2.2 first).2
    · exact ih (fun x inside => own x (List.mem_cons_of_mem _ inside)) _ later

theorem lowerChar_ne_nil (c : Char) : lowerChar c ≠ [] := by
  unfold lowerChar
  split
  · nofun
  · split <;> nofun

theorem upperChar_ne_nil (c : Char) : upperChar c ≠ [] := by
  unfold upperChar
  split
  · nofun
  · split
    · rename_i codes found
      simpa using (tables_reach.2.2 _ (mem_of_lookup found)).1
    · nofun

/-- The two small sigmas as one. -/
def blur (c : Char) : Char :=
  if c = 'ς' then 'σ' else c

theorem blur_lowerFrom (before text : List Char) :
    (lowerFrom before text).map blur = text.flatMap fun c => (lowerChar c).map blur := by
  induction text generalizing before with
  | nil => rfl
  | cons c rest ih =>
    rw [lowerFrom, List.map_append, ih, List.flatMap_cons]
    congr 1
    split
    · rename_i sigma
      subst sigma
      have small : (lowerChar 'Σ').map blur = ['σ'] := by decide +kernel
      rw [small, lowerSigma]
      split <;> decide
    · rfl

theorem blur_eq_of_low {c d : Char} (same : blur c = d) (under : d.toNat < 0x61) :
    c = d := by
  unfold blur at same
  split at same
  · subst same
    exact absurd under (by decide)
  · exact same

theorem mem_of_mem_lowerChars {text : List Char} {c : Char} (mem : c ∈ lowerChars text)
    (under : c.toNat < 0x61) : c ∈ text := by
  have blurred : blur c ∈ text.flatMap fun c => (lowerChar c).map blur := by
    rw [← blur_lowerFrom []]
    exact List.mem_map_of_mem mem
  have own : blur c = c := by
    unfold blur
    split
    · rename_i final
      subst final
      exact absurd under (by decide)
    · rfl
  obtain ⟨x, inside, image⟩ := List.mem_flatMap.1 blurred
  obtain ⟨d, from_x, same⟩ := List.mem_map.1 image
  obtain rfl := blur_eq_of_low (same.trans own) under
  rwa [eq_of_mem_lowerChar from_x under]

theorem eq_of_low {text : List Char} (low : ∀ c ∈ lowerChars text, c.toNat < 0x61) :
    lowerChars text = text := by
  have same : (lowerChars text).map blur = lowerChars text := by
    refine (List.map_congr_left fun c mem => ?_).trans (List.map_id _)
    unfold blur
    split
    · rename_i final
      subst final
      exact absurd (low _ mem) (by decide)
    · rfl
  have whole := blur_lowerFrom [] text
  change (lowerChars text).map blur = _ at whole
  rw [same] at whole
  rw [whole] at low ⊢
  have single : ∀ c ∈ text, (lowerChar c).map blur = [c] := by
    intro c mem
    obtain ⟨d, more, image⟩ := List.exists_cons_of_ne_nil (lowerChar_ne_nil c)
    have inside : blur d ∈ text.flatMap fun c => (lowerChar c).map blur :=
      List.mem_flatMap.2 ⟨c, mem, List.mem_map_of_mem (image ▸ List.mem_cons_self)⟩
    have under := low _ inside
    have plain := blur_eq_of_low rfl under
    rw [← plain] at under
    have own : d = c := eq_of_mem_lowerChar (image ▸ List.mem_cons_self) under
    subst own
    have ascii : d.toNat < 128 := by omega
    rw [lowerChar, if_pos ascii, List.cons.injEq] at image
    rw [lowerChar, if_pos ascii, image.1, List.map_singleton, ← plain]
  rw [List.flatMap_congr single]
  exact List.flatMap_singleton' text

theorem lower_eq_of_low {text target : String} (same : lower text = target)
    (low : ∀ c ∈ target.toList, c.toNat < 0x61) : text = target := by
  have chars : lowerChars text.toList = target.toList := by
    rw [← same, lower, String.toList_ofList]
  have own := eq_of_low (chars ▸ low)
  rw [← same, lower, own, String.ofList_toList]

theorem unslashed_lower {n : String} (free : '/' ∉ n.toList) : '/' ∉ (lower n).toList := by
  intro mem
  rw [lower, String.toList_ofList] at mem
  exact free (mem_of_mem_lowerChars mem (by decide))

theorem plain_lower {n : String} (plain : Disk.Path.Plain n) : Disk.Path.Plain (lower n) where
  nonempty same := plain.nonempty (lower_eq_of_low same (by simp))
  notHere same := plain.notHere (lower_eq_of_low same (by simp))
  notUp same := plain.notUp (lower_eq_of_low same (by simp))
  unslashed := unslashed_lower plain.unslashed

theorem blur_lowerChars_append (front back : List Char) : (lowerChars (front ++ back)).map blur =
    (lowerChars front).map blur ++ (lowerChars back).map blur := by
  simp only [lowerChars, blur_lowerFrom, List.flatMap_append]

theorem length_lowerChars_append (front back : List Char) :
    (lowerChars (front ++ back)).length = (lowerChars front).length + (lowerChars back).length := by
  simpa using congrArg List.length (blur_lowerChars_append front back)

private theorem lowerChar_congr {c d : Char} (recased : c.toLower = d.toLower) :
    lowerChar c = lowerChar d := by
  have kinds (c : Char) :
      c.toNat < 128 ∧ c.toLower.toNat < 128 ∨ 128 ≤ c.toNat ∧ c.toLower = c := by
    by_cases ascii : c.toNat < 128
    · exact .inl ⟨ascii, (ascii_cases ascii).2.1⟩
    · refine .inr ⟨Nat.le_of_not_lt ascii, ?_⟩
      unfold Char.toLower
      rw [dif_neg]
      rintro ⟨low, high⟩
      exact ascii (Nat.lt_of_le_of_lt (UInt32.le_iff_toNat_le.1 high) (by decide))
  rcases kinds c with ⟨ascii, low⟩ | ⟨high, own⟩
  · rcases kinds d with ⟨ascii', -⟩ | ⟨high', own'⟩
    · rw [lowerChar, lowerChar, if_pos ascii, if_pos ascii', recased]
    · rw [recased, own'] at low
      exact absurd low (Nat.not_lt.2 high')
  · rcases kinds d with ⟨-, low'⟩ | ⟨-, own'⟩
    · rw [← recased, own] at low'
      exact absurd low' (Nat.not_lt.2 high)
    · rw [← own, recased, own']

private theorem blur_lowerChars_congr {text other : List Char}
    (recased : other.map Char.toLower = text.map Char.toLower) :
    (lowerChars other).map blur = (lowerChars text).map blur := by
  simp only [lowerChars, blur_lowerFrom]
  induction text generalizing other with
  | nil => rw [List.map_eq_nil_iff.1 recased]
  | cons c text ih =>
    obtain ⟨d, more, rfl, first, rest⟩ := List.map_eq_cons_iff.1 recased
    rw [List.flatMap_cons, List.flatMap_cons, lowerChar_congr first, ih rest]

/-- What the lower case of a text holds, but for sigmas, it holds with anything around the text, and
with any case of the ASCII letters in it. -/
theorem infix_lowerChars_append {needle text other : List Char} (medial : 'σ' ∉ needle)
    (final : 'ς' ∉ needle) (found : needle <:+: lowerChars text)
    (recased : other.map Char.toLower = text.map Char.toLower) (front back : List Char) :
    needle <:+: lowerChars (front ++ other ++ back) := by
  have kept : needle.map blur = needle := by
    refine (List.map_congr_left fun c mem => ?_).trans (List.map_id _)
    refine if_neg ?_
    rintro rfl
    exact final mem
  have blurred : needle <:+: (lowerChars (front ++ other ++ back)).map blur := by
    have inner : needle <:+: (lowerChars other).map blur := by
      rw [blur_lowerChars_congr recased, ← kept]
      exact found.map blur
    rw [blur_lowerChars_append, blur_lowerChars_append]
    exact inner.trans (List.infix_append _ _ _)
  refine Search.infix_of_map blurred fun c _ mem => ?_
  unfold blur at mem ⊢
  split
  · rename_i last
    rw [if_pos last] at mem
    exact absurd mem medial
  · rfl

theorem mem_of_mem_capitalize {text : String} {c : Char} (mem : c ∈ (capitalize text).toList)
    (under : c.toNat < 0x41) : c ∈ text.toList := by
  rw [capitalize, String.toList_ofList] at mem
  cases chars : text.toList with
  | nil =>
    rw [chars] at mem
    cases mem
  | cons x rest =>
    rw [chars] at mem
    rcases List.mem_append.1 mem with first | later
    · rw [eq_of_mem_upperChar first under]
      exact List.mem_cons_self
    · exact List.mem_cons_of_mem _ later

theorem mem_of_mem_uncapitalize {text : String} {c : Char} (mem : c ∈ (uncapitalize text).toList)
    (under : c.toNat < 0x61) : c ∈ text.toList := by
  rw [uncapitalize, String.toList_ofList] at mem
  cases chars : text.toList with
  | nil =>
    rw [chars] at mem
    cases mem
  | cons x rest =>
    rw [chars] at mem
    rcases List.mem_append.1 mem with first | later
    · rw [eq_of_mem_lowerChar first under]
      exact List.mem_cons_self
    · exact List.mem_cons_of_mem _ later

theorem capitalize_ne_empty {text : String} (nonempty : text ≠ "") : capitalize text ≠ "" := by
  intro empty
  obtain ⟨x, rest, chars⟩ := List.exists_cons_of_ne_nil (by simpa using nonempty : text.toList ≠ [])
  have image := congrArg String.toList empty
  rw [capitalize, String.toList_ofList, chars] at image
  exact upperChar_ne_nil x (List.append_eq_nil_iff.1 image).1

theorem lower_append_ne {front back : String} (nonempty : front ≠ "") :
    lower (front ++ back) ≠ lower back := by
  intro same
  have chars := congrArg (fun text => text.toList.length) same
  simp only [lower, String.toList_ofList, String.toList_append, length_lowerChars_append] at chars
  have none : lowerChars front.toList = [] := List.length_eq_zero_iff.1 (by omega)
  exact nonempty (lower_eq_of_low (by rw [lower, none]) (by simp))

end ConnectorKit.Text.Case
