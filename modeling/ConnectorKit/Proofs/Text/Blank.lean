import ConnectorKit.Text.Blank
import Mathlib.Data.List.DropRight

/-!
What trimming does to a text. It takes blanks from the ends, so a text without blanks there stays as
it is, and a blank that is put behind a text is taken away again.
-/

set_option autoImplicit false
set_option relaxedAutoImplicit false

namespace ConnectorKit.Text.Blank

variable {text : String} {c : Char}

/-- The text neither begins nor ends with a blank. -/
structure Bare (text : String) : Prop where
  start : ∀ c, text.toList.head? = some c → isBlank c = false
  finish : ∀ c, text.toList.getLast? = some c → isBlank c = false

private theorem trimEndChars_eq (text : List Char) : trimEndChars text = text.rdropWhile isBlank :=
  rfl

private theorem trimChars_eq_self_iff {text : List Char} : trimChars text = text ↔
    text.dropWhile isBlank = text ∧ text.rdropWhile isBlank = text := by
  constructor
  · intro same
    have shorter : (trimChars text).length ≤ (trimStartChars text).length :=
      (List.rdropWhile_prefix isBlank _).length_le
    have whole : trimStartChars text = text := by
      refine (List.dropWhile_suffix isBlank).eq_of_length_le ?_
      rwa [same] at shorter
    refine ⟨whole, ?_⟩
    rwa [trimChars, whole] at same
  · rintro ⟨start, finish⟩
    rw [trimChars, trimStartChars, start]
    exact finish

private theorem dropWhile_eq_self_iff {text : List Char} :
    text.dropWhile isBlank = text ↔ ∀ c, text.head? = some c → isBlank c = false := by
  cases text with
  | nil => simp
  | cons c rest => simp [List.dropWhile_eq_self_iff]

private theorem rdropWhile_eq_self_iff {text : List Char} :
    text.rdropWhile isBlank = text ↔ ∀ c, text.getLast? = some c → isBlank c = false := by
  rw [List.rdropWhile, List.reverse_eq_iff, dropWhile_eq_self_iff, List.head?_reverse]

theorem trim_eq_self_iff : trim text = text ↔ Bare text := by
  rw [← String.toList_inj, trim, String.toList_ofList, trimChars_eq_self_iff,
    dropWhile_eq_self_iff, rdropWhile_eq_self_iff]
  exact ⟨fun h => ⟨h.1, h.2⟩, fun h => ⟨h.start, h.finish⟩⟩

private theorem trimChars_concat {text : List Char} (blank : isBlank c = true) :
    trimChars (text ++ [c]) = trimChars text := by
  have alone : [c].dropWhile isBlank = [] := List.dropWhile_cons_of_pos blank
  rw [trimChars, trimChars, trimStartChars, trimStartChars, List.dropWhile_append, alone]
  split
  · rename_i empty
    rw [List.isEmpty_iff.1 empty]
  · rw [trimEndChars_eq, List.rdropWhile_concat, if_pos blank]
    rfl

theorem trim_append_lineFeed (text : String) : trim (text ++ "\n") = trim text := by
  rw [trim, String.toList_append, trim]
  exact congrArg String.ofList (trimChars_concat rfl)

theorem getD_filled?_trim (text : String) : (filled? (trim text)).getD "" = trim text := by
  unfold filled?
  split
  · rename_i blank
    have all : ∀ c ∈ trimChars text.toList, isBlank c = true := by
      simpa [isBlankText, trim] using blank
    have none : trimChars text.toList = [] := by
      refine Classical.byContradiction fun some => ?_
      exact List.rdropWhile_last_not isBlank _ some (all _ (List.getLast_mem some))
    rw [trim, none]
    rfl
  · rfl

section TrimEnd

variable {front back text : List Char}

theorem exists_trimEndChars_append (text : List Char) :
    ∃ tail, trimEndChars text ++ tail = text ∧ ∀ c ∈ tail, isBlank c = true := by
  refine ⟨(text.reverse.takeWhile isBlank).reverse, ?_, fun c mem => ?_⟩
  · rw [trimEndChars, ← List.reverse_append, List.takeWhile_append_dropWhile, List.reverse_reverse]
  · exact List.mem_takeWhile_imp (List.mem_reverse.1 mem)

theorem isBlank_getLast?_trimEndChars (last : (trimEndChars text).getLast? = some c) :
    isBlank c = false := by
  obtain ⟨ahead, cut⟩ := List.getLast?_eq_some_iff.1 last
  have whole : text.rdropWhile isBlank = ahead ++ [c] := cut
  have inked := List.rdropWhile_last_not isBlank text (by simp [whole])
  simp only [whole, List.getLast_concat] at inked
  exact Bool.eq_false_iff.2 inked

theorem exists_getLast?_trimEndChars {text : List Char} (mem : c ∈ text)
    (inked : isBlank c = false) : ∃ d, (trimEndChars text).getLast? = some d := by
  obtain ⟨tail, whole, blank⟩ := exists_trimEndChars_append text
  cases last : (trimEndChars text).getLast? with
  | some d => exact ⟨d, rfl⟩
  | none =>
    rw [List.getLast?_eq_none_iff.1 last, List.nil_append] at whole
    rw [blank c (whole ▸ mem)] at inked
    cases inked

theorem trimEndChars_append (last : front.getLast? = some c) (inked : isBlank c = false)
    (back : List Char) : trimEndChars (front ++ back) = front ++ trimEndChars back := by
  induction back using List.reverseRecOn with
  | nil =>
    rw [List.append_nil, trimEndChars_eq, rdropWhile_eq_self_iff.2 fun d last' => ?_]
    · exact (List.append_nil front).symm
    · rw [last] at last'
      exact Option.some.inj last' ▸ inked
  | append_singleton back d ih =>
    rw [trimEndChars_eq, trimEndChars_eq, ← List.append_assoc, List.rdropWhile_concat,
      List.rdropWhile_concat]
    split
    · exact ih
    · rw [List.append_assoc]

end TrimEnd

end ConnectorKit.Text.Blank
