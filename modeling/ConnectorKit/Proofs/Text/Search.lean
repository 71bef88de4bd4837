import ConnectorKit.Text.Search
import Mathlib.Data.List.Infix

/-!
What the searches find, in the words of lists: a text is contained where it is an infix, what
follows a start is the rest of the text, and a replacement goes along the text from what is sought to
what is sought.
-/

set_option autoImplicit false
set_option relaxedAutoImplicit false

namespace ConnectorKit.Text.Search

theorem occurs_iff {needle text : List Char} : occurs needle text = true ↔ needle <:+: text := by
  induction text with
  | nil => simp [occurs]
  | cons c rest ih =>
    simp only [occurs, Bool.or_eq_true, List.isPrefixOf_iff_prefix, ih]
    exact List.infix_cons_iff.symm

theorem contains_iff {text needle : String} :
    contains text needle = true ↔ needle.toList <:+: text.toList :=
  occurs_iff

section Infix

variable {c : Char} {needle front back : List Char}

theorem infix_of_head (first : needle.head? = some c) (free : c ∉ front)
    (inside : needle <:+: front ++ back) : needle <:+: back := by
  induction front with
  | nil => exact inside
  | cons a front ih =>
    obtain ⟨other, later⟩ := List.ne_and_not_mem_of_not_mem_cons free
    rcases List.infix_cons_iff.1 inside with start | inner
    · obtain ⟨rest, rfl⟩ := List.head?_eq_some_iff.1 first
      exact absurd (List.cons_prefix_cons.1 start).1 other
    · exact ih later inner

theorem infix_of_last (last : needle.getLast? = some c)
    (free : c ∉ back) (inside : needle <:+: front ++ back) : needle <:+: front := by
  rw [← List.reverse_infix] at inside ⊢
  rw [List.reverse_append] at inside
  exact infix_of_head (by rw [List.head?_reverse, last]) (by simpa using free) inside

theorem prefix_append_cons (free : c ∉ needle) :
    needle <+: front ++ c :: back ↔ needle <+: front := by
  refine ⟨fun start => ?_, fun start => start.trans (List.prefix_append _ _)⟩
  have marked : front ++ [c] <+: front ++ c :: back := ⟨back, by simp⟩
  rcases List.prefix_or_prefix_of_prefix start marked with inner | outer
  · rcases List.prefix_concat_iff.1 inner with rfl | inner
    · exact absurd (by simp) free
    · exact inner
  · exact absurd (outer.subset (by simp)) free

theorem suffix_append_cons (free : c ∉ needle) :
    needle <:+ front ++ c :: back ↔ needle <:+ back := by
  have reversed : (front ++ c :: back).reverse = back.reverse ++ c :: front.reverse := by simp
  rw [← List.reverse_prefix, reversed, prefix_append_cons (by simpa using free),
    List.reverse_prefix]

theorem infix_append_cons (free : c ∉ needle) (inside : needle <:+: front ++ c :: back) :
    needle <:+: front ∨ needle <:+: back := by
  induction front with
  | nil =>
    rcases List.infix_cons_iff.1 inside with start | inner
    · have start : needle <+: [] ++ c :: back := start
      exact .inl ((prefix_append_cons free).1 start).isInfix
    · exact .inr inner
  | cons a front ih =>
    rcases List.infix_cons_iff.1 inside with start | inner
    · have start : needle <+: (a :: front) ++ c :: back := start
      exact .inl ((prefix_append_cons free).1 start).isInfix
    · exact (ih inner).imp_left fun h => List.infix_cons_iff.2 (.inr h)

/-- A needle found in the image of a text is in the text itself, where its characters are the images
of themselves only. -/
theorem infix_of_map {f : Char → Char} {needle text : List Char} (found : needle <:+: text.map f)
    (own : ∀ c ∈ text, f c ∈ needle → f c = c) : needle <:+: text := by
  obtain ⟨front, back, whole⟩ := found
  obtain ⟨body, behind, rfl, split, -⟩ := List.map_eq_append_iff.1 whole.symm
  obtain ⟨ahead, here, rfl, -, same⟩ := List.map_eq_append_iff.1 split
  have fixed : here.map f = here := by
    refine (List.map_congr_left fun c mem => ?_).trans (List.map_id _)
    exact own c (by simp [mem]) (same ▸ List.mem_map_of_mem mem)
  exact ⟨ahead, behind, by rw [← same, fixed]⟩

end Infix

theorem afterChars?_eq_some {start text rest : List Char} :
    afterChars? start text = some rest ↔ text = start ++ rest := by
  induction start generalizing text with
  | nil => simp [afterChars?, eq_comm]
  | cons s start ih =>
    cases text with
    | nil => simp [afterChars?]
    | cons c text =>
      simp only [afterChars?, List.cons_append, List.cons.injEq]
      split
      · rename_i same
        rw [ih]
        exact ⟨fun h => ⟨same.symm, h⟩, fun h => h.2⟩
      · rename_i other
        exact ⟨nofun, fun h => absurd h.1.symm other⟩

theorem before?_append (text finish : String) : before? finish (text ++ finish) = some text := by
  have behind : afterChars? finish.toList.reverse (text ++ finish).toList.reverse =
      some text.toList.reverse :=
    afterChars?_eq_some.2 (by rw [String.toList_append, List.reverse_append])
  rw [before?, beforeChars?, behind]
  simp

section Split

variable {mark : Char}

theorem splitChars_eq (mark : Char) (text : List Char) : splitChars mark text = text.splitOn mark := by
  induction text with
  | nil => rfl
  | cons c rest ih =>
    rw [splitChars, List.splitOn_cons_eq_if_modifyHead, ih]
    by_cases same : c = mark
    · simp [same]
    · obtain ⟨run, runs, split⟩ := List.exists_cons_of_ne_nil (List.splitOn_ne_nil mark rest)
      simp [same, split]

theorem not_mem_of_mem_splitOn {text run : List Char} (mem : run ∈ text.splitOn mark) :
    mark ∉ run := by
  induction text generalizing run with
  | nil => simp_all
  | cons c rest ih =>
    rw [List.splitOn_cons_eq_if_modifyHead] at mem
    by_cases same : c = mark
    · rw [if_pos (by simpa using same)] at mem
      rcases List.mem_cons.1 mem with rfl | later
      · exact List.not_mem_nil
      · exact ih later
    · obtain ⟨first, runs, split⟩ := List.exists_cons_of_ne_nil (List.splitOn_ne_nil mark rest)
      rw [if_neg (by simpa using same), split] at mem
      rw [split] at ih
      rcases List.mem_cons.1 mem with rfl | later
      · have plain := ih List.mem_cons_self
        simp [plain, Ne.symm same]
      · exact ih (List.mem_cons_of_mem _ later)

/-- Texts put together with marks between them are cut apart again, each one further where it
holds marks itself. -/
theorem splitOn_intercalate {texts : List (List Char)} (nonempty : texts ≠ []) :
    ([mark].intercalate texts).splitOn mark = texts.flatMap (·.splitOn mark) := by
  induction texts with
  | nil => exact absurd rfl nonempty
  | cons text rest ih =>
    cases rest with
    | nil => simp
    | cons next rest =>
      rw [List.intercalate_cons_cons, List.append_assoc, List.singleton_append,
        List.splitOn_append_cons_self, ih nofun]
      rfl

theorem split_eq (text : String) :
    split mark text = (text.toList.splitOn mark).map String.ofList := by
  rw [split, splitChars_eq]

theorem not_mem_of_mem_split {text part : String} (mem : part ∈ split mark text) :
    mark ∉ part.toList := by
  rw [split_eq] at mem
  obtain ⟨run, cut, rfl⟩ := List.mem_map.1 mem
  rw [String.toList_ofList]
  exact not_mem_of_mem_splitOn cut

theorem split_of_not_mem {text : String} (free : mark ∉ text.toList) : split mark text = [text] := by
  rw [split_eq, List.splitOn_eq_singleton free]
  simp

theorem split_empty : split mark "" = [""] :=
  split_of_not_mem (by simp)

theorem split_append {text front back : String} (whole : text.toList = front.toList ++ mark :: back.toList) :
    split mark text = split mark front ++ split mark back := by
  rw [split_eq, whole, List.splitOn_append_cons_self, List.map_append, split_eq, split_eq]

theorem split_intercalate {texts : List String} (nonempty : texts ≠ [])
    (free : ∀ text ∈ texts, mark ∉ text.toList) :
    split mark ((String.singleton mark).intercalate texts) = texts := by
  have runs : ∀ {l : List String}, (∀ text ∈ l, mark ∉ text.toList) →
      (l.flatMap fun text => text.toList.splitOn mark).map String.ofList = l := by
    intro l plain
    induction l with
    | nil => rfl
    | cons text l ih =>
      rw [List.flatMap_cons, List.splitOn_eq_singleton (plain text List.mem_cons_self),
        List.singleton_append, List.map_cons, ih fun t mem => plain t (List.mem_cons_of_mem _ mem),
        String.ofList_toList]
  rw [split_eq, String.toList_intercalate, String.toList_singleton,
    splitOn_intercalate (by simpa using nonempty), List.flatMap_map, runs free]

theorem intercalate_split (mark : Char) (text : String) :
    (String.singleton mark).intercalate (split mark text) = text := by
  refine String.toList_inj.1 ?_
  have runs : (split mark text).map String.toList = text.toList.splitOn mark := by
    simp [split_eq, Function.comp_def]
  rw [String.toList_intercalate, runs, String.toList_singleton]
  exact List.intercalate_splitOn mark

end Split

section Replace

variable {c : Char} {sought put rest : List Char}

private theorem replaceFrom_drop (skip : Nat) (text : List Char) :
    replaceFrom sought put skip text = replaceFrom sought put 0 (text.drop skip) := by
  induction text generalizing skip with
  | nil => simp [replaceFrom]
  | cons c text ih =>
    cases skip with
    | zero => rfl
    | succ skip => rw [replaceFrom, ih, List.drop_succ_cons]

theorem replaceFrom_sought (nonempty : sought ≠ []) (rest : List Char) :
    replaceFrom sought put 0 (sought ++ rest) = put ++ replaceFrom sought put 0 rest := by
  obtain ⟨c, more, rfl⟩ := List.exists_cons_of_ne_nil nonempty
  have start : (c :: more).isPrefixOf (c :: (more ++ rest)) = true :=
    List.isPrefixOf_iff_prefix.2 ⟨rest, rfl⟩
  rw [List.cons_append, replaceFrom, if_pos start, replaceFrom_drop]
  simp

theorem replaceFrom_cons (other : ¬ sought <+: c :: rest) :
    replaceFrom sought put 0 (c :: rest) = c :: replaceFrom sought put 0 rest := by
  rw [replaceFrom, if_neg fun start => other (List.isPrefixOf_iff_prefix.1 start)]

theorem replaceFrom_append {front : List Char} (first : sought.head? = some c) (free : c ∉ front)
    (rest : List Char) :
    replaceFrom sought put 0 (front ++ rest) = front ++ replaceFrom sought put 0 rest := by
  obtain ⟨more, rfl⟩ := List.head?_eq_some_iff.1 first
  induction front with
  | nil => rfl
  | cons a front ih =>
    obtain ⟨other, later⟩ := List.ne_and_not_mem_of_not_mem_cons free
    rw [List.cons_append, replaceFrom_cons fun start => other (List.cons_prefix_cons.1 start).1,
      ih later]
    rfl

end Replace

end ConnectorKit.Text.Search
