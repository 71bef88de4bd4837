import ConnectorKit.Proofs.Disk.Path
import ConnectorKit.Proofs.Disk.Resolution

/-!
The directories above a path. Each of them is the start of the path as it is written, up to a part that
leads somewhere; so it starts where the path starts, leads by the same parts, and is no longer.
-/

set_option autoImplicit false
set_option relaxedAutoImplicit false

namespace ConnectorKit.Disk.Path

open Text.Search (split)

section Parts

variable {path : String} {parts more : List String}

theorem isSome_component? (part : String) : (component? part).isSome = leads part := by
  unfold component? leads
  by_cases blank : part = "" ∨ part = "."
  · simp [blank]
  · rw [if_neg blank]
    split <;> simp [blank]

theorem isAbsolute_iff : isAbsolute path = true ↔ ∃ rest, rest ≠ [] ∧ split '/' path = "" :: rest := by
  constructor
  · intro absolute
    obtain ⟨rest, text⟩ : ∃ rest, path.toList = '/' :: rest := by
      cases chars : path.toList with
      | nil => simp [isAbsolute, chars] at absolute
      | cons c rest =>
        rw [isAbsolute, chars] at absolute
        exact ⟨rest, by simpa using absolute⟩
    have whole : path.toList = ("" : String).toList ++ '/' :: (String.ofList rest).toList := by
      simp [text]
    rw [Text.Search.split_append whole, Text.Search.split_empty]
    exact ⟨_, split_ne_nil _, rfl⟩
  · rintro ⟨rest, more, cut⟩
    have whole := Text.Search.intercalate_split '/' path
    rw [cut] at whole
    obtain ⟨part, rest, rfl⟩ := List.exists_cons_of_ne_nil more
    rw [← whole, isAbsolute]
    simp [String.intercalate_cons_cons]

theorem split_ofParts (real : parts ≠ []) (free : ∀ part ∈ parts, '/' ∉ part.toList) :
    split '/' (ofParts parts) = if parts = [""] then ["", ""] else parts := by
  unfold ofParts
  split
  · decide
  · exact Text.Search.split_intercalate real free

theorem filter_ofParts (real : parts ≠ []) (free : ∀ part ∈ parts, '/' ∉ part.toList) :
    (split '/' (ofParts parts)).filter leads = parts.filter leads := by
  rw [split_ofParts real free]
  split
  · rename_i top
    rw [top]
    decide
  · rfl

theorem ofParts_split (other : split '/' path ≠ [""]) : ofParts (split '/' path) = path := by
  rw [ofParts, if_neg other]
  exact Text.Search.intercalate_split '/' path

section Start

variable (cut : split '/' path = parts ++ more) (real : parts ≠ []) (longer : more ≠ [])

include cut

private theorem free_of_split : ∀ part ∈ parts, '/' ∉ part.toList := fun _ mem =>
  Text.Search.not_mem_of_mem_split (cut ▸ List.mem_append_left more mem)

include real longer

theorem isAbsolute_ofParts : isAbsolute (ofParts parts) = isAbsolute path := by
  rw [Bool.eq_iff_iff, isAbsolute_iff, isAbsolute_iff, split_ofParts real (free_of_split cut), cut]
  obtain ⟨first, rest, rfl⟩ := List.exists_cons_of_ne_nil real
  split
  · rename_i top
    obtain ⟨rfl, rfl⟩ := List.cons.inj top
    exact ⟨fun _ => ⟨more, longer, rfl⟩, fun _ => ⟨[""], nofun, rfl⟩⟩
  · rename_i low
    constructor
    · rintro ⟨_, inner, same⟩
      obtain ⟨rfl, rfl⟩ := List.cons.inj same
      exact ⟨rest ++ more, by simp [inner], rfl⟩
    · rintro ⟨_, -, same⟩
      obtain ⟨rfl, -⟩ := List.cons.inj same
      exact ⟨rest, fun none => low (by rw [none]), rfl⟩

theorem exists_ofParts_append : ∃ rest, path = ofParts parts ++ rest := by
  have whole := Text.Search.intercalate_split '/' path
  rw [cut, String.intercalate_append_of_ne_nil real longer] at whole
  unfold ofParts
  split
  · rename_i top
    subst top
    exact ⟨_, whole.symm⟩
  · exact ⟨_, by rw [← String.append_assoc]; exact whole.symm⟩

end Start

end Parts

section Climb

variable {path n : String} {start front body blanks : List String}

theorem climb_blank (blank : ∀ part ∈ blanks, leads part = false) :
    climb start (blanks ++ body) = climb start body := by
  induction blanks with
  | nil => rfl
  | cons part blanks ih =>
    obtain ⟨first, rest⟩ := List.forall_mem_cons.1 blank
    rw [List.cons_append, climb, if_neg (by simp [isSome_component?, first]), ih rest]

/-- The first path of a climb has all the parts but blank ones at the end. -/
theorem exists_climb (start body : List String) : ∃ kept blanks up,
    start ++ body.reverse = kept ++ blanks ∧ (∀ part ∈ blanks, leads part = false) ∧
      start <+: kept ∧ climb start body = if kept = [] then [] else ofParts kept :: up := by
  induction body with
  | nil => exact ⟨start, [], [], by simp, List.forall_mem_nil _, List.prefix_rfl, rfl⟩
  | cons part body ih =>
    rw [climb, isSome_component?]
    cases told : leads part with
    | true =>
      refine ⟨start ++ (part :: body).reverse, [], climb start body, (List.append_nil _).symm,
        List.forall_mem_nil _, List.prefix_append _ _, ?_⟩
      rw [if_pos rfl, if_neg (by simp)]
    | false =>
      obtain ⟨kept, blanks, up, whole, blank, begun, climbed⟩ := ih
      refine ⟨kept, blanks ++ [part], up, ?_, List.forall_mem_append.2 ⟨blank, by simpa using told⟩,
        begun, climbed⟩
      rw [List.reverse_cons, ← List.append_assoc, whole, List.append_assoc]

private theorem lead_cases (path : String) : lead path = [] ∨
    ∃ part rest, lead path = [part] ∧ leads part = false ∧ split '/' path = part :: rest := by
  unfold lead
  split
  · rename_i absolute
    obtain ⟨rest, -, cut⟩ := isAbsolute_iff.1 absolute
    exact .inr ⟨"", rest, rfl, by decide, cut⟩
  · split
    · rename_i here
      obtain ⟨rest, cut⟩ := List.head?_eq_some_iff.1 here
      exact .inr ⟨".", rest, rfl, by decide, cut⟩
    · exact .inl rfl

theorem ascent_of_split (cut : split '/' path = front ++ [n]) (real : leads n = true) :
    ∃ body, front = lead path ++ body ∧
      ascent path = path :: climb (lead path) body.reverse := by
  obtain ⟨body, whole⟩ : ∃ body, front = lead path ++ body := by
    rcases lead_cases path with none | ⟨part, rest, some_, blank, first⟩
    · exact ⟨front, by rw [none, List.nil_append]⟩
    · rw [cut] at first
      cases front with
      | nil =>
        obtain ⟨rfl, -⟩ := List.cons.inj first
        cases real.symm.trans blank
      | cons part' front =>
        obtain ⟨rfl, -⟩ := List.cons.inj first
        exact ⟨front, by rw [some_, List.singleton_append]⟩
  refine ⟨body, whole, ?_⟩
  have other : split '/' path ≠ [""] := by
    rw [cut]
    intro empty
    obtain rfl : n = "" := by simpa using congrArg List.getLast? empty
    cases real
  have parts : lead path ++ (n :: body.reverse).reverse = split '/' path := by
    rw [cut, whole, List.reverse_cons, List.reverse_reverse, List.append_assoc]
  unfold ascent
  rw [cut, whole, List.append_assoc, List.drop_left, List.reverse_append, List.reverse_singleton,
    List.singleton_append, climb, if_pos (by rw [isSome_component?, real]), parts,
    ofParts_split other]

/-- The directories above a path whose last part leads somewhere: the first has the other parts, but
for blank ones at their end. -/
theorem exists_above (cut : split '/' path = front ++ [n]) (real : leads n = true) :
    ∃ kept blanks up, front = kept ++ blanks ∧ (∀ part ∈ blanks, leads part = false) ∧
      (kept = [] → isAbsolute path = false) ∧
      above path = (if kept = [] then "." else ofParts kept) :: up := by
  obtain ⟨body, whole, climbed⟩ := ascent_of_split cut real
  obtain ⟨kept, blanks, up, parts, blank, begun, first⟩ := exists_climb (lead path) body.reverse
  rw [List.reverse_reverse, ← whole] at parts
  rw [above, climbed, first]
  by_cases none : kept = []
  · rw [if_pos none]
    refine ⟨kept, blanks, [], parts, blank, fun _ => ?_, by rw [if_pos none]⟩
    rw [none, List.prefix_nil] at begun
    unfold lead at begun
    exact Bool.of_not_eq_true fun absolute => by simp [absolute] at begun
  · rw [if_neg none]
    exact ⟨kept, blanks, up, parts, blank, fun same => absurd same none, by rw [if_neg none]⟩

end Climb

section Join

variable {root n : String} {names : List String}

private theorem split_names (plain : ∀ m ∈ names, Plain m) :
    ∃ blanks, split '/' (ofNames names) = names ++ blanks ∧ ∀ part ∈ blanks, part = "" := by
  by_cases none : names = []
  · subst none
    exact ⟨[""], by decide, by decide⟩
  · exact ⟨[], by rw [split_ofNames none plain, List.append_nil], List.forall_mem_nil _⟩

private theorem relative_names (plain : ∀ m ∈ names, Plain m) : isAbsolute (ofNames names) = false := by
  by_cases none : names = []
  · subst none
    decide
  · exact not_isAbsolute_ofNames none plain

/-- The directories above a path below a root are those of the names before the last. -/
theorem ascent_join (plain : ∀ m ∈ names ++ [n], Plain m) :
    ascent (join root (ofNames (names ++ [n]))) =
      join root (ofNames (names ++ [n])) :: ascent (join root (ofNames names)) := by
  have inner : ∀ m ∈ names, Plain m := fun m mem => plain m (List.mem_append_left _ mem)
  have own := plain n (List.mem_append_right _ List.mem_cons_self)
  have relative := relative_names plain
  have relative' := relative_names inner
  have cut : split '/' (join root (ofNames (names ++ [n]))) = frontParts root ++ names ++ [n] := by
    rw [split_join relative, split_ofNames (by simp) plain, List.append_assoc]
  obtain ⟨blanks, parts, blank⟩ := split_names inner
  have cut' : split '/' (join root (ofNames names)) = frontParts root ++ names ++ blanks := by
    rw [split_join relative', parts, List.append_assoc]
  have absolute : isAbsolute (join root (ofNames names)) =
      isAbsolute (join root (ofNames (names ++ [n]))) := by
    rw [isAbsolute_join relative, isAbsolute_join relative']
  have heads : (split '/' (join root (ofNames names))).head? = some "." ↔
      (split '/' (join root (ofNames (names ++ [n])))).head? = some "." := by
    rw [cut, cut']
    cases frontParts root ++ names with
    | cons part rest => rfl
    | nil =>
      have other : n ≠ "." := own.notHere
      have away : ¬ blanks.head? = some "." := fun here =>
        absurd (blank "." (List.mem_of_head? here)) (by decide)
      simp [other, away]
  have leads_same : lead (join root (ofNames names)) = lead (join root (ofNames (names ++ [n]))) := by
    unfold lead
    simp only [absolute, heads]
  obtain ⟨body, whole, climbed⟩ := ascent_of_split cut (by simp [leads, own.nonempty, own.notHere])
  rw [climbed]
  congr 1
  unfold ascent
  rw [leads_same, cut', whole, List.append_assoc, List.drop_left, List.reverse_append,
    climb_blank fun part mem => by rw [blank part (List.mem_reverse.1 mem)]; decide]

theorem above_join (plain : ∀ m ∈ names ++ [n], Plain m) :
    above (join root (ofNames (names ++ [n]))) =
      if ascent (join root (ofNames names)) = [] then ["."]
      else ascent (join root (ofNames names)) := by
  rw [above, ascent_join plain]
  cases ascent (join root (ofNames names)) <;> rfl

end Join

end ConnectorKit.Disk.Path
