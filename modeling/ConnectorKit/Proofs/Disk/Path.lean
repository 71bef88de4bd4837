import ConnectorKit.Disk.Path
import ConnectorKit.Proofs.Text.Search

/-!
Paths below a root. A path is the root followed by plain names: those names are its last components
and its last parts between slashes.
-/

set_option autoImplicit false
set_option relaxedAutoImplicit false

namespace ConnectorKit.Disk.Path

open Text.Search (split split_append split_intercalate)

/-- A name that stands for one component, wherever it is in a path. -/
structure Plain (n : String) : Prop where
  nonempty : n ≠ ""
  notHere : n ≠ "."
  notUp : n ≠ ".."
  unslashed : '/' ∉ n.toList

theorem plain_iff {n : String} :
    Plain n ↔ n ≠ "" ∧ n ≠ "." ∧ n ≠ ".." ∧ '/' ∉ n.toList :=
  ⟨fun h => ⟨h.nonempty, h.notHere, h.notUp, h.unslashed⟩, fun h => ⟨h.1, h.2.1, h.2.2.1, h.2.2.2⟩⟩

instance : DecidablePred Plain := fun _ => decidable_of_iff _ plain_iff.symm

theorem plain_of_length {n : String} (long : 2 < n.toList.length) (unslashed : '/' ∉ n.toList) :
    Plain n where
  nonempty same := by simp [same] at long
  notHere same := by simp [same] at long
  notUp same := by simp [same] at long
  unslashed := unslashed

/-- Names with slashes between them. -/
def ofNames (names : List String) : String :=
  "/".intercalate names

section Names

variable {names : List String}

theorem split_ofNames (nonempty : names ≠ []) (plain : ∀ n ∈ names, Plain n) :
    split '/' (ofNames names) = names :=
  split_intercalate nonempty fun n mem => (plain n mem).unslashed

private theorem toList_ofNames (n : String) (names : List String) :
    ∃ rest, (ofNames (n :: names)).toList = n.toList ++ rest := by
  cases names with
  | nil => exact ⟨[], by simp [ofNames]⟩
  | cons m names => exact ⟨_, by rw [ofNames, String.intercalate_cons_cons, String.append_assoc,
      String.toList_append]⟩

private theorem head_plain {n : String} (plain : Plain n) : ∃ c rest, n.toList = c :: rest ∧ c ≠ '/' := by
  cases text : n.toList with
  | nil => exact absurd (String.toList_eq_nil_iff.1 text) plain.nonempty
  | cons c rest =>
    refine ⟨c, rest, rfl, ?_⟩
    rintro rfl
    exact plain.unslashed (text ▸ List.mem_cons_self)

theorem not_isAbsolute_ofNames (nonempty : names ≠ []) (plain : ∀ n ∈ names, Plain n) :
    isAbsolute (ofNames names) = false := by
  obtain ⟨n, rest, rfl⟩ := List.exists_cons_of_ne_nil nonempty
  obtain ⟨c, more, text, other⟩ := head_plain (plain n List.mem_cons_self)
  obtain ⟨tail, whole⟩ := toList_ofNames n rest
  simp [isAbsolute, whole, text, other]

theorem ofNames_append (names more : List String) :
    ∃ rest, ofNames (names ++ more) = ofNames names ++ rest := by
  by_cases none : more = []
  · exact ⟨"", by simp [none]⟩
  · by_cases first : names = []
    · exact ⟨_, by rw [first, List.nil_append]; exact (String.empty_append ..).symm⟩
    · exact ⟨"/" ++ ofNames more, by
        rw [ofNames, String.intercalate_append_of_ne_nil first none, String.append_assoc]; rfl⟩

end Names

/-- The parts of a root that stand before what is joined to it. -/
def frontParts (root : String) : List String :=
  if root = "" ∨ root.toList.getLast? = some '/' then (split '/' root).dropLast else split '/' root

theorem split_root (root : String) :
    split '/' root = frontParts root ∨ split '/' root = frontParts root ++ [""] := by
  unfold frontParts
  split
  · rename_i open_
    refine .inr ?_
    by_cases empty : root = ""
    · subst empty
      rw [Text.Search.split_empty]
      rfl
    · obtain ⟨front, whole⟩ := List.getLast?_eq_some_iff.1 (open_.resolve_left empty)
      have ended : root.toList = (String.ofList front).toList ++ '/' :: ("" : String).toList := by
        simp [whole]
      rw [split_append ended, Text.Search.split_empty,
        List.dropLast_concat]
  · exact .inl rfl

theorem split_ne_nil (text : String) : split '/' text ≠ [] := by
  simp [Text.Search.split_eq]

section Names

variable {names : List String} {n : String}

theorem suffix_ofNames_iff {finish : String} (more : names ≠ [])
    (free : '/' ∉ finish.toList) :
    finish.toList <:+ (ofNames (names ++ [n])).toList ↔ finish.toList <:+ n.toList := by
  have whole : (ofNames (names ++ [n])).toList = (ofNames names).toList ++ '/' :: n.toList := by
    simp [ofNames, String.intercalate_append_of_ne_nil more]
  rw [whole, Text.Search.suffix_append_cons free]

/-- What stands between two slashes of a path is a name of it, neither the first nor the last. -/
theorem between_slashes_iff {first last : String} {inner : List String}
    (plain : ∀ m ∈ first :: (inner ++ [last]), Plain m) (free : '/' ∉ n.toList) :
    ("/" ++ n ++ "/").toList <:+: (ofNames (first :: (inner ++ [last]))).toList ↔ n ∈ inner := by
  constructor
  · rintro ⟨front, back, whole⟩
    have opened : (ofNames (first :: (inner ++ [last]))).toList =
        (String.ofList front).toList ++ '/' :: (n ++ "/" ++ String.ofList back).toList := by
      rw [← whole]
      simp
    have closed : (n ++ "/" ++ String.ofList back).toList =
        n.toList ++ '/' :: (String.ofList back).toList := by simp
    have cut := split_append opened
    rw [split_append closed, Text.Search.split_of_not_mem free,
      split_ofNames (by simp) plain] at cut
    obtain ⟨ahead, heads, front_⟩ := List.exists_cons_of_ne_nil (split_ne_nil (String.ofList front))
    have back_ := (List.dropLast_concat_getLast (split_ne_nil (String.ofList back))).symm
    rw [front_, back_, List.cons_append, List.cons.injEq, ← List.append_assoc,
      ← List.append_assoc] at cut
    rw [List.append_inj_left' cut.2 rfl]
    simp
  · intro mem
    obtain ⟨before, after, rfl⟩ := List.mem_iff_append.1 mem
    have whole : ofNames (first :: (before ++ n :: after ++ [last])) =
        ofNames (first :: before) ++ "/" ++ (n ++ "/" ++ ofNames (after ++ [last])) := by
      have apart : first :: (before ++ n :: after ++ [last]) =
          (first :: before) ++ ([n] ++ (after ++ [last])) := by simp
      rw [apart, ofNames, String.intercalate_append_of_ne_nil (by simp) (by simp),
        String.intercalate_append_of_ne_nil (by simp) (by simp), String.intercalate_singleton]
      rfl
    refine ⟨(ofNames (first :: before)).toList, (ofNames (after ++ [last])).toList, ?_⟩
    rw [whole]
    simp only [String.toList_append, List.append_assoc]

end Names

private theorem frontParts_eq_nil {root : String} (none : frontParts root = []) : root = "" := by
  rcases split_root root with same | ended
  · exact absurd (same.trans none) (split_ne_nil root)
  · rw [none, List.nil_append] at ended
    have text : root.toList.splitOn '/' = [[]] := by
      rw [Text.Search.split_eq] at ended
      simpa [List.map_eq_singleton_iff] using ended
    have empty : ['/'].intercalate (root.toList.splitOn '/') = root.toList :=
      List.intercalate_splitOn '/'
    rw [text] at empty
    simpa using empty.symm

section Join

variable {root rest : String} {names : List String}

theorem join_relative (relative : isAbsolute rest = false) :
    join root rest = (if root = "" ∨ root.toList.getLast? = some '/' then root else root ++ "/") ++
      rest := by
  rw [join, if_neg (by simp [relative])]
  split <;> rfl

theorem split_join (relative : isAbsolute rest = false) :
    split '/' (join root rest) = frontParts root ++ split '/' rest := by
  rw [join, if_neg (by simp [relative])]
  unfold frontParts
  split
  · rename_i open_
    by_cases empty : root = ""
    · subst empty
      rw [String.empty_append, Text.Search.split_empty]
      rfl
    · obtain ⟨front, whole⟩ := List.getLast?_eq_some_iff.1 (open_.resolve_left empty)
      have cut : (root ++ rest).toList = (String.ofList front).toList ++ '/' :: rest.toList := by
        simp [whole]
      have ended : root.toList = (String.ofList front).toList ++ '/' :: ("" : String).toList := by
        simp [whole]
      rw [split_append cut, split_append ended, Text.Search.split_empty,
        List.dropLast_concat]
  · exact split_append (by simp)

theorem isAbsolute_join (relative : isAbsolute rest = false) :
    isAbsolute (join root rest) = isAbsolute root := by
  by_cases empty : root = ""
  · subst empty
    rw [join, if_neg (by simp [relative]), if_pos (.inl rfl)]
    simpa [isAbsolute] using relative
  · have headed : root.toList ≠ [] := by simpa using empty
    obtain ⟨c, tail, text⟩ := List.exists_cons_of_ne_nil headed
    rw [join, if_neg (by simp [relative])]
    split <;> simp [isAbsolute, text]

private theorem filterMap_plain (plain : ∀ n ∈ names, Plain n) :
    names.filterMap component? = names.map .name := by
  induction names with
  | nil => rfl
  | cons n names ih =>
    have first := plain n List.mem_cons_self
    have told : component? n = some (.name n) := by
      simp [component?, first.nonempty, first.notHere, first.notUp]
    rw [List.filterMap_cons_some told, ih fun m mem => plain m (List.mem_cons_of_mem _ mem)]
    rfl

private theorem filterMap_frontParts (root : String) :
    (frontParts root).filterMap component? = (split '/' root).filterMap component? := by
  rcases split_root root with same | ended
  · rw [same]
  · rw [ended, List.filterMap_append]
    simp [component?]

theorem components_ofNames (nonempty : names ≠ []) (plain : ∀ n ∈ names, Plain n) :
    components (ofNames names) = names.map .name := by
  obtain ⟨n, more, rfl⟩ := List.exists_cons_of_ne_nil nonempty
  have first : n ≠ "." := (plain n List.mem_cons_self).notHere
  unfold components
  dsimp only
  rw [not_isAbsolute_ofNames nonempty plain, split_ofNames nonempty plain, filterMap_plain plain]
  simp [first]

private theorem names_of_components (ordinary : components rest = names.map .name) :
    isAbsolute rest = false ∧ (split '/' rest).head? ≠ some "." ∧
      (split '/' rest).filterMap component? = names.map .name := by
  have named : ∀ c ∈ components rest, ∃ n, c = .name n := by
    intro c mem
    rw [ordinary] at mem
    obtain ⟨n, -, rfl⟩ := List.mem_map.1 mem
    exact ⟨n, rfl⟩
  unfold components at ordinary named
  dsimp only at ordinary named
  cases absolute : isAbsolute rest with
  | true => simp [absolute] at named
  | false =>
    by_cases here : (split '/' rest).head? = some "."
    · simp [absolute, here] at named
    · exact ⟨rfl, here, by simpa [absolute, here] using ordinary⟩

theorem components_join_names (ordinary : components rest = names.map .name) :
    components (join root rest) = components root ++ names.map .name := by
  obtain ⟨relative, start, parts⟩ := names_of_components ordinary
  have head : ((frontParts root ++ split '/' rest).head? = some ".") =
      ((split '/' root).head? = some ".") := by
    by_cases none : frontParts root = []
    · have empty := frontParts_eq_nil none
      subst empty
      simp [none, start, Text.Search.split_empty]
    · obtain ⟨first, more, front⟩ := List.exists_cons_of_ne_nil none
      rcases split_root root with same | ended
      · rw [same, front, List.cons_append, List.head?_cons, List.head?_cons]
      · rw [ended, front, List.cons_append, List.cons_append, List.head?_cons, List.head?_cons]
  unfold components
  dsimp only
  rw [split_join relative, isAbsolute_join relative, List.filterMap_append, parts,
    filterMap_frontParts, List.append_assoc]
  simp only [head]

end Join

theorem isAbsolute_eq (path : String) :
    isAbsolute path = decide ((components path).head? = some .top) := by
  have inner : ((split '/' path).filterMap component?).head? ≠ some .top := by
    intro top
    obtain ⟨part, -, told⟩ := List.mem_filterMap.1 (List.mem_of_head? top)
    unfold component? at told
    split at told
    · cases told
    · split at told <;> cases told
  cases rooted : isAbsolute path with
  | true => simp [components, rooted]
  | false =>
    simp only [components, rooted, Bool.false_eq_true, if_false]
    split
    · simp
    · simpa using inner

theorem plain_of_components {path : String} {names : List String}
    (ordinary : components path = names.map .name) : ∀ n ∈ names, Plain n := by
  obtain ⟨-, -, parts⟩ := names_of_components ordinary
  intro n mem
  have told : Component.name n ∈ (split '/' path).filterMap component? := by
    rw [parts]
    exact List.mem_map_of_mem mem
  obtain ⟨part, inside, own⟩ := List.mem_filterMap.1 told
  unfold component? at own
  split at own
  · cases own
  · rename_i real
    split at own
    · cases own
    · rename_i down
      obtain rfl : part = n := by simpa using own
      exact ⟨fun empty => real (.inl empty), fun here => real (.inr here), down,
        Text.Search.not_mem_of_mem_split inside⟩

end ConnectorKit.Disk.Path
