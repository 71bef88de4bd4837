import ConnectorKit.Proofs.Disk.Descent

/-!
What a search in a repository finds. It is read off the entries of the tree, so two trees that agree
on what is looked for give the same files in the same order.
-/

set_option autoImplicit false
set_option relaxedAutoImplicit false

namespace ConnectorKit.Disk

open Disk.Path (Component Plain components join ofNames)

/-- The file at a route below the start of a search. -/
def foundAt (lead : List Name) (q : Route) : Found :=
  ⟨ofNames (lead ++ q), q.getLastD ""⟩

/-- The file that an entry of the whole tree gives to a search. -/
def pick (start : Route) (lead : List Name) : Route × Entry → Option Found
  | (r, .file _ _) =>
    if start.isPrefixOf r ∧ start.length < r.length then some (foundAt lead (r.drop start.length))
    else none
  | _ => none

theorem pick_eq_some {start r : Route} {lead : List Name} {e : Entry} {f : Found} :
    pick start lead (r, e) = some f ↔ (∃ data x, e = .file data x) ∧
      ∃ q, q ≠ [] ∧ r = start ++ q ∧ f = foundAt lead q := by
  cases e with
  | file data x =>
    rw [pick]
    constructor
    · intro h
      split at h
      · rename_i below
        obtain ⟨q, rfl⟩ := List.isPrefixOf_iff_prefix.1 below.1
        refine ⟨⟨data, x, rfl⟩, q, ?_, rfl, ?_⟩
        · rintro rfl
          simp at below
        · simpa using h.symm
      · cases h
    · rintro ⟨-, q, inner, rfl, rfl⟩
      have longer : start.length < (start ++ q).length := by
        simpa using List.length_pos_of_ne_nil inner
      rw [if_pos ⟨List.isPrefixOf_iff_prefix.2 (List.prefix_append _ _), longer⟩,
        List.drop_left]
  | directory =>
    constructor
    · intro h
      cases h
    · rintro ⟨⟨_, _, same⟩, -⟩
      cases same
  | link target =>
    constructor
    · intro h
      cases h
    · rintro ⟨⟨_, _, same⟩, -⟩
      cases same

private theorem filterMap_below (t : Tree) (start : Route) (lead : List Name) :
    (t.below start).filterMap (found? lead) = t.entries.filterMap (pick start lead) := by
  unfold Tree.below
  rw [List.filterMap_filterMap]
  congr 1
  funext ⟨r, e⟩
  dsimp only
  by_cases below : start.isPrefixOf r = true ∧ start.length < r.length
  · rw [if_pos below]
    cases e with
    | file data x =>
      rw [pick, if_pos below]
      rfl
    | directory => rfl
    | link target => rfl
  · rw [if_neg below]
    cases e with
    | file data x =>
      rw [pick, if_neg below]
      rfl
    | directory => rfl
    | link target => rfl

private theorem filterMap_pick_eq_nil {t : Tree} {start : Route} {lead : List Name}
    (other : t.lookup? start ≠ some .directory) : t.entries.filterMap (pick start lead) = [] := by
  refine List.filterMap_eq_nil_iff.2 fun ⟨r, e⟩ mem => ?_
  refine Option.eq_none_iff_forall_ne_some.2 fun f picked => ?_
  obtain ⟨-, q, inner, rfl, -⟩ := pick_eq_some.1 picked
  have stands := (Tree.lookup?_iff (by simp [inner])).2 mem
  exact other (Tree.lookup?_above stands (List.prefix_append _ _) (by simpa using inner))

private theorem below?_append (front back : List Component) :
    Path.below? front (front ++ back) = some back := by
  induction front with
  | nil => cases back <;> rfl
  | cons c front ih =>
    rw [List.cons_append, Path.below?, if_pos rfl]
    exact ih

section Directory

variable {d : Disk} {root subtree : String} {names : List Name}

/-- A search below a directory reads the entries of the tree. -/
theorem listed_of_directory (ordinary : components subtree = names.map .name) {start : Route}
    (leads : d.locate (join root subtree) = .ok start)
    (dir : d.tree.lookup? start = some .directory) :
    d.listed root subtree = d.tree.entries.filterMap (pick start names) := by
  have lead : Path.below? (components root) (components (join root subtree)) =
      some (names.map .name) := by
    rw [Path.components_join_names ordinary]
    exact below?_append _ _
  have texts : (names.map Component.name).map Component.text = names := by
    rw [List.map_map]
    exact List.map_id _
  rw [listed, searchStart?_eq_some_iff.2 ⟨leads, dir⟩, lead]
  dsimp only
  rw [texts, filterMap_below]

theorem searchStart?_of_no_directory {base : String} (other : d.isDirectory base = false) :
    d.searchStart? base = none := by
  rw [isDirectory, decide_eq_false_iff_not, lookup?] at other
  unfold searchStart?
  cases leads : d.locate base with
  | error fault => rfl
  | ok start =>
    rw [leads] at other
    exact if_neg other

theorem listed_of_no_directory (other : d.isDirectory (join root subtree) = false) :
    d.listed root subtree = [] := by
  rw [listed, searchStart?_of_no_directory other]

end Directory

section Paths

variable {root : String} {names q : List Name} {n : Name}

private theorem join_join_name (nonempty : names ≠ []) (plain : ∀ m ∈ names ++ [n], Plain m) :
    join (join root (ofNames names)) n = join root (ofNames (names ++ [n])) := by
  have own := plain n (List.mem_append_right _ List.mem_cons_self)
  have inner : ∀ m ∈ names, Plain m := fun m mem => plain m (List.mem_append_left _ mem)
  have relative : Path.isAbsolute n = false := by
    rw [← Bool.not_eq_true, Path.isAbsolute_iff, Text.Search.split_of_not_mem own.unslashed]
    rintro ⟨rest, more, same⟩
    exact more (List.cons.inj same).2.symm
  obtain ⟨front, m, rfl⟩ : ∃ front m, names = front ++ [m] :=
    ⟨_, _, (List.dropLast_concat_getLast nonempty).symm⟩
  have last := inner m (List.mem_append_right _ List.mem_cons_self)
  obtain ⟨start, c, text⟩ : ∃ start c, m.toList = start ++ [c] :=
    ⟨_, _, (List.dropLast_concat_getLast fun none =>
      last.nonempty (String.toList_eq_nil_iff.1 none)).symm⟩
  have other : c ≠ '/' := fun same => last.unslashed (by rw [text, same]; simp)
  have ended : ∃ start, (join root (ofNames (front ++ [m]))).toList = start ++ [c] := by
    rw [Path.join_relative (Path.not_isAbsolute_ofNames nonempty inner), String.toList_append, ofNames]
    by_cases only : front = []
    · rw [only, List.nil_append, String.intercalate_singleton, text, ← List.append_assoc]
      exact ⟨_, rfl⟩
    · rw [String.intercalate_append_of_ne_nil only (List.cons_ne_nil m []),
        String.intercalate_singleton, String.toList_append, text, ← List.append_assoc,
        ← List.append_assoc]
      exact ⟨_, rfl⟩
  obtain ⟨start, whole⟩ := ended
  have closed : ¬ (join root (ofNames (front ++ [m])) = "" ∨
      (join root (ofNames (front ++ [m]))).toList.getLast? = some '/') := by
    rw [whole, List.getLast?_concat, Option.some.injEq]
    rintro (empty | same)
    · rw [empty] at whole
      simp at whole
    · exact other same
  rw [Path.join_relative relative, if_neg closed,
    Path.join_relative (Path.not_isAbsolute_ofNames nonempty inner),
    Path.join_relative (Path.not_isAbsolute_ofNames (by simp) plain), ofNames, ofNames,
    String.intercalate_append_of_ne_nil nonempty (List.cons_ne_nil n []),
    String.intercalate_singleton]
  simp only [String.append_assoc]

theorem foldl_join (nonempty : names ≠ []) (plain : ∀ m ∈ names ++ q, Plain m) :
    q.foldl join (join root (ofNames names)) = join root (ofNames (names ++ q)) := by
  induction q generalizing names with
  | nil => rw [List.append_nil]; rfl
  | cons n q ih =>
    have whole : names ++ n :: q = names ++ [n] ++ q := by simp
    rw [whole] at plain ⊢
    rw [List.foldl_cons, join_join_name nonempty fun m mem => plain m (List.mem_append_left _ mem),
      ih (by simp) plain]

end Paths

namespace Repository

variable {d d' : Disk} {root : String} {base : Route} {names : List Name}

/-- A search in a repository comes to an end where the path of every directory below its start is
possible. -/
theorem searchable_iff (repo : Repository d root base) (nonempty : names ≠ [])
    (plain : ∀ n ∈ names, Plain n) : d.Searchable root (ofNames names) ↔
      (Allowed root names → ∀ q, d.tree.lookup? (base ++ names ++ q) = some .directory →
        checkPath (join root (ofNames (names ++ q))) = .ok ()) := by
  have path {q : Route} (stands : d.tree.lookup? (base ++ names ++ q) = some .directory) :
      q.foldl join (join root (ofNames names)) = join root (ofNames (names ++ q)) :=
    foldl_join nonempty (repo.plain_of_stands (by rwa [← List.append_assoc]))
  constructor
  · intro opens allowed q stands
    have dir : d.tree.lookup? (base ++ names) = some .directory := by
      by_cases here : q = []
      · rwa [here, List.append_nil] at stands
      · exact Tree.lookup?_above stands (List.prefix_append _ q) (by simpa using here)
    have begun := searchStart?_eq_some_iff.2
      ⟨(repo.locate_iff nonempty plain).2 ⟨allowed, rfl, _, dir⟩, dir⟩
    rw [← path stands]
    exact opens _ begun q stands
  · intro possible start begun q stands
    obtain ⟨led, -⟩ := searchStart?_eq_some_iff.1 begun
    obtain ⟨allowed, rfl, -⟩ := (repo.locate_iff nonempty plain).1 led
    rw [path stands]
    exact possible allowed q stands

theorem searchable_of_entries (repo : Repository d root base) (nonempty : names ≠ [])
    (plain : ∀ n ∈ names, Plain n)
    (possible : ∀ a ∈ d.tree.entries, a.2 = .directory → names <+: a.1.drop base.length →
      checkPath (join root (ofNames (a.1.drop base.length))) = .ok ()) :
    d.Searchable root (ofNames names) := by
  refine (repo.searchable_iff nonempty plain).2 fun _ q stands => ?_
  have opened := possible _ ((Tree.lookup?_iff (by simp [nonempty])).1 stands) rfl
  rw [List.append_assoc, List.drop_left] at opened
  exact opened (List.prefix_append _ _)

private theorem listed_eq (repo : Repository d root base) (nonempty : names ≠ [])
    (plain : ∀ n ∈ names, Plain n) :
    (Allowed root names →
      d.listed root (ofNames names) = d.tree.entries.filterMap (pick (base ++ names) names)) ∧
    (¬ Allowed root names → d.listed root (ofNames names) = []) := by
  have ordinary := Path.components_ofNames nonempty plain
  have looked := repo.lookup?_iff nonempty plain (e := .directory)
  refine ⟨fun allowed => ?_, fun no => ?_⟩
  · by_cases dir : d.tree.lookup? (base ++ names) = some .directory
    · exact listed_of_directory ordinary
        ((repo.locate_iff nonempty plain).2 ⟨allowed, rfl, _, dir⟩) dir
    · rw [filterMap_pick_eq_nil dir]
      refine listed_of_no_directory ?_
      rw [isDirectory, decide_eq_false_iff_not, looked]
      exact fun h => dir h.2
  · refine listed_of_no_directory ?_
    rw [isDirectory, decide_eq_false_iff_not, looked]
    exact fun h => no h.1

theorem listed_root (repo : Repository d root base) {root' : String} (repo' : Repository d root' base)
    (nonempty : names ≠ []) (plain : ∀ n ∈ names, Plain n) (allowed : Allowed root names)
    (allowed' : Allowed root' names) :
    d.listed root' (ofNames names) = d.listed root (ofNames names) := by
  rw [(repo.listed_eq nonempty plain).1 allowed, (repo'.listed_eq nonempty plain).1 allowed']

theorem mem_listed (repo : Repository d root base) (nonempty : names ≠ [])
    (plain : ∀ n ∈ names, Plain n) {f : Found} :
    f ∈ d.listed root (ofNames names) ↔ Allowed root names ∧ ∃ q data x, q ≠ [] ∧
      d.tree.lookup? (base ++ names ++ q) = some (.file data x) ∧ f = foundAt names q := by
  obtain ⟨some_, none⟩ := repo.listed_eq nonempty plain
  by_cases allowed : Allowed root names
  · rw [some_ allowed, List.mem_filterMap]
    constructor
    · rintro ⟨⟨r, e⟩, mem, picked⟩
      obtain ⟨⟨data, x, rfl⟩, q, inner, rfl, rfl⟩ := pick_eq_some.1 picked
      exact ⟨allowed, q, data, x, inner, (Tree.lookup?_iff (by simp [inner])).2 mem, rfl⟩
    · rintro ⟨-, q, data, x, inner, stands, rfl⟩
      refine ⟨⟨base ++ names ++ q, .file data x⟩, (Tree.lookup?_iff (by simp [inner])).1 stands, ?_⟩
      exact pick_eq_some.2 ⟨⟨data, x, rfl⟩, q, inner, rfl, rfl⟩
  · rw [none allowed]
    exact ⟨nofun, fun h => absurd h.1 allowed⟩

theorem listed_congr (repo : Repository d root base) (repo' : Repository d' root base)
    (nonempty : names ≠ []) (plain : ∀ n ∈ names, Plain n) {keep : Found → Bool}
    (same : ∀ q data x, q ≠ [] → keep (foundAt names q) = true →
      (d'.tree.lookup? (base ++ names ++ q) = some (.file data x) ↔
        d.tree.lookup? (base ++ names ++ q) = some (.file data x))) :
    (d'.listed root (ofNames names)).filter keep = (d.listed root (ofNames names)).filter keep := by
  obtain ⟨some_, none⟩ := repo.listed_eq nonempty plain
  obtain ⟨some', none'⟩ := repo'.listed_eq nonempty plain
  by_cases allowed : Allowed root names
  · rw [some_ allowed, some' allowed, List.filter_filterMap, List.filter_filterMap]
    refine Tree.filterMap_congr fun r e kept => ?_
    obtain ⟨f, kept⟩ := Option.ne_none_iff_exists'.1 kept
    obtain ⟨picked, told⟩ := Option.filter_eq_some_iff.1 kept
    obtain ⟨⟨data, x, rfl⟩, q, inner, rfl, rfl⟩ := pick_eq_some.1 picked
    exact same q data x inner told
  · rw [none allowed, none' allowed]

end Repository

end ConnectorKit.Disk
