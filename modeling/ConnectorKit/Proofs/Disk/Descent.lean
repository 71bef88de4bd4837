import ConnectorKit.Disk.Search
import ConnectorKit.Proofs.Disk.Repository

/-!
The walk of a directory. It sorts each directory by itself and goes down into one where it comes to
it; what comes out are the entries below in the order of their routes. It does so where every
directory can be opened by its path, and otherwise tells one that cannot.
-/

set_option autoImplicit false
set_option relaxedAutoImplicit false

namespace ConnectorKit.Disk

open Disk.Path (join)

section Listing

private theorem sorted_insertByName {a : Name × Entry} {l : List (Name × Entry)}
    (sorted : l.Pairwise fun b c => b.1 < c.1) (new : ∀ b ∈ l, a.1 ≠ b.1) :
    (insertByName a l).Pairwise fun b c => b.1 < c.1 := by
  induction l with
  | nil => exact List.pairwise_singleton _ _
  | cons b rest ih =>
    obtain ⟨before, later⟩ := List.pairwise_cons.1 sorted
    obtain ⟨other, others⟩ := List.forall_mem_cons.1 new
    unfold insertByName
    split
    · rename_i le
      have lt : a.1 < b.1 := Std.lt_of_le_of_ne le other
      refine List.pairwise_cons.2 ⟨fun c mem => ?_, sorted⟩
      rcases List.mem_cons.1 mem with rfl | mem
      · exact lt
      · exact String.lt_trans lt (before c mem)
    · rename_i gt
      refine List.pairwise_cons.2 ⟨fun c mem => ?_, ih later others⟩
      rcases mem_insertByName.1 mem with rfl | mem
      · exact String.not_le.1 gt
      · exact before c mem

private theorem sorted_sortByName {l : List (Name × Entry)} (distinct : l.Pairwise fun a b => a.1 ≠ b.1) :
    (sortByName l).Pairwise fun a b => a.1 < b.1 := by
  induction l with
  | nil => exact .nil
  | cons a rest ih =>
    obtain ⟨other, later⟩ := List.pairwise_cons.1 distinct
    exact sorted_insertByName (ih later) fun b mem => other b (mem_sortByName.1 mem)

theorem Tree.sorted_listing (t : Tree) (r : Route) :
    (t.listing r).Pairwise fun a b => a.1 < b.1 := by
  refine sorted_sortByName (t.sorted.filterMap _ ?_)
  rintro ⟨p, e⟩ ⟨q, f⟩ lt ⟨m, e'⟩ picked ⟨n, f'⟩ picked' same
  simp only [Option.ite_none_right_eq_some, Option.some.injEq, Prod.mk.injEq] at picked picked'
  obtain ⟨here, rfl, -⟩ := picked
  obtain ⟨here', rfl, -⟩ := picked'
  dsimp only at lt same
  rw [here, here', same] at lt
  exact List.lt_irrefl _ lt

end Listing

section Spread

variable {t : Tree} {r q : Route} {e : Entry}

theorem Tree.mem_below : (q, e) ∈ t.below r ↔ q ≠ [] ∧ (r ++ q, e) ∈ t.entries := by
  unfold below
  rw [List.mem_filterMap]
  constructor
  · rintro ⟨⟨p, f⟩, mem, picked⟩
    dsimp only at picked
    split at picked
    · rename_i inner
      cases picked
      obtain ⟨rest, rfl⟩ := List.isPrefixOf_iff_prefix.1 inner.1
      rw [List.drop_left]
      refine ⟨fun none => ?_, mem⟩
      simp [none] at inner
    · cases picked
  · rintro ⟨inner, mem⟩
    have longer : r.length < (r ++ q).length := by simpa using List.length_pos_of_ne_nil inner
    refine ⟨_, mem, ?_⟩
    dsimp only
    rw [if_pos ⟨List.isPrefixOf_iff_prefix.2 (List.prefix_append _ _), longer⟩, List.drop_left]

theorem Tree.filterMap_below_congr {u : Tree} {α : Type} {make : Route × Entry → Option α}
    (same : ∀ q e, make (q, e) ≠ none → (t.lookup? (r ++ q) = some e ↔ u.lookup? (r ++ q) = some e)) :
    (t.below r).filterMap make = (u.below r).filterMap make := by
  unfold below
  rw [List.filterMap_filterMap, List.filterMap_filterMap]
  refine filterMap_congr fun p e made => ?_
  dsimp only at made
  split at made
  · rename_i inner
    obtain ⟨q, rfl⟩ := List.isPrefixOf_iff_prefix.1 inner.1
    rw [List.drop_left] at made
    exact same q e made
  · exact absurd rfl made

private theorem append_lt_iff (front : Route) {r s : Route} : front ++ r < front ++ s ↔ r < s := by
  induction front with
  | nil => rfl
  | cons n front ih => exact List.cons_lt_cons_self.trans ih

theorem Tree.sorted_below (t : Tree) (r : Route) :
    (t.below r).Pairwise fun a b => a.1 < b.1 := by
  refine t.sorted.filterMap _ ?_
  rintro ⟨p, e⟩ ⟨q, f⟩ lt a picked b picked'
  simp only [Option.ite_none_right_eq_some, Option.some.injEq] at picked picked'
  obtain ⟨⟨start, -⟩, rfl⟩ := picked
  obtain ⟨⟨start', -⟩, rfl⟩ := picked'
  obtain ⟨p, rfl⟩ := List.isPrefixOf_iff_prefix.1 start
  obtain ⟨q, rfl⟩ := List.isPrefixOf_iff_prefix.1 start'
  dsimp only at lt ⊢
  rw [List.drop_left, List.drop_left]
  exact (append_lt_iff r).1 lt

/-- An entry of a directory and, behind a directory, what is below that one. -/
def Tree.visit (t : Tree) (r : Route) (a : Name × Entry) : List (Route × Entry) :=
  ([a.1], a.2) ::
    if a.2 = .directory then (t.below (r ++ [a.1])).map fun b => (a.1 :: b.1, b.2) else []

private theorem mem_visit {n : Name} {f : Entry} (stands : (r ++ [n], f) ∈ t.entries) :
    (q, e) ∈ t.visit r (n, f) ↔ ∃ rest, q = n :: rest ∧ (r ++ q, e) ∈ t.entries := by
  have here : t.lookup? (r ++ [n]) = some f := (Tree.lookup?_iff (by simp)).2 stands
  have whole (rest : Route) : r ++ n :: rest = r ++ [n] ++ rest := by simp
  rw [Tree.visit, List.mem_cons]
  constructor
  · rintro (first | later)
    · cases first
      exact ⟨[], rfl, stands⟩
    · split at later
      · obtain ⟨⟨rest, e'⟩, mem, same⟩ := List.mem_map.1 later
        cases same
        exact ⟨rest, rfl, whole rest ▸ (Tree.mem_below.1 mem).2⟩
      · cases later
  · rintro ⟨rest, rfl, mem⟩
    by_cases last : rest = []
    · subst last
      have again := (Tree.lookup?_iff (by simp)).2 mem
      rw [here] at again
      cases again
      exact .inl rfl
    · rw [whole] at mem
      have dir := Tree.lookup?_above ((Tree.lookup?_iff (by simp)).2 mem) (List.prefix_append _ rest)
        (by simpa using last)
      rw [here] at dir
      cases dir
      rw [if_pos rfl]
      exact .inr (List.mem_map.2 ⟨(rest, e), Tree.mem_below.2 ⟨last, mem⟩, rfl⟩)

private theorem sorted_visit (a : Name × Entry) : (t.visit r a).Pairwise fun b c => b.1 < c.1 := by
  unfold Tree.visit
  split
  · refine List.pairwise_cons.2 ⟨fun b mem => ?_, List.pairwise_map.2 ?_⟩
    · obtain ⟨⟨rest, e⟩, inner, rfl⟩ := List.mem_map.1 mem
      obtain ⟨n, rest, rfl⟩ := List.exists_cons_of_ne_nil (Tree.mem_below.1 inner).1
      exact List.cons_lt_cons_self.2 (List.nil_lt_cons n rest)
    · exact (t.sorted_below _).imp fun lt => List.cons_lt_cons_self.2 lt
  · exact List.pairwise_singleton _ _

/-- The entries below a directory are those of its listing, each with what is below it. -/
theorem Tree.flatMap_visit (t : Tree) (r : Route) :
    (t.listing r).flatMap (t.visit r) = t.below r := by
  refine eq_of_sorted (List.pairwise_flatMap.2 ⟨fun a _ => sorted_visit a, ?_⟩) (t.sorted_below r)
    fun (q, e) => ?_
  · refine (List.Pairwise.and_mem.1 (t.sorted_listing r)).imp ?_
    rintro ⟨m, f⟩ ⟨n, g⟩ ⟨mem, mem', lt⟩ ⟨p, e⟩ here ⟨q, e'⟩ there
    obtain ⟨rest, rfl, -⟩ := (mem_visit (mem_listing.1 mem)).1 here
    obtain ⟨rest', rfl, -⟩ := (mem_visit (mem_listing.1 mem')).1 there
    exact List.cons_lt_cons_iff.2 (.inl lt)
  · rw [List.mem_flatMap, mem_below]
    constructor
    · rintro ⟨⟨n, f⟩, mem, here⟩
      obtain ⟨rest, rfl, stands⟩ := (mem_visit (mem_listing.1 mem)).1 here
      exact ⟨List.cons_ne_nil _ _, stands⟩
    · rintro ⟨inner, stands⟩
      obtain ⟨n, rest, rfl⟩ := List.exists_cons_of_ne_nil inner
      have looked := (lookup?_iff (by simp)).2 stands
      obtain ⟨f, here⟩ : ∃ f, (r ++ [n], f) ∈ t.entries := by
        by_cases last : rest = []
        · subst last
          exact ⟨e, stands⟩
        · refine ⟨.directory, (lookup?_iff (by simp)).1 (lookup?_above looked ⟨rest, by simp⟩ ?_)⟩
          simpa using fun same : [] = rest => last same.symm
      exact ⟨(n, f), mem_listing.2 here, (mem_visit here).2 ⟨rest, rfl, stands⟩⟩

end Spread

section Walk

variable {t : Tree} {path : String} {r : Route}

/-- Every directory from a route on can be opened by its path; `path` is that of the first. -/
def Tree.Opens (t : Tree) (path : String) (r : Route) : Prop :=
  ∀ q, t.lookup? (r ++ q) = some .directory → checkPath (q.foldl join path) = .ok ()

/-- What a walk does with an entry of a directory. -/
def Tree.enter (t : Tree) (path : String) (r : Route) (a : Name × Entry) :
    Except Failure (List (Route × Entry)) := do
  if a.2 = .directory then
    let inner ← t.walk (join path a.1) (r ++ [a.1])
    return ([a.1], a.2) :: inner.map fun b => (a.1 :: b.1, b.2)
  else return [([a.1], a.2)]

theorem Tree.walk_eq (t : Tree) (path : String) (r : Route) : t.walk path r = do
    openDirectory path
    let parts ← (t.listing r).mapM (t.enter path r)
    return parts.flatten := by
  rw [Tree.walk]
  refine congrArg _ (funext fun _ => congrArg (· >>= _) ?_)
  rw [List.mapM_subtype (g := t.enter path r) fun _ _ => rfl, List.unattach_attach]

private theorem mapM_eq {ε α β : Type} {f : α → Except ε β} {g : α → β} {bad : α → List ε}
    {l : List α} (steps : ∀ a ∈ l, f a = (bad a).head?.elim (.ok (g a)) .error) :
    l.mapM f = (l.flatMap bad).head?.elim (.ok (l.map g)) .error := by
  induction l with
  | nil => rfl
  | cons a rest ih =>
    obtain ⟨first, later⟩ := List.forall_mem_cons.1 steps
    rw [List.mapM_cons, first, ih later, List.flatMap_cons]
    cases bad a with
    | cons x more => rfl
    | nil =>
      rw [List.nil_append]
      cases (rest.flatMap bad).head? <;> rfl

/-- Why a directory cannot be opened, if it cannot; the path is that of the start. -/
def shut? (path : String) (a : Route × Entry) : Option Failure :=
  if a.2 = .directory then
    match checkPath (a.1.foldl join path) with
    | .ok _ => none
    | .error fault => some (.walk (a.1.foldl join path) fault)
  else none

theorem shut?_eq_some_iff {q : Route} {e : Entry} {f : Failure} : shut? path (q, e) = some f ↔
    e = .directory ∧ ∃ fault, checkPath (q.foldl join path) = .error fault ∧
      f = .walk (q.foldl join path) fault := by
  unfold shut?
  rw [Option.ite_none_right_eq_some]
  refine and_congr_right fun _ => ?_
  cases checkPath (q.foldl join path) with
  | ok => exact ⟨nofun, fun ⟨_, other, _⟩ => nomatch other⟩
  | error fault =>
    constructor
    · rintro ⟨⟩
      exact ⟨fault, rfl, rfl⟩
    · rintro ⟨_, ⟨⟩, rfl⟩
      rfl

/-- The failures of the directories from a route on, in the order of the walk. -/
def Tree.failures (t : Tree) (path : String) (r : Route) : List Failure :=
  (([], .directory) :: t.below r).filterMap (shut? path)

/-- A walk gives the entries below a directory in the order of their routes, if every directory there
can be opened; otherwise it fails for the first that cannot. -/
theorem Tree.walk_eq_below (t : Tree) (path : String) (r : Route) :
    t.walk path r = (t.failures path r).head?.elim (.ok (t.below r)) .error := by
  induction path, r using Tree.walk.induct t with
  | case1 path r ih =>
  have steps : ∀ a ∈ t.listing r, t.enter path r a =
      ((t.visit r a).filterMap (shut? path)).head?.elim (.ok (t.visit r a)) .error := by
    rintro ⟨n, e⟩ mem
    by_cases dir : e = .directory
    · subst dir
      have inner : t.visit r (n, .directory) =
          (([], .directory) :: t.below (r ++ [n])).map fun b => (n :: b.1, b.2) := rfl
      have fails : (t.visit r (n, .directory)).filterMap (shut? path) =
          t.failures (join path n) (r ++ [n]) := by
        rw [inner, List.filterMap_map]
        rfl
      rw [fails, enter, if_pos rfl, ih n .directory mem]
      cases (t.failures (join path n) (r ++ [n])).head? <;> rfl
    · have alone : t.visit r (n, e) = [([n], e)] := by
        rw [visit, if_neg dir]
      have fine : shut? path ([n], e) = none := if_neg dir
      rw [alone, enter, if_neg dir, List.filterMap_cons, fine]
      rfl
  have parts : ((t.listing r).map (t.visit r)).flatten = t.below r := by
    rw [← List.flatMap_def, t.flatMap_visit]
  rw [walk_eq, mapM_eq steps, ← List.filterMap_flatMap, t.flatMap_visit, openDirectory, failures,
    List.filterMap_cons]
  cases opened : checkPath path with
  | error fault =>
    have first : shut? path ([], .directory) = some (.walk path fault) :=
      shut?_eq_some_iff.2 ⟨rfl, fault, opened, rfl⟩
    rw [first]
    rfl
  | ok =>
    have first : shut? path ([], .directory) = none := by
      refine Option.eq_none_iff_forall_ne_some.2 fun f shut => ?_
      obtain ⟨-, fault, refused, -⟩ := shut?_eq_some_iff.1 shut
      cases opened.symm.trans refused
    rw [first, ← parts]
    cases ((((t.listing r).map (t.visit r)).flatten).filterMap (shut? path)).head? <;> rfl

theorem Tree.mem_failures (dir : t.lookup? r = some .directory) {f : Failure} :
    f ∈ t.failures path r ↔ ∃ q fault, t.lookup? (r ++ q) = some .directory ∧
      checkPath (q.foldl join path) = .error fault ∧ f = .walk (q.foldl join path) fault := by
  unfold failures
  rw [List.mem_filterMap]
  constructor
  · rintro ⟨⟨q, e⟩, mem, shut⟩
    obtain ⟨rfl, fault, refused⟩ := shut?_eq_some_iff.1 shut
    refine ⟨q, fault, ?_, refused⟩
    rcases List.mem_cons.1 mem with first | inner
    · obtain ⟨rfl, -⟩ := Prod.mk.inj first
      rwa [List.append_nil]
    · obtain ⟨nonempty, stands⟩ := mem_below.1 inner
      exact (lookup?_iff (by simp [nonempty])).2 stands
  · rintro ⟨q, fault, stands, refused⟩
    refine ⟨(q, .directory), ?_, shut?_eq_some_iff.2 ⟨rfl, fault, refused⟩⟩
    by_cases here : q = []
    · subst here
      exact List.mem_cons_self
    · exact List.mem_cons_of_mem _
        (mem_below.2 ⟨here, (lookup?_iff (by simp [here])).1 stands⟩)

end Walk

section Files

variable {d : Disk} {root subtree : String} {start : Route}

theorem searchStart?_eq_some_iff {base : String} : d.searchStart? base = some start ↔
    d.locate base = .ok start ∧ d.tree.lookup? start = some .directory := by
  unfold searchStart?
  cases d.locate base with
  | error fault => exact ⟨nofun, fun h => nomatch h.1⟩
  | ok r =>
    dsimp only
    rw [Option.ite_none_right_eq_some, Option.some.injEq, Except.ok.injEq]
    constructor
    · rintro ⟨dir, rfl⟩
      exact ⟨rfl, dir⟩
    · rintro ⟨rfl, dir⟩
      exact ⟨dir, rfl⟩

/-- Every directory that a search comes to can be opened. -/
def Searchable (d : Disk) (root subtree : String) : Prop :=
  ∀ start, d.searchStart? (join root subtree) = some start →
    d.tree.Opens (join root subtree) start

/-- The files that a search tells where every directory can be opened. -/
def listed (d : Disk) (root subtree : String) : List Found :=
  match d.searchStart? (join root subtree) with
  | none => []
  | some start =>
    match Path.below? (Path.components root) (Path.components (join root subtree)) with
    | none => []
    | some lead => (d.tree.below start).filterMap (found? (lead.map Path.Component.text))

/-- A directory that a search comes to and that cannot be opened, by its path. -/
structure Shut (d : Disk) (root subtree path : String) (fault : Fault) : Prop where
  reached : ∃ start q, d.searchStart? (join root subtree) = some start ∧
    d.tree.lookup? (start ++ q) = some .directory ∧ path = q.foldl join (join root subtree)
  refused : checkPath path = .error fault

theorem Shut.not_searchable {path : String} {fault : Fault} (shut : d.Shut root subtree path fault) :
    ¬ d.Searchable root subtree := by
  obtain ⟨⟨start, q, begun, stands, rfl⟩, refused⟩ := shut
  intro opens
  have opened := opens start begun q stands
  rw [refused] at opened
  cases opened

/-- The failures of the directories that a search comes to, in the order of the walk. -/
def failures (d : Disk) (root subtree : String) : List Failure :=
  match d.searchStart? (join root subtree) with
  | none => []
  | some start => d.tree.failures (join root subtree) start

theorem mem_failures {f : Failure} : f ∈ d.failures root subtree ↔
    ∃ path fault, d.Shut root subtree path fault ∧ f = .walk path fault := by
  unfold failures
  cases begun : d.searchStart? (join root subtree) with
  | none =>
    refine ⟨nofun, ?_⟩
    rintro ⟨_, _, ⟨⟨start, q, other, -⟩, -⟩, -⟩
    cases begun.symm.trans other
  | some start =>
    obtain ⟨-, dir⟩ := searchStart?_eq_some_iff.1 begun
    dsimp only
    rw [Tree.mem_failures dir]
    constructor
    · rintro ⟨q, fault, stands, refused, rfl⟩
      exact ⟨_, fault, ⟨⟨start, q, begun, stands, rfl⟩, refused⟩, rfl⟩
    · rintro ⟨_, fault, ⟨⟨start', q, begun', stands, rfl⟩, refused⟩, rfl⟩
      obtain rfl := Option.some.inj (begun.symm.trans begun')
      exact ⟨q, fault, stands, refused, rfl⟩

theorem failures_eq_nil_iff : d.failures root subtree = [] ↔ d.Searchable root subtree := by
  rw [List.eq_nil_iff_forall_not_mem]
  constructor
  · intro none start begun q stands
    cases opened : checkPath (q.foldl join (join root subtree)) with
    | ok => rfl
    | error fault =>
      exact absurd (mem_failures.2 ⟨_, fault, ⟨⟨start, q, begun, stands, rfl⟩, opened⟩, rfl⟩) (none _)
  · intro opens f mem
    obtain ⟨path, fault, shut, -⟩ := mem_failures.1 mem
    exact shut.not_searchable opens

theorem files_eq (d : Disk) (root subtree : String) : d.files root subtree =
    (d.failures root subtree).head?.elim (.ok (d.listed root subtree)) .error := by
  unfold files listed failures
  dsimp only
  cases d.searchStart? (join root subtree) with
  | none => rfl
  | some start =>
    dsimp only
    rw [Tree.walk_eq_below]
    cases (d.tree.failures (join root subtree) start).head? with
    | some f => rfl
    | none => cases Path.below? (Path.components root) (Path.components (join root subtree)) <;> rfl

private theorem search_cases {α : Type} (d : Disk) (root subtree : String) (made : α) :
    (d.Searchable root subtree ∧
      (d.failures root subtree).head?.elim (.ok made) Except.error = .ok made) ∨
    ∃ path fault, d.Shut root subtree path fault ∧
      (d.failures root subtree).head?.elim (.ok made) Except.error = .error (.walk path fault) := by
  cases first : (d.failures root subtree).head? with
  | none => exact .inl ⟨failures_eq_nil_iff.1 (List.head?_eq_none_iff.1 first), rfl⟩
  | some f =>
    obtain ⟨path, fault, shut, rfl⟩ := mem_failures.1 (List.mem_of_head? first)
    exact .inr ⟨path, fault, shut, rfl⟩

theorem files_cases (d : Disk) (root subtree : String) :
    (d.Searchable root subtree ∧ d.files root subtree = .ok (d.listed root subtree)) ∨
      ∃ path fault, d.Shut root subtree path fault ∧
        d.files root subtree = .error (.walk path fault) := by
  rw [files_eq]
  exact search_cases d root subtree _

/-- The paths of the files with a name that the test accepts. -/
def listedNamed (d : Disk) (root subtree : String) (test : Name → Bool) : List String :=
  ((d.listed root subtree).filter fun f => test f.name).map Found.path

/-- The paths of the files that hold `needle` and end in `finish`. -/
def listedWithPath (d : Disk) (root subtree needle finish : String) : List String :=
  ((d.listed root subtree).map Found.path).filter fun path =>
    Text.Search.contains path needle && Text.Search.endsWith path finish

theorem filesNamed_eq (d : Disk) (root subtree : String) (test : Name → Bool) :
    d.filesNamed root subtree test =
      (d.failures root subtree).head?.elim (.ok (d.listedNamed root subtree test)) .error := by
  unfold filesNamed
  rw [files_eq]
  cases (d.failures root subtree).head? <;> rfl

theorem filesWithPath_eq (d : Disk) (root subtree needle finish : String) :
    d.filesWithPath root subtree needle finish =
      (d.failures root subtree).head?.elim
        (.ok (d.listedWithPath root subtree needle finish)) .error := by
  unfold filesWithPath
  rw [files_eq]
  cases (d.failures root subtree).head? <;> rfl

theorem filesNamed_cases (d : Disk) (root subtree : String) (test : Name → Bool) :
    (d.Searchable root subtree ∧
      d.filesNamed root subtree test = .ok (d.listedNamed root subtree test)) ∨
      ∃ path fault, d.Shut root subtree path fault ∧
        d.filesNamed root subtree test = .error (.walk path fault) := by
  rw [filesNamed_eq]
  exact search_cases d root subtree _

theorem filesWithPath_cases (d : Disk) (root subtree needle finish : String) :
    (d.Searchable root subtree ∧ d.filesWithPath root subtree needle finish =
      .ok (d.listedWithPath root subtree needle finish)) ∨
      ∃ path fault, d.Shut root subtree path fault ∧
        d.filesWithPath root subtree needle finish = .error (.walk path fault) := by
  rw [filesWithPath_eq]
  exact search_cases d root subtree _

end Files

end ConnectorKit.Disk
