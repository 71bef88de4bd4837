import ConnectorKit.Proofs.Disk.Search
import ConnectorKit.Proofs.Text.Bytes
import ConnectorKit.Text.Glob

/-!
What a search finds below a directory, and in which order. The walk sorts each directory by the names
in it, and the order of names is that of their bytes; so the paths come out in the order that compares
them name by name, and not in that of their texts.
-/

set_option autoImplicit false
set_option relaxedAutoImplicit false

namespace ConnectorKit.Disk

open Disk.Path (Component Plain components join ofNames)

/-- The bytes of the names of a path. -/
def Path.nameBytes (path : String) : List (List UInt8) :=
  (Text.Search.split '/' path).map fun n => n.toUTF8.toList

/-- The order of a walk: name by name, each by its bytes. -/
def Path.Precedes (p q : String) : Prop :=
  nameBytes p < nameBytes q

instance (p q : String) : Decidable (Path.Precedes p q) :=
  inferInstanceAs (Decidable (_ < _))

theorem Path.Precedes.ne {p q : String} (h : Precedes p q) : p ≠ q := by
  rintro rfl
  exact List.lt_irrefl _ h

theorem Path.Precedes.asymm {p q : String} (h : Precedes p q) : ¬ Precedes q p :=
  List.lt_asymm h

/-- What is in a directory stands before what only starts with its name. -/
example : Path.Precedes "a/x" "a-b/x" ∧ Path.Precedes "a-b/x" "a.go" := by decide +kernel

/-- The first path that something holds of, in the order of a walk. -/
structure Path.Least (among : String → Prop) (path : String) : Prop where
  mem : among path
  first (other : String) : among other → other ≠ path → Precedes path other

/-- The paths that something holds of, in the order of a walk. -/
structure Path.Walks (among : String → Prop) (paths : List String) : Prop where
  mem_iff (path : String) : path ∈ paths ↔ among path
  ordered : paths.Pairwise Precedes

namespace Path.Walks

variable {among : String → Prop} {paths : List String} (h : Walks among paths)

include h

theorem distinct : paths.Nodup :=
  List.nodup_iff_pairwise_ne.2 (h.ordered.imp Precedes.ne)

theorem head?_eq_some_iff {path : String} : paths.head? = some path ↔ Least among path := by
  have members := funext fun p => propext (h.mem_iff p)
  rw [← members]
  cases paths with
  | nil => exact ⟨nofun, fun least => absurd least.mem List.not_mem_nil⟩
  | cons p rest =>
    have before := (List.pairwise_cons.1 h.ordered).1
    constructor
    · rintro ⟨rfl⟩
      refine ⟨List.mem_cons_self, fun other mem ne => ?_⟩
      rcases List.mem_cons.1 mem with rfl | later
      · exact absurd rfl ne
      · exact before other later
    · intro least
      rcases List.mem_cons.1 least.mem with rfl | later
      · rfl
      · have ahead := before path later
        exact absurd ahead (least.first p List.mem_cons_self ahead.ne).asymm

theorem eq_nil_iff : paths = [] ↔ ¬ ∃ path, among path := by
  rw [List.eq_nil_iff_forall_not_mem, not_exists]
  exact forall_congr' fun path => not_congr (h.mem_iff path)

theorem ne_nil_iff : paths ≠ [] ↔ ∃ path, among path := by
  rw [ne_eq, h.eq_nil_iff, not_not]

end Path.Walks

namespace Tree

/-- Every name in the tree is one that a path can have as a component. -/
def Named (t : Tree) : Prop :=
  ∀ a ∈ t.entries, ∀ n ∈ a.1, Plain n

instance (t : Tree) : Decidable t.Named :=
  inferInstanceAs (Decidable (∀ a ∈ t.entries, ∀ n ∈ a.1, Plain n))

/-- The directories that are reached from a directory, one in the other. -/
inductive Reaches (t : Tree) (start : Route) : Route → Prop
  | start : Reaches t start []
  | down {q : Route} {n : Name} : Reaches t start q →
      t.lookup? (start ++ (q ++ [n])) = some .directory → Reaches t start (q ++ [n])

/-- A file in a directory that is reached. -/
def HasFile (t : Tree) (start q : Route) (n : Name) : Prop :=
  t.Reaches start q ∧ ∃ data x, t.lookup? (start ++ (q ++ [n])) = some (.file data x)

variable {t : Tree} {start q : Route} {n : Name} {e : Entry}

theorem reaches_of_lookup? (stands : t.lookup? (start ++ (q ++ [n])) = some e) :
    t.Reaches start q := by
  induction q using List.reverseRecOn generalizing n e with
  | nil => exact .start
  | append_singleton q m ih =>
    have above : t.lookup? (start ++ (q ++ [m])) = some .directory := by
      refine lookup?_above stands ⟨[n], by simp⟩ fun same => ?_
      simp at same
    exact .down (ih above) above

theorem hasFile_iff : t.HasFile start q n ↔
    ∃ data x, t.lookup? (start ++ (q ++ [n])) = some (.file data x) :=
  ⟨fun h => h.2, fun ⟨data, x, stands⟩ => ⟨reaches_of_lookup? stands, data, x, stands⟩⟩

end Tree

/-- The paths of the files that are kept: each of them once, none other, and in the order of a walk.
`has` tells the files by their directories and their names, `lead` names where they are. -/
structure Lists (has : Route → Name → Prop) (lead : List Name) (keep : String → Name → Prop)
    (paths : List String) : Prop extends Path.Walks
      (fun path => ∃ q n, has q n ∧ path = ofNames (lead ++ (q ++ [n])) ∧ keep path n) paths where
  distinct : paths.Nodup

/-- A file below the directory that a path from the root leads to. -/
def HasFile (d : Disk) (root subtree : String) (q : Route) (n : Name) : Prop :=
  ∃ start, d.locate (join root subtree) = .ok start ∧ d.tree.HasFile start q n

section Files

variable {d : Disk} {root subtree : String} {lead : List Name} {start q : Route} {n : Name}

theorem mem_filterMap_pick {t : Tree} {f : Found} : f ∈ t.entries.filterMap (pick start lead) ↔
    ∃ q n, t.HasFile start q n ∧ f = ⟨ofNames (lead ++ (q ++ [n])), n⟩ := by
  rw [List.mem_filterMap]
  constructor
  · rintro ⟨⟨r, e⟩, mem, picked⟩
    obtain ⟨⟨data, x, rfl⟩, r, inner, rfl, rfl⟩ := pick_eq_some.1 picked
    obtain ⟨q, n, rfl⟩ : ∃ q n, r = q ++ [n] := ⟨_, _, (List.dropLast_concat_getLast inner).symm⟩
    have stands := (Tree.lookup?_iff (by simp)).2 mem
    refine ⟨q, n, Tree.hasFile_iff.2 ⟨data, x, stands⟩, ?_⟩
    rw [foundAt, List.getLastD_concat]
  · rintro ⟨q, n, has, rfl⟩
    obtain ⟨data, x, stands⟩ := Tree.hasFile_iff.1 has
    have mem := (Tree.lookup?_iff (by simp)).1 stands
    refine ⟨_, mem, pick_eq_some.2 ⟨⟨data, x, rfl⟩, q ++ [n], by simp, rfl, ?_⟩⟩
    rw [foundAt, List.getLastD_concat]

private theorem lt_of_append_lt {front r s : Route} (lt : front ++ r < front ++ s) : r < s := by
  induction front with
  | nil => exact lt
  | cons n front ih => exact ih (List.cons_lt_cons_self.1 lt)

private theorem precedes_ofNames {r s : Route} (first : r ≠ []) (second : s ≠ [])
    (plain : ∀ n ∈ r, Plain n) (plain' : ∀ n ∈ s, Plain n) (lt : r < s) :
    Path.Precedes (ofNames r) (ofNames s) := by
  unfold Path.Precedes Path.nameBytes
  rw [Path.split_ofNames first plain, Path.split_ofNames second plain']
  exact List.map_lt (fun _ _ => Text.Bytes.toUTF8_lt) lt

theorem pairwise_filterMap_pick {t : Tree} (named : t.Named) (plain : ∀ n ∈ lead, Plain n) :
    (t.entries.filterMap (pick start lead)).Pairwise fun f g => Path.Precedes f.path g.path := by
  refine (List.Pairwise.and_mem.1 t.sorted).filterMap _ ?_
  rintro ⟨r, e⟩ ⟨s, e'⟩ ⟨mem, mem', lt⟩ f picked g picked'
  obtain ⟨-, q, inner, rfl, rfl⟩ := pick_eq_some.1 picked
  obtain ⟨-, q', inner', rfl, rfl⟩ := pick_eq_some.1 picked'
  have names {p : Route} {e : Entry} (mem : (start ++ p, e) ∈ t.entries) :
      ∀ n ∈ lead ++ p, Plain n :=
    List.forall_mem_append.2 ⟨plain, fun n inside => named _ mem n (List.mem_append_right _ inside)⟩
  exact precedes_ofNames (by simp [inner]) (by simp [inner']) (names mem) (names mem')
    (List.append_left_lt (lt_of_append_lt lt))

theorem hasFile_iff_of_locate (leads : d.locate (join root subtree) = .ok start) :
    d.HasFile root subtree q n ↔ d.tree.HasFile start q n := by
  refine ⟨fun ⟨other, leads', has⟩ => ?_, fun has => ⟨start, leads, has⟩⟩
  rw [leads] at leads'
  cases leads'
  exact has

private theorem start_or_none (d : Disk) (root subtree : String) :
    (∃ start, d.locate (join root subtree) = .ok start ∧ d.tree.lookup? start = some .directory) ∨
      d.isDirectory (join root subtree) = false := by
  cases dir : d.isDirectory (join root subtree) with
  | false => exact .inr rfl
  | true =>
    rw [isDirectory, decide_eq_true_iff, lookup?] at dir
    cases leads : d.locate (join root subtree) with
    | error fault => rw [leads] at dir; cases dir
    | ok start => exact .inl ⟨start, rfl, by rwa [leads] at dir⟩

theorem isDirectory_of_hasFile (has : d.HasFile root subtree q n) :
    d.isDirectory (join root subtree) = true := by
  obtain ⟨start, leads, -, data, x, stands⟩ := has
  have dir : d.tree.lookup? start = some .directory :=
    Tree.lookup?_above stands (List.prefix_append _ _) fun same => by simp at same
  rw [isDirectory, decide_eq_true_iff, lookup?, leads]
  exact dir

theorem plain_of_hasFile (named : d.tree.Named) (has : d.HasFile root subtree q n) :
    ∀ m ∈ q ++ [n], Plain m := by
  obtain ⟨start, -, -, data, x, stands⟩ := has
  have mem := (Tree.lookup?_iff (by simp)).1 stands
  exact fun m inside => named _ mem m (List.mem_append_right _ inside)

/-- A search comes to the files below its start, and to nothing else. -/
theorem mem_listed_iff (ordinary : components subtree = lead.map .name) {f : Found} :
    f ∈ d.listed root subtree ↔
      ∃ q n, d.HasFile root subtree q n ∧ f = ⟨ofNames (lead ++ (q ++ [n])), n⟩ := by
  rcases start_or_none d root subtree with ⟨start, leads, dir⟩ | none
  · rw [listed_of_directory ordinary leads dir, mem_filterMap_pick]
    simp only [hasFile_iff_of_locate leads]
  · rw [listed_of_no_directory none]
    refine ⟨nofun, fun ⟨q, n, has, _⟩ => ?_⟩
    rw [isDirectory_of_hasFile has] at none
    cases none

theorem hasFile_iff_mem_listed (named : d.tree.Named) (ordinary : components subtree = lead.map .name)
    (plain : ∀ m ∈ q ++ [n], Plain m) : d.HasFile root subtree q n ↔
      ⟨ofNames (lead ++ (q ++ [n])), n⟩ ∈ d.listed root subtree := by
  rw [mem_listed_iff ordinary]
  refine ⟨fun has => ⟨q, n, has, rfl⟩, fun ⟨q', n', has, same⟩ => ?_⟩
  have whole {q : Route} {n : Name} (plain : ∀ m ∈ q ++ [n], Plain m) :
      Text.Search.split '/' (ofNames (lead ++ (q ++ [n]))) = lead ++ (q ++ [n]) :=
    Path.split_ofNames (by simp)
      (List.forall_mem_append.2 ⟨Path.plain_of_components ordinary, plain⟩)
  have cut := congrArg (fun f : Found => Text.Search.split '/' f.path) same
  simp only [whole plain, whole (plain_of_hasFile named has), List.append_cancel_left_eq] at cut
  obtain ⟨rfl, last⟩ := List.append_inj' cut rfl
  cases last
  exact has

theorem pairwise_listed (named : d.tree.Named) (ordinary : components subtree = lead.map .name) :
    (d.listed root subtree).Pairwise fun f g => Path.Precedes f.path g.path := by
  rcases start_or_none d root subtree with ⟨start, leads, dir⟩ | none
  · rw [listed_of_directory ordinary leads dir]
    exact pairwise_filterMap_pick named (Path.plain_of_components ordinary)
  · rw [listed_of_no_directory none]
    exact .nil

private theorem lists_of_listed (named : d.tree.Named) (ordinary : components subtree = lead.map .name)
    {keep : String → Name → Prop} {test : Found → Bool}
    (same : ∀ f, test f = true ↔ keep f.path f.name) :
    Lists (d.HasFile root subtree) lead keep
      (((d.listed root subtree).filter test).map Found.path) := by
  have walks : Path.Walks
      (fun path => ∃ q n, d.HasFile root subtree q n ∧ path = ofNames (lead ++ (q ++ [n])) ∧
        keep path n) (((d.listed root subtree).filter test).map Found.path) := by
    refine ⟨fun path => ?_, List.pairwise_map.2 ((pairwise_listed named ordinary).filter test)⟩
    rw [List.mem_map]
    constructor
    · rintro ⟨f, kept, rfl⟩
      obtain ⟨mem, told⟩ := List.mem_filter.1 kept
      obtain ⟨q, n, has, rfl⟩ := (mem_listed_iff ordinary).1 mem
      exact ⟨q, n, has, rfl, (same _).1 told⟩
    · rintro ⟨q, n, has, rfl, kept⟩
      have mem := (mem_listed_iff ordinary).2 ⟨q, n, has, rfl⟩
      exact ⟨_, List.mem_filter.2 ⟨mem, (same _).2 kept⟩, rfl⟩
  exact ⟨walks, walks.distinct⟩

theorem listedNamed_lists (named : d.tree.Named) (ordinary : components subtree = lead.map .name)
    (test : Name → Bool) : Lists (d.HasFile root subtree) lead (fun _ n => test n = true)
      (d.listedNamed root subtree test) :=
  lists_of_listed named ordinary fun _ => Iff.rfl

theorem listedWithPath_lists (named : d.tree.Named) (ordinary : components subtree = lead.map .name)
    (needle finish : String) : Lists (d.HasFile root subtree) lead
      (fun path _ => needle.toList <:+: path.toList ∧ finish.toList <:+ path.toList)
      (d.listedWithPath root subtree needle finish) := by
  rw [listedWithPath, List.filter_map]
  refine lists_of_listed named ordinary fun f => ?_
  rw [Function.comp_apply, Bool.and_eq_true, Text.Search.contains_iff, Text.Search.endsWith,
    List.isSuffixOf_iff_suffix]

end Files

/-- A repository with a directory, a link to it and files beside it. -/
def withLink : Disk :=
  ⟨(((Tree.empty.withFile ["repo", "apis", "a", "x.go"]).withFile
    ["repo", "apis", "a-b", "x.go"]).withFile ["repo", "apis", "a.go"]).put ["repo", "apis", "b"]
      (.link "a"), []⟩

section Unopened

/-- A root of 4076 characters, of which a path in the repository leaves no more than 19. -/
@[irreducible] def rootOfSlashes : String :=
  "/repo" ++ slashes (4070 + 1)

theorem repository_rootOfSlashes {d : Disk} (short : Repository d "/repo" ["repo"]) :
    Repository d rootOfSlashes ["repo"] := by
  rw [rootOfSlashes]
  exact short.slashes (by decide) (by decide) (by decide)

theorem allowed_rootOfSlashes_iff {names : List Name} (nonempty : names ≠ [])
    (plain : ∀ m ∈ names, Plain m) : Allowed rootOfSlashes names ↔
      ('\x00' ∉ (ofNames names).toList ∧ (ofNames names).utf8ByteSize < 20) ∧
        ∀ m ∈ names, m.utf8ByteSize ≤ nameLimit := by
  have size : "/repo".utf8ByteSize = 5 := by decide
  have limit : pathLimit = 4096 := rfl
  rw [rootOfSlashes, allowed_slashes_iff (by decide) (by decide) 4070 nonempty plain, size, limit]
  refine and_congr_left fun _ => and_congr_right fun _ => ?_
  omega

/-- A directory with a path of 22 characters cannot be opened. -/
theorem not_searchable_rootOfSlashes {d : Disk} (repo : Repository d rootOfSlashes ["repo"])
    (stands : d.tree.lookup? ["repo", "apis", "containeranalysis"] = some .directory) :
    ¬ d.Searchable rootOfSlashes "apis" := by
  have plain : ∀ m ∈ ["apis"], Plain m := by decide
  have plain' : ∀ m ∈ ["apis", "containeranalysis"], Plain m := by decide
  have near : Allowed rootOfSlashes ["apis"] :=
    (allowed_rootOfSlashes_iff (by decide) plain).2 (by decide +kernel)
  intro opens
  have opened := (repo.searchable_iff (by decide) plain).1 opens near ["containeranalysis"] stands
  have sizes := ((allowed_rootOfSlashes_iff (by decide) plain').1 ⟨opened, by decide⟩).1.2
  revert sizes
  decide

/-- A repository with a file in a directory, and beside the file a directory without any. -/
def withUnopened : Disk :=
  ⟨((Tree.empty.withFile ["repo", "apis", "a_types.go"]).put ["repo", "apis", "containeranalysis"]
    .directory), []⟩

end Unopened

end ConnectorKit.Disk
