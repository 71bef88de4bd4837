import ConnectorKit.Proofs.Disk.Descent

/-!
The outline of a disk: what is left of it when every file is empty. A path leads where it leads in the
outline, and a search finds what it finds there; so the content of files has no say in either.
-/

set_option autoImplicit false
set_option relaxedAutoImplicit false

namespace ConnectorKit.Disk

/-- What is left of an entry without the content of files. -/
def Entry.outline : Entry → Entry
  | .file _ _ => .file .empty false
  | e => e

theorem Entry.outline_eq_directory_iff {e : Entry} : e.outline = .directory ↔ e = .directory := by
  cases e <;> simp [outline]

theorem Entry.outline_eq_link_iff {e : Entry} {target : String} :
    e.outline = .link target ↔ e = .link target := by
  cases e <;> simp [outline]

/-- The tree with every file empty. -/
def Tree.outline (t : Tree) : Tree where
  entries := t.entries.map fun a => (a.1, a.2.outline)
  sorted := List.pairwise_map.2 t.sorted
  rooted := by
    intro r e mem
    obtain ⟨⟨q, f⟩, inner, same⟩ := List.mem_map.1 mem
    cases same
    refine (t.rooted q f inner).imp_right (Or.imp_right fun above => ?_)
    exact List.mem_map.2 ⟨_, above, rfl⟩

theorem Tree.lookup?_outline (t : Tree) (r : Route) :
    t.outline.lookup? r = (t.lookup? r).map Entry.outline := by
  unfold lookup?
  split
  · rfl
  · change (t.entries.map _).lookup r = _
    induction t.entries with
    | nil => rfl
    | cons a rest ih =>
      rw [List.map_cons, List.lookup_cons, List.lookup_cons]
      cases r == a.1 with
      | true => rfl
      | false => exact ih

/-- The disk with every file empty. -/
def outline (d : Disk) : Disk :=
  ⟨d.tree.outline, d.current⟩

section Ways

variable (t : Tree)

theorem descend_outline (base : Route) (parts : List String) :
    descend t.outline base parts = descend t base parts := by
  induction parts generalizing base with
  | nil => rfl
  | cons part rest ih =>
    rw [descend, descend, ih, ih, ih, t.lookup?_outline]
    cases t.lookup? (base ++ [part]) with
    | none => rfl
    | some e => cases e <;> rfl

theorem follow_outline (links : Nat) (base : Route) (parts : List String) :
    follow t.outline links base parts = follow t links base parts := by
  induction links generalizing base parts with
  | zero => rw [follow, follow, descend_outline]
  | succ links ih =>
    rw [follow, follow, descend_outline]
    cases descend t base parts with
    | arrived r => rfl
    | stopped fault => rfl
    | linked base target rest => exact ih _ _

end Ways

section Search

variable (d : Disk) (root : String)

theorem locate_outline (path : String) : d.outline.locate path = d.locate path := by
  unfold locate
  rw [← follow_outline d.tree]
  rfl

theorem stands_outline (path : String) : d.outline.stands root path = d.stands root path := by
  unfold stands holds
  rw [locate_outline]

private theorem isDirectory_outline (r : Route) :
    d.tree.outline.lookup? r = some .directory ↔ d.tree.lookup? r = some .directory := by
  rw [Tree.lookup?_outline, Option.map_eq_some_iff]
  simp [Entry.outline_eq_directory_iff]

private theorem searchStart?_outline (path : String) :
    d.outline.searchStart? path = d.searchStart? path := by
  unfold searchStart?
  rw [locate_outline]
  cases d.locate path with
  | error fault => rfl
  | ok r => simp only [outline, isDirectory_outline]

/-- An entry by its name or its route, without the content of files. -/
private def outlined {κ : Type} (a : κ × Entry) : κ × Entry :=
  (a.1, a.2.outline)

private theorem insertByName_outlined (a : Name × Entry) (l : List (Name × Entry)) :
    insertByName (outlined a) (l.map outlined) = (insertByName a l).map outlined := by
  induction l with
  | nil => rfl
  | cons b rest ih =>
    rw [List.map_cons, insertByName, insertByName, ih]
    split <;> rename_i order
    · exact (if_pos (show a.1 ≤ b.1 from order)).symm ▸ rfl
    · exact (if_neg (show ¬ a.1 ≤ b.1 from order)).symm ▸ rfl

private theorem listing_outline (t : Tree) (r : Route) :
    t.outline.listing r = (t.listing r).map outlined := by
  have children : t.outline.children r = (t.children r).map outlined := by
    unfold Tree.children Tree.outline
    rw [List.filterMap_map, List.map_filterMap]
    refine List.filterMap_congr fun a _ => ?_
    dsimp only [Function.comp]
    split <;> rfl
  rw [Tree.listing, Tree.listing, children]
  induction t.children r with
  | nil => rfl
  | cons a rest ih =>
    exact (congrArg (insertByName (outlined a)) ih).trans (insertByName_outlined a _)

private theorem mapM_map_congr {ε α β : Type} {f g : α → Except ε β} {h : β → β} {l : List α}
    (same : ∀ a ∈ l, g a = (f a).map h) : l.mapM g = (l.mapM f).map (List.map h) := by
  induction l with
  | nil => rfl
  | cons a rest ih =>
    obtain ⟨first, later⟩ := List.forall_mem_cons.1 same
    rw [List.mapM_cons, List.mapM_cons, first, ih later]
    cases f a with
    | error x => rfl
    | ok b => cases rest.mapM f <;> rfl

private theorem walk_outline (t : Tree) (path : String) (r : Route) :
    t.outline.walk path r = (t.walk path r).map (List.map outlined) := by
  induction path, r using Tree.walk.induct t with
  | case1 path r ih =>
  rw [Tree.walk_eq, Tree.walk_eq]
  cases openDirectory path with
  | error failure => rfl
  | ok =>
    rw [listing_outline, List.mapM_map]
    dsimp only [bind, Except.bind]
    rw [mapM_map_congr (h := List.map outlined) (f := t.enter path r) ?_]
    · cases (t.listing r).mapM (t.enter path r) with
      | error failure => rfl
      | ok parts => exact congrArg Except.ok List.map_flatten.symm
    · rintro ⟨n, e⟩ mem
      unfold Tree.enter
      dsimp only [outlined, Function.comp]
      rw [ih n e mem]
      simp only [Entry.outline_eq_directory_iff]
      split
      · rename_i here
        subst here
        cases t.walk (Path.join path n) (r ++ [n]) with
        | error failure => rfl
        | ok inner =>
          refine congrArg Except.ok (congrArg (([n], Entry.directory) :: ·) ?_)
          rw [List.map_map, List.map_map]
          rfl
      · rfl

/-- A search finds in the outline what it finds, or fails as it does. -/
theorem files_outline (subtree : String) : d.outline.files root subtree = d.files root subtree := by
  have found (lead : List String) (l : List (Route × Entry)) :
      (l.map outlined).filterMap (found? lead) = l.filterMap (found? lead) := by
    rw [List.filterMap_map]
    refine List.filterMap_congr fun a _ => ?_
    obtain ⟨r, e⟩ := a
    cases e <;> rfl
  unfold files
  dsimp only
  rw [searchStart?_outline]
  split
  · rfl
  · change (d.tree.outline.walk _ _ >>= _) = _
    rw [walk_outline]
    cases d.tree.walk (Path.join root subtree) _ with
    | error failure => rfl
    | ok entries =>
      dsimp only [Except.map, bind, Except.bind]
      split
      · rfl
      · exact congrArg Except.ok (found _ entries)

end Search

theorem repository_outline_iff {d : Disk} {root : String} {base : Route} :
    Repository d.outline root base ↔ Repository d root base := by
  have leads := d.locate_outline (Path.join root ".")
  have directory := d.isDirectory_outline base
  have looked := d.tree.lookup?_outline
  constructor
  · refine fun repo => ⟨leads ▸ repo.leads, directory.1 repo.directory, ?_, ?_⟩
    · intro r target inside stands
      exact repo.unlinked inside ((looked r).trans (by rw [stands]; rfl))
    · intro r n e inside stands
      exact repo.named inside ((looked _).trans (by rw [stands]; rfl))
  · refine fun repo => ⟨leads ▸ repo.leads, directory.2 repo.directory, ?_, ?_⟩
    · intro r target inside stands
      obtain ⟨e, below, same⟩ := Option.map_eq_some_iff.1 ((looked r).symm.trans stands)
      rw [Entry.outline_eq_link_iff.1 same] at below
      exact repo.unlinked inside below
    · intro r n e inside stands
      obtain ⟨e, below, -⟩ := Option.map_eq_some_iff.1 ((looked _).symm.trans stands)
      exact repo.named inside below

theorem outline_put {d : Disk} {r : Route} {old new : ByteArray} {before after : Bool}
    (stands : d.tree.lookup? r = some (.file old before)) :
    (d.put r (.file new after)).outline = d.outline := by
  have tree : (d.put r (.file new after)).tree.outline = d.tree.outline := by
    refine Tree.ext fun q => ?_
    rw [Tree.lookup?_outline, Tree.lookup?_outline, lookup?_put (fits_of_file stands)]
    split
    · rename_i here
      rw [here, stands]
      rfl
    · rfl
  unfold outline
  rw [tree]
  rfl

theorem put_put {d : Disk} {r : Route} {old new newer : ByteArray} {before after later : Bool}
    (stands : d.tree.lookup? r = some (.file old before)) :
    (d.put r (.file new after)).put r (.file newer later) = d.put r (.file newer later) := by
  have fits {x : ByteArray} {y : Bool} : d.tree.Fits r (.file x y) := fits_of_file stands
  have once : (d.put r (.file new after)).tree.lookup? r = some (.file new after) := by
    rw [lookup?_put fits, if_pos rfl]
  have tree : ((d.put r (.file new after)).put r (.file newer later)).tree =
      (d.put r (.file newer later)).tree := by
    refine Tree.ext fun q => ?_
    rw [lookup?_put (fits_of_file once), lookup?_put fits, lookup?_put fits]
    split <;> rfl
  exact congrArg (Disk.mk · d.current) tree

end ConnectorKit.Disk
