/-!
A file tree: what stands at each route from the top. The routes are sorted component by component,
so there is one way to keep a tree; and whatever is not at the top stands in a directory. Both laws
are part of the type.
-/

set_option autoImplicit false
set_option relaxedAutoImplicit false

namespace ConnectorKit.Disk

/-- A name in a directory. All names are texts here, whatever bytes a system may allow in them. -/
abbrev Name := String

/-- The names from the top of the tree down to an entry. -/
abbrev Route := List Name

inductive Entry where
  | directory
  | file (data : ByteArray) (executable : Bool)
  | link (target : String)

instance : DecidableEq Entry
  | .directory, .directory => isTrue rfl
  | .link s, .link t => if h : s = t then isTrue (by rw [h]) else isFalse (by simp [h])
  | .file a x, .file b y =>
    if h : a.data = b.data ∧ x = y then isTrue (by rw [ByteArray.ext h.1, h.2])
    else isFalse fun eq => h (by cases eq; exact ⟨rfl, rfl⟩)
  | .directory, .file _ _ => isFalse nofun
  | .directory, .link _ => isFalse nofun
  | .file _ _, .directory => isFalse nofun
  | .file _ _, .link _ => isFalse nofun
  | .link _, .directory => isFalse nofun
  | .link _, .file _ _ => isFalse nofun

structure Tree where
  entries : List (Route × Entry)
  sorted : entries.Pairwise fun a b => a.1 < b.1
  rooted : ∀ r e, (r, e) ∈ entries →
    r ≠ [] ∧ (r.dropLast = [] ∨ (r.dropLast, Entry.directory) ∈ entries)

namespace Tree

def empty : Tree where
  entries := []
  sorted := .nil
  rooted := by simp

/-- What stands at a route; the top is a directory. -/
def lookup? (t : Tree) (r : Route) : Option Entry :=
  if r = [] then some .directory else t.entries.lookup r

/-- Puts an entry at its place in a sorted list, in the stead of one with the same route. -/
def insert (r : Route) (e : Entry) : List (Route × Entry) → List (Route × Entry)
  | [] => [(r, e)]
  | (q, f) :: rest =>
    if r < q then (r, e) :: (q, f) :: rest
    else if r = q then (r, e) :: rest
    else (q, f) :: insert r e rest

theorem mem_insert {r q : Route} {e f : Entry} {l : List (Route × Entry)}
    (sorted : l.Pairwise fun a b => a.1 < b.1) :
    (q, f) ∈ insert r e l ↔ (q = r ∧ f = e) ∨ (q ≠ r ∧ (q, f) ∈ l) := by
  induction l with
  | nil => simp [insert]
  | cons head rest ih =>
    obtain ⟨p, g⟩ := head
    obtain ⟨below, tail⟩ := List.pairwise_cons.1 sorted
    unfold insert
    split
    · rename_i lt
      constructor
      · intro h
        rcases List.mem_cons.1 h with new | old
        · exact .inl (by simpa using new)
        · refine .inr ⟨fun eq => ?_, old⟩
          subst eq
          rcases List.mem_cons.1 old with head | later
          · have eq : q = p := congrArg Prod.fst head
            exact List.lt_irrefl p (eq ▸ lt)
          · exact List.lt_irrefl q (List.lt_trans lt (below (q, f) later))
      · rintro (⟨rfl, rfl⟩ | ⟨_, h⟩)
        · exact List.mem_cons_self
        · exact List.mem_cons_of_mem _ h
    · split
      · rename_i _ eq
        subst eq
        constructor
        · intro h
          rcases List.mem_cons.1 h with new | later
          · exact .inl (by simpa using new)
          · refine .inr ⟨fun eq => ?_, List.mem_cons_of_mem _ later⟩
            subst eq
            exact List.lt_irrefl q (below (q, f) later)
        · rintro (⟨rfl, rfl⟩ | ⟨ne, h⟩)
          · exact List.mem_cons_self
          · rcases List.mem_cons.1 h with h | h
            · simp_all
            · exact List.mem_cons_of_mem _ h
      · rename_i _ ne
        rw [List.mem_cons, ih tail, List.mem_cons]
        constructor
        · rintro (h | h | ⟨h, h'⟩)
          · refine .inr ⟨?_, .inl h⟩
            simp only [Prod.mk.injEq] at h
            exact fun eq => ne (by rw [← eq, h.1])
          · exact .inl h
          · exact .inr ⟨h, .inr h'⟩
        · rintro (h | ⟨h, h' | h'⟩)
          · exact .inr (.inl h)
          · exact .inl h'
          · exact .inr (.inr ⟨h, h'⟩)

theorem sorted_insert {r : Route} {e : Entry} {l : List (Route × Entry)}
    (sorted : l.Pairwise fun a b => a.1 < b.1) :
    (insert r e l).Pairwise fun a b => a.1 < b.1 := by
  induction l with
  | nil => simp [insert]
  | cons head rest ih =>
    obtain ⟨p, g⟩ := head
    obtain ⟨below, tail⟩ := List.pairwise_cons.1 sorted
    unfold insert
    split
    · rename_i lt
      refine List.pairwise_cons.2 ⟨fun a h => ?_, sorted⟩
      rcases List.mem_cons.1 h with rfl | h
      · exact lt
      · exact List.lt_trans lt (below a h)
    · split
      · rename_i _ eq
        exact List.pairwise_cons.2 ⟨fun a h => eq ▸ below a h, tail⟩
      · rename_i le ne
        refine List.pairwise_cons.2 ⟨fun a h => ?_, ih tail⟩
        rcases (mem_insert tail).1 (show (a.1, a.2) ∈ _ from h) with ⟨eq, _⟩ | ⟨_, h⟩
        · exact eq ▸ Classical.byContradiction fun h =>
            ne (Std.Trichotomous.trichotomous (r := (· < ·)) r p le h)
        · exact below _ h

theorem lookup?_eq_some {t : Tree} {r : Route} {e : Entry} (h : t.lookup? r = some e) :
    (r = [] ∧ e = .directory) ∨ (r, e) ∈ t.entries := by
  unfold lookup? at h
  split at h
  · exact .inl ⟨by assumption, by simpa using h.symm⟩
  · refine .inr ?_
    rw [List.lookup_eq_some_iff] at h
    obtain ⟨before, after, split, _⟩ := h
    simp [split]

/-- An entry may stand at a route in a directory, and only a directory in place of one. -/
def Fits (t : Tree) (r : Route) (e : Entry) : Prop :=
  r ≠ [] ∧ t.lookup? r.dropLast = some .directory ∧
    (t.lookup? r = some .directory → e = .directory)

instance (t : Tree) (r : Route) (e : Entry) : Decidable (t.Fits r e) :=
  inferInstanceAs (Decidable (_ ∧ _ ∧ _))

/-- The tree with the entry at the route, where it fits; otherwise the tree as it is. -/
def put (t : Tree) (r : Route) (e : Entry) : Tree :=
  if fits : t.Fits r e then
    { entries := insert r e t.entries
      sorted := sorted_insert t.sorted
      rooted := by
        obtain ⟨nonempty, parent, kind⟩ := fits
        have stays {q : Route} (h : (q, Entry.directory) ∈ t.entries) :
            (q, Entry.directory) ∈ insert r e t.entries := by
          refine (mem_insert t.sorted).2 ?_
          by_cases eq : q = r
          · refine .inl ⟨eq, (kind ?_).symm⟩
            subst eq
            have : t.entries.lookup q = some .directory := by
              rw [List.lookup_eq_some_iff]
              obtain ⟨before, after, split⟩ := List.append_of_mem h
              refine ⟨before, after, split, fun p hp => ?_⟩
              have order := t.sorted
              rw [split, List.pairwise_append] at order
              have lt := order.2.2 p hp (q, .directory) List.mem_cons_self
              simp only [bne_iff_ne, ne_eq]
              exact fun eq => List.lt_irrefl _ (show p.1 < p.1 from eq ▸ lt)
            simp [lookup?, nonempty, this]
          · exact .inr ⟨eq, h⟩
        intro q f h
        rcases (mem_insert t.sorted).1 h with ⟨eq, _⟩ | ⟨_, h⟩
        · subst eq
          refine ⟨nonempty, ?_⟩
          rcases lookup?_eq_some parent with ⟨top, _⟩ | h
          · exact .inl top
          · exact .inr (stays h)
        · obtain ⟨ne, parent⟩ := t.rooted q f h
          exact ⟨ne, parent.imp_right stays⟩ }
  else t

/-- The tree without the entry at the route and all that is below it. -/
def remove (t : Tree) (r : Route) : Tree where
  entries := t.entries.filter fun entry => !r.isPrefixOf entry.1
  sorted := t.sorted.filter _
  rooted := by
    intro q e h
    obtain ⟨mem, keep⟩ := List.mem_filter.1 h
    obtain ⟨ne, parent⟩ := t.rooted q e mem
    refine ⟨ne, parent.imp_right fun dir => List.mem_filter.2 ⟨dir, ?_⟩⟩
    simp only [Bool.not_eq_eq_eq_not, Bool.not_true] at keep ⊢
    refine Bool.eq_false_iff.2 fun below => ?_
    have := (List.isPrefixOf_iff_prefix.1 below).trans q.dropLast_prefix
    exact Bool.eq_false_iff.1 keep (List.isPrefixOf_iff_prefix.2 this)

/-- The entries below a route, each with the rest of its route, in order. -/
def below (t : Tree) (r : Route) : List (Route × Entry) :=
  t.entries.filterMap fun (q, e) =>
    if r.isPrefixOf q ∧ r.length < q.length then some (q.drop r.length, e) else none

/-- What stands directly in a directory, by name. -/
def children (t : Tree) (r : Route) : List (Name × Entry) :=
  t.entries.filterMap fun (q, e) =>
    if q = r ++ [q.getLastD ""] then some (q.getLastD "", e) else none

/-- The length of the longest route. -/
def depth (t : Tree) : Nat :=
  t.entries.foldr (fun a n => max a.1.length n) 0

theorem length_le_depth {t : Tree} {r : Route} {e : Entry} (h : (r, e) ∈ t.entries) :
    r.length ≤ t.depth := by
  unfold depth
  generalize t.entries = l at h ⊢
  induction l with
  | nil => cases h
  | cons a rest ih =>
    rw [List.foldr_cons]
    rcases List.mem_cons.1 h with rfl | later
    · exact Nat.le_max_left _ _
    · exact Nat.le_trans (ih later) (Nat.le_max_right _ _)

theorem mem_children {t : Tree} {r : Route} {n : Name} {e : Entry} :
    (n, e) ∈ t.children r ↔ (r ++ [n], e) ∈ t.entries := by
  unfold children
  rw [List.mem_filterMap]
  constructor
  · rintro ⟨⟨q, f⟩, mem, told⟩
    dsimp only at told
    split at told
    · rename_i here
      cases told
      rwa [← here]
    · cases told
  · intro mem
    exact ⟨(r ++ [n], e), mem, by simp⟩

end Tree

end ConnectorKit.Disk
