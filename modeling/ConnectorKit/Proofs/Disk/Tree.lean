import ConnectorKit.Disk.Tree
import ConnectorKit.Proofs.Basic
import Mathlib.Data.List.Induction

/-!
What stands at a route after a tree was changed. A tree is told by its lookups, so two ways to the
same lookups lead to the same tree.
-/

set_option autoImplicit false
set_option relaxedAutoImplicit false

namespace ConnectorKit.Disk.Tree

variable {t u : Tree} {r q : Route} {e f : Entry}

@[simp] theorem lookup?_top (t : Tree) : t.lookup? [] = some .directory :=
  rfl

theorem lookup?_iff (inner : r ≠ []) : t.lookup? r = some e ↔ (r, e) ∈ t.entries := by
  unfold lookup?
  rw [if_neg inner]
  constructor
  · exact mem_of_lookup
  · refine lookup_of_distinct (t.sorted.imp fun lt same => ?_)
    exact List.lt_irrefl _ (same ▸ lt)

theorem lookup?_put (fits : t.Fits r e) (q : Route) :
    (t.put r e).lookup? q = if q = r then some e else t.lookup? q := by
  by_cases top : q = []
  · subst top
    rw [if_neg fits.1.symm]
    rfl
  · refine Option.ext fun g => ?_
    have entries : (t.put r e).entries = insert r e t.entries := by
      unfold put
      rw [dif_pos fits]
    rw [lookup?_iff top, entries, mem_insert t.sorted]
    split
    · rename_i here
      simp [here, eq_comm]
    · rename_i other
      simp [other, lookup?_iff top]

theorem put_of_not_fits (h : ¬ t.Fits r e) : t.put r e = t := by
  unfold put
  rw [dif_neg h]

theorem lookup?_remove (inner : r ≠ []) (q : Route) :
    (t.remove r).lookup? q = if r <+: q then none else t.lookup? q := by
  by_cases top : q = []
  · subst top
    rw [if_neg (fun below => inner (List.prefix_nil.1 below))]
    rfl
  · refine Option.ext fun g => ?_
    have entries : (t.remove r).entries = t.entries.filter fun entry => !r.isPrefixOf entry.1 := rfl
    rw [lookup?_iff top, entries, List.mem_filter]
    split
    · rename_i below
      simp [below]
    · rename_i apart
      have kept : r.isPrefixOf q = false :=
        Bool.eq_false_iff.2 fun below => apart (List.isPrefixOf_iff_prefix.1 below)
      simp [kept, lookup?_iff top]

theorem eq_of_sorted {l m : List (Route × Entry)} (left : l.Pairwise fun a b => a.1 < b.1)
    (right : m.Pairwise fun a b => a.1 < b.1) (same : ∀ a, a ∈ l ↔ a ∈ m) : l = m := by
  have nodup {l : List (Route × Entry)} (sorted : l.Pairwise fun a b => a.1 < b.1) : l.Nodup := by
    refine List.nodup_iff_pairwise_ne.2 (sorted.imp fun {a b} lt same => ?_)
    subst same
    exact List.lt_irrefl _ lt
  refine List.Perm.eq_of_pairwise ?_ left right
    ((List.perm_ext_iff_of_nodup (nodup left) (nodup right)).2 same)
  intro a b _ _ lt gt
  exact absurd (List.lt_trans lt gt) (List.lt_irrefl _)

theorem filterMap_congr {α : Type} {pick : Route × Entry → Option α}
    (same : ∀ r e, pick (r, e) ≠ none → (t.lookup? r = some e ↔ u.lookup? r = some e)) :
    t.entries.filterMap pick = u.entries.filterMap pick := by
  have picked (l : List (Route × Entry)) :
      l.filterMap pick = (l.filter fun a => (pick a).isSome).filterMap pick := by
    rw [List.filterMap_filter]
    congr 1
    funext a
    cases pick a <;> rfl
  rw [picked, picked u.entries]
  congr 1
  refine eq_of_sorted (t.sorted.filter _) (u.sorted.filter _) fun a => ?_
  rw [List.mem_filter, List.mem_filter]
  refine and_congr_left fun some_ => ?_
  by_cases top : a.1 = []
  · exact ⟨fun mem => absurd top (t.rooted _ _ mem).1, fun mem => absurd top (u.rooted _ _ mem).1⟩
  · have agree := same a.1 a.2 fun none => by simp [none] at some_
    rwa [lookup?_iff top, lookup?_iff top] at agree

/-- A tree is told by its lookups. -/
theorem ext (same : ∀ r, t.lookup? r = u.lookup? r) : t = u := by
  have entries : t.entries.filterMap some = u.entries.filterMap some :=
    filterMap_congr fun r e _ => by rw [same]
  rw [List.filterMap_some, List.filterMap_some] at entries
  cases t
  cases u
  cases entries
  rfl

theorem lookup?_parent (h : t.lookup? r = some e) : t.lookup? r.dropLast = some .directory := by
  by_cases top : r = []
  · subst top
    rfl
  · rcases (t.rooted r e ((lookup?_iff top).1 h)).2 with high | mem
    · rw [high]
      rfl
    · by_cases high : r.dropLast = []
      · rw [high]
        rfl
      · exact (lookup?_iff high).2 mem

theorem lookup?_above (h : t.lookup? r = some e) (above : q <+: r) (other : q ≠ r) :
    t.lookup? q = some .directory := by
  obtain ⟨rest, rfl⟩ := above
  induction rest using List.reverseRecOn generalizing e with
  | nil => exact absurd (List.append_nil q).symm other
  | append_singleton rest name ih =>
    have parent := lookup?_parent h
    rw [← List.append_assoc, List.dropLast_concat] at parent
    by_cases last : rest = []
    · rwa [last, List.append_nil] at parent
    · exact ih parent fun same => last (List.append_cancel_left (same.symm.trans (List.append_nil q).symm))

theorem lookup?_below (free : t.lookup? q = none) (below : q <+: r) : t.lookup? r = none := by
  refine Option.eq_none_iff_forall_ne_some.2 fun e found => ?_
  by_cases same : q = r
  · rw [← same, free] at found
    cases found
  · have dir := lookup?_above found below same
    rw [free] at dir
    cases dir

end ConnectorKit.Disk.Tree
