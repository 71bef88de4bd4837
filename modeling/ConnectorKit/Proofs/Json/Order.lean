import ConnectorKit.Json.Draft
import ConnectorKit.Proofs.Basic

/-!
Values that were read have the members of every object in order, each key once; writing them with
sorted keys changes nothing.
-/

set_option autoImplicit false
set_option relaxedAutoImplicit false

namespace ConnectorKit.Json

/-- The members of every object are sorted by key, each key once. -/
inductive Value.Ordered : Value → Prop
  | null : Ordered .null
  | bool (b : Bool) : Ordered (.bool b)
  | number (n : Number) : Ordered (.number n)
  | string (s : String) : Ordered (.string s)
  | array {items : List Value} : (∀ v ∈ items, Ordered v) → Ordered (.array items)
  | object {members : List (String × Value)} : members.Pairwise (·.1 < ·.1) →
      (∀ m ∈ members, Ordered m.2) → Ordered (.object members)

namespace Value

section Members

variable {α : Type} {key : String} {value : α} {members : List (String × α)}

theorem mem_insertMember {m : String × α} (h : m ∈ insertMember key value members) :
    m = (key, value) ∨ m ∈ members := by
  induction members with
  | nil => simpa [insertMember] using h
  | cons first rest ih =>
    unfold insertMember at h
    split at h
    · simpa using h
    · split at h
      · rcases List.mem_cons.1 h with new | later
        · exact .inl new
        · exact .inr (List.mem_cons_of_mem _ later)
      · rcases List.mem_cons.1 h with head | later
        · exact .inr (head ▸ List.mem_cons_self)
        · exact (ih later).imp_right (List.mem_cons_of_mem _)

theorem sorted_insertMember (sorted : members.Pairwise (·.1 < ·.1)) :
    (insertMember key value members).Pairwise (·.1 < ·.1) := by
  induction members with
  | nil => simp [insertMember]
  | cons first rest ih =>
    obtain ⟨below, tail⟩ := List.pairwise_cons.1 sorted
    unfold insertMember
    split
    · rename_i lt
      refine List.pairwise_cons.2 ⟨fun m mem => ?_, sorted⟩
      rcases List.mem_cons.1 mem with rfl | later
      · exact lt
      · exact String.lt_trans lt (below m later)
    · split
      · rename_i same
        exact List.pairwise_cons.2 ⟨fun m mem => same ▸ below m mem, tail⟩
      · rename_i le ne
        refine List.pairwise_cons.2 ⟨fun m mem => ?_, ih tail⟩
        rcases mem_insertMember mem with rfl | later
        · exact Classical.byContradiction fun gt =>
            ne (Std.Trichotomous.trichotomous (r := (· < ·)) _ _ le gt)
        · exact below m later

theorem sorted_sortMembers (members : List (String × α)) :
    (sortMembers members).Pairwise (·.1 < ·.1) ∧ ∀ m ∈ sortMembers members, m ∈ members := by
  have folded (done todo : List (String × α)) (sorted : done.Pairwise (·.1 < ·.1)) :
      let all := todo.foldl (fun sorted m => insertMember m.1 m.2 sorted) done
      all.Pairwise (·.1 < ·.1) ∧ ∀ m ∈ all, m ∈ done ∨ m ∈ todo := by
    induction todo generalizing done with
    | nil => exact ⟨sorted, fun m mem => .inl mem⟩
    | cons first rest ih =>
      obtain ⟨order, known⟩ := ih (insertMember first.1 first.2 done) (sorted_insertMember sorted)
      refine ⟨order, fun m mem => ?_⟩
      rcases known m mem with inserted | later
      · rcases mem_insertMember inserted with rfl | old
        · exact .inr List.mem_cons_self
        · exact .inl old
      · exact .inr (List.mem_cons_of_mem _ later)
  have all := folded [] members .nil
  exact ⟨all.1, fun m mem => (all.2 m mem).resolve_left List.not_mem_nil⟩

private theorem insertMember_last (last : ∀ m ∈ members, m.1 < key) :
    insertMember key value members = members ++ [(key, value)] := by
  induction members with
  | nil => rfl
  | cons first rest ih =>
    have lt := last first List.mem_cons_self
    have later := ih fun m mem => last m (List.mem_cons_of_mem _ mem)
    unfold insertMember
    rw [if_neg (String.lt_asymm lt), if_neg (fun same => String.lt_irrefl _ (same ▸ lt)), later]
    rfl

theorem sortMembers_of_sorted (sorted : members.Pairwise (·.1 < ·.1)) :
    sortMembers members = members := by
  have folded (done todo : List (String × α)) (sorted : (done ++ todo).Pairwise (·.1 < ·.1)) :
      todo.foldl (fun sorted m => insertMember m.1 m.2 sorted) done = done ++ todo := by
    induction todo generalizing done with
    | nil => exact (List.append_nil done).symm
    | cons first rest ih =>
      obtain ⟨key, value⟩ := first
      have last : ∀ m ∈ done, m.1 < key :=
        fun m mem => (List.pairwise_append.1 sorted).2.2 m mem _ List.mem_cons_self
      have inserted : insertMember key value done = done ++ [(key, value)] := insertMember_last last
      rw [List.append_cons] at sorted ⊢
      simp only [List.foldl_cons, inserted]
      exact ih _ sorted
  exact folded [] members sorted

theorem lookup_of_sorted (sorted : members.Pairwise (·.1 < ·.1)) (mem : (key, value) ∈ members) :
    members.lookup key = some value := by
  refine lookup_of_distinct (sorted.imp fun lt same => ?_) mem
  exact String.lt_irrefl _ (same ▸ lt)

end Members

private theorem sortItems_eq_map (items : List Value) : sortItems items = items.map sortKeys := by
  induction items with
  | nil => rfl
  | cons v rest ih => rw [sortItems, ih, List.map_cons]

private theorem sortEach_eq_map (members : List (String × Value)) :
    sortEach members = members.map fun m => (m.1, sortKeys m.2) := by
  induction members with
  | nil => rfl
  | cons m rest ih => rw [sortEach, ih, List.map_cons]

theorem sortKeys_of_ordered {v : Value} (h : v.Ordered) : v.sortKeys = v := by
  induction h with
  | null | bool | number | string => simp only [sortKeys]
  | @array items _ ih =>
    have same : items.map sortKeys = items.map id := List.map_congr_left ih
    rw [sortKeys, sortItems_eq_map, same, List.map_id]
  | @object members sorted _ ih =>
    have same : members.map (fun m => (m.1, sortKeys m.2)) = members.map id :=
      List.map_congr_left fun m mem => by rw [ih m mem, id]
    rw [sortKeys, sortEach_eq_map, same, List.map_id, sortMembers_of_sorted sorted]

end Value

namespace Draft

mutual

private theorem ordered_value? : (room : Nat) → (d : Draft) → {v : Value} →
    d.value? room = some v → v.Ordered
  | _, .null, _, h => by
    cases h
    exact .null
  | _, .bool b, _, h => by
    cases h
    exact .bool b
  | _, .number n, _, h => by
    obtain ⟨number, -, rfl⟩ := Option.map_eq_some_iff.1 h
    exact .number number
  | _, .string s, _, h => by
    obtain ⟨text, -, rfl⟩ := Option.map_eq_some_iff.1 h
    exact .string text
  | 0, .array _, _, h => nomatch h
  | room + 1, .array items, _, h => by
    obtain ⟨values, read, rfl⟩ := Option.map_eq_some_iff.1 h
    exact .array (ordered_itemValues? room items read)
  | 0, .object _, _, h => nomatch h
  | room + 1, .object members, _, h => by
    obtain ⟨values, read, rfl⟩ := Option.map_eq_some_iff.1 h
    obtain ⟨sorted, known⟩ := Value.sorted_sortMembers values
    exact .object sorted fun m mem => ordered_memberValues? room members read m (known m mem)

private theorem ordered_itemValues? : (room : Nat) → (items : List Draft) →
    {values : List Value} → itemValues? room items = some values → ∀ v ∈ values, v.Ordered
  | _, [], _, h => by
    cases h
    exact nofun
  | room, d :: rest, _, h => by
    simp only [itemValues?, Option.bind_eq_bind, Option.bind_eq_some_iff] at h
    obtain ⟨v, first, values, later, made⟩ := h
    cases made
    intro u mem
    rcases List.mem_cons.1 mem with rfl | mem
    · exact ordered_value? room d first
    · exact ordered_itemValues? room rest later u mem

private theorem ordered_memberValues? : (room : Nat) → (members : List (Option String × Draft)) →
    {values : List (String × Value)} → memberValues? room members = some values →
      ∀ m ∈ values, m.2.Ordered
  | _, [], _, h => by
    cases h
    exact nofun
  | room, (key, d) :: rest, _, h => by
    simp only [memberValues?, Option.bind_eq_bind, Option.bind_eq_some_iff] at h
    obtain ⟨k, -, v, first, values, later, made⟩ := h
    cases made
    intro m mem
    rcases List.mem_cons.1 mem with rfl | mem
    · exact ordered_value? room d first
    · exact ordered_memberValues? room rest later m mem

end

end Draft

theorem Value.ordered_read? {text : String} {v : Value} (h : Value.read? text = some v) :
    v.Ordered := by
  obtain ⟨d, -, value⟩ := Option.bind_eq_some_iff.1 h
  exact Draft.ordered_value? _ d value

theorem Value.Ordered.member {v found : Value} (h : v.Ordered) {key : String}
    (member : v.member? key = some found) : found.Ordered := by
  cases h with
  | object _ each =>
    exact each (key, found) (mem_of_lookup member)
  | _ => cases member

end ConnectorKit.Json
