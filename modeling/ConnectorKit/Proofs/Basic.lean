import ConnectorKit.Failure

/-!
What the proofs share about results and actions in sequence and about lists of keys and values.
-/

set_option autoImplicit false
set_option relaxedAutoImplicit false

namespace ConnectorKit

theorem bind_ok {ε α β : Type} {x : Except ε α} {f : α → Except ε β} {b : β}
    (h : (x >>= f) = .ok b) : ∃ a, x = .ok a ∧ f a = .ok b := by
  cases x with
  | error e => cases h
  | ok a => exact ⟨a, rfl, h⟩

theorem bind_error {ε α β : Type} {x : Except ε α} {f : α → Except ε β} {e : ε}
    (h : (x >>= f) = .error e) : x = .error e ∨ ∃ a, x = .ok a ∧ f a = .error e := by
  cases x with
  | error e' =>
    cases h
    exact .inl rfl
  | ok a => exact .inr ⟨a, rfl, h⟩

theorem mapError_ok {ε ε' α : Type} {x : Except ε α} {f : ε → ε'} {a : α}
    (h : x.mapError f = .ok a) : x = .ok a := by
  cases x with
  | error e => cases h
  | ok b =>
    cases h
    rfl

theorem exists_ok_of_isOk {ε α : Type} {x : Except ε α} (went : x.isOk = true) : ∃ a, x = .ok a := by
  cases x with
  | error e => cases went
  | ok a => exact ⟨a, rfl⟩

theorem Action.perform_bind {ω α β : Type} (act : Action ω α) (next : α → Action ω β) (w : ω) :
    (act >>= next).perform w =
      match act.perform w with
      | (.ok a, after) => (next a).perform after
      | (.error f, after) => (.error f, after) := by
  change (ExceptT.bindCont next (act w).1 (act w).2) = _
  unfold perform
  rcases act w with ⟨_ | _, _⟩ <;> rfl

theorem Action.exists_of_isOk {ω α : Type} {act : Action ω α} {w : ω}
    (went : (act.perform w).1.isOk = true) : ∃ a after, act.perform w = (.ok a, after) := by
  rcases outcome : act.perform w with ⟨f | a, after⟩
  · rw [outcome] at went
    cases went
  · exact ⟨a, after, rfl⟩

theorem lookup_of_distinct {κ α : Type} [BEq κ] [LawfulBEq κ] {l : List (κ × α)} {k : κ} {a : α}
    (distinct : l.Pairwise (·.1 ≠ ·.1)) (mem : (k, a) ∈ l) : l.lookup k = some a := by
  induction l with
  | nil => cases mem
  | cons first rest ih =>
    obtain ⟨apart, tail⟩ := List.pairwise_cons.1 distinct
    rcases List.mem_cons.1 mem with rfl | later
    · exact List.lookup_cons_self
    · have other : k ≠ first.1 := (apart (k, a) later).symm
      rw [List.lookup_cons, beq_false_of_ne other]
      exact ih tail later

theorem mem_of_lookup {κ α : Type} [BEq κ] [LawfulBEq κ] {l : List (κ × α)} {k : κ} {a : α}
    (found : l.lookup k = some a) : (k, a) ∈ l := by
  obtain ⟨before, after, split, -⟩ := List.lookup_eq_some_iff.1 found
  exact split ▸ List.mem_append_right _ List.mem_cons_self

end ConnectorKit
