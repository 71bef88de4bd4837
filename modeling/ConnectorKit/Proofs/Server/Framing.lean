import ConnectorKit.Proofs.Server.Session
import ConnectorKit.Proofs.Text.Bytes

/-!
The cutting of the input into lines. It is told from the input alone, it goes part by part where the
first part ends with a line feed, and so does the service of the lines.
-/

set_option autoImplicit false
set_option relaxedAutoImplicit false

namespace ConnectorKit.Server

/-- Lines one after the other, each with its line feed. -/
def closed (lines : List (List UInt8)) : List UInt8 :=
  lines.flatMap (· ++ [10])

/-- Lines without line feeds, each ended by one in the input, but for a last one that is not
empty. -/
structure Framed (input : List UInt8) (lines : List (List UInt8)) : Prop where
  unbroken : ∀ line ∈ lines, (10 : UInt8) ∉ line
  whole : input = closed lines ∨
    ∃ front last, lines = front ++ [last] ∧ last ≠ [] ∧ input = closed front ++ last

@[simp] theorem closed_append (lines more : List (List UInt8)) :
    closed (lines ++ more) = closed lines ++ closed more :=
  List.flatMap_append

namespace Framed

variable {b : UInt8} {line rest : List UInt8} {lines : List (List UInt8)}

private theorem feed (h : Framed rest lines) : Framed (10 :: rest) ([] :: lines) := by
  obtain ⟨unbroken, whole⟩ := h
  refine ⟨List.forall_mem_cons.2 ⟨List.not_mem_nil, unbroken⟩, ?_⟩
  rcases whole with all | ⟨front, last, cut, nonempty, parted⟩
  · exact .inl (congrArg ((10 : UInt8) :: ·) all)
  · exact .inr ⟨[] :: front, last, congrArg ([] :: ·) cut, nonempty,
      congrArg ((10 : UInt8) :: ·) parted⟩

private theorem grow (other : b ≠ 10) (h : Framed rest (line :: lines)) :
    Framed (b :: rest) ((b :: line) :: lines) := by
  obtain ⟨unbroken, whole⟩ := h
  obtain ⟨first, later⟩ := List.forall_mem_cons.1 unbroken
  refine ⟨List.forall_mem_cons.2 ⟨?_, later⟩, ?_⟩
  · exact List.not_mem_cons_of_ne_of_not_mem (Ne.symm other) first
  · rcases whole with all | ⟨_ | ⟨_, front⟩, last, cut, nonempty, parted⟩
    · exact .inl (congrArg (b :: ·) all)
    · obtain ⟨rfl, rfl⟩ := List.cons.inj cut
      exact .inr ⟨[], b :: line, rfl, nofun, congrArg (b :: ·) parted⟩
    · obtain ⟨rfl, rfl⟩ := List.cons.inj cut
      exact .inr ⟨(b :: line) :: front, last, rfl, nonempty, congrArg (b :: ·) parted⟩

private theorem eq_nil (h : Framed rest []) : rest = [] := by
  rcases h.whole with all | ⟨front, last, cut, -, -⟩
  · exact all
  · simp at cut

private theorem single (other : b ≠ 10) : Framed [b] [[b]] := by
  refine ⟨?_, .inr ⟨[], [b], rfl, nofun, rfl⟩⟩
  simpa using Ne.symm other

end Framed

theorem linesOf_framed (input : List UInt8) : Framed input (linesOf input) := by
  induction input with
  | nil => exact ⟨nofun, .inl rfl⟩
  | cons b rest ih =>
    unfold linesOf
    split
    · rename_i feed
      subst feed
      exact ih.feed
    · rename_i other
      split
      · rename_i line lines cut
        rw [cut] at ih
        exact ih.grow other
      · rename_i cut
        rw [cut] at ih
        obtain rfl := ih.eq_nil
        exact .single other

theorem linesOf_line {line : List UInt8} (unbroken : (10 : UInt8) ∉ line) (rest : List UInt8) :
    linesOf (line ++ 10 :: rest) = line :: linesOf rest := by
  induction line with
  | nil => rfl
  | cons b line ih =>
    have other : b ≠ 10 := fun same => unbroken (same ▸ List.mem_cons_self)
    have later := ih fun feed => unbroken (List.mem_cons_of_mem _ feed)
    rw [List.cons_append, linesOf, if_neg other, later]

theorem linesOf_last {last : List UInt8} (unbroken : (10 : UInt8) ∉ last) (nonempty : last ≠ []) :
    linesOf last = [last] := by
  induction last with
  | nil => exact absurd rfl nonempty
  | cons b last ih =>
    have other : b ≠ 10 := fun same => unbroken (same ▸ List.mem_cons_self)
    rw [linesOf, if_neg other]
    cases last with
    | nil => rfl
    | cons c last => rw [ih (fun feed => unbroken (List.mem_cons_of_mem _ feed)) nofun]

theorem linesOf_closed {lines : List (List UInt8)} (unbroken : ∀ line ∈ lines, (10 : UInt8) ∉ line)
    (rest : List UInt8) : linesOf (closed lines ++ rest) = lines ++ linesOf rest := by
  induction lines with
  | nil => rfl
  | cons line lines ih =>
    have later := ih fun l mem => unbroken l (List.mem_cons_of_mem _ mem)
    have first := linesOf_line (unbroken line List.mem_cons_self) (closed lines ++ rest)
    have split : closed (line :: lines) ++ rest = line ++ 10 :: (closed lines ++ rest) := by
      simp [closed]
    rw [split, first, later, List.cons_append]

/-- There is one way to cut the input. -/
theorem Framed.unique {input : List UInt8} {lines : List (List UInt8)} (h : Framed input lines) :
    lines = linesOf input := by
  obtain ⟨unbroken, rfl | ⟨front, last, rfl, nonempty, rfl⟩⟩ := h
  · simpa [linesOf] using (linesOf_closed unbroken []).symm
  · have inner : ∀ line ∈ front, (10 : UInt8) ∉ line :=
      fun line mem => unbroken line (List.mem_append_left _ mem)
    have ending := linesOf_last
      (unbroken last (List.mem_append_right _ (List.mem_singleton.2 rfl))) nonempty
    rw [linesOf_closed inner, ending]

theorem linesOf_append (a b : List UInt8) :
    linesOf (a ++ 10 :: b) = linesOf (a ++ [10]) ++ linesOf b := by
  obtain ⟨unbroken, whole⟩ := linesOf_framed (a ++ [10])
  have ended : a ++ [10] = closed (linesOf (a ++ [10])) := by
    rcases whole with all | ⟨front, last, lines, nonempty, split⟩
    · exact all
    · have feed : (10 : UInt8) ∈ last := by
        have ends := congrArg List.getLast? split
        rw [List.getLast?_append, List.getLast?_append] at ends
        cases seen : last.getLast? with
        | none => exact absurd (List.getLast?_eq_none_iff.1 seen) nonempty
        | some b =>
          have same : (10 : UInt8) = b := by simpa [seen] using ends
          exact same ▸ List.mem_of_getLast? seen
      exact absurd feed (unbroken last (lines ▸ List.mem_append_right _ (List.mem_singleton.2 rfl)))
  have split : a ++ 10 :: b = closed (linesOf (a ++ [10])) ++ b := by
    rw [← ended, List.append_assoc, List.singleton_append]
  rw [split, linesOf_closed unbroken]

theorem linesOf_ended {a : List UInt8} (nonempty : a ≠ []) (lacks : a.getLast? ≠ some 10) :
    linesOf (a ++ [10]) = linesOf a := by
  obtain ⟨unbroken, whole⟩ := linesOf_framed a
  rcases whole with all | ⟨front, last, lines, _, split⟩
  · rcases List.eq_nil_or_concat (linesOf a) with none | ⟨front, last, lines⟩
    · exact absurd (by rw [all, none]; rfl) nonempty
    · exact absurd (by rw [all, lines]; simp [closed]) lacks
  · refine (Framed.unique ⟨unbroken, .inl ?_⟩).symm
    rw [lines, closed_append, split]
    simp [closed]

end ConnectorKit.Server
