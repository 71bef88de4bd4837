import ConnectorKit.Text.Glob
import Mathlib.Data.List.Basic

/-!
What a pattern covers, character by character: a star stands for any run without a line feed, every
other character for itself. So a pattern covers a name where the name is the pieces between its stars
with such a run in the place of each.
-/

set_option autoImplicit false
set_option relaxedAutoImplicit false

namespace ConnectorKit.Text.Glob

/-- How a pattern covers a name. -/
inductive Covers : List Char → List Char → Prop
  | done : Covers [] []
  | char {c : Char} {pattern name : List Char} : c ≠ '*' → Covers pattern name →
      Covers (c :: pattern) (c :: name)
  | stop {pattern name : List Char} : Covers pattern name → Covers ('*' :: pattern) name
  | skip {c : Char} {pattern name : List Char} : c ≠ '\n' → Covers ('*' :: pattern) name →
      Covers ('*' :: pattern) (c :: name)

section Heads

variable {p c : Char} {pattern name : List Char}

private theorem covers_star_nil_iff : Covers ('*' :: pattern) [] ↔ Covers pattern [] := by
  refine ⟨fun h => ?_, .stop⟩
  cases h
  assumption

private theorem covers_star_cons_iff : Covers ('*' :: pattern) (c :: name) ↔
    Covers pattern (c :: name) ∨ c ≠ '\n' ∧ Covers ('*' :: pattern) name := by
  constructor
  · intro h
    cases h with
    | char other => exact absurd rfl other
    | stop rest => exact .inl rest
    | skip passed rest => exact .inr ⟨passed, rest⟩
  · rintro (stops | ⟨passed, rest⟩)
    · exact .stop stops
    · exact .skip passed rest

private theorem not_covers_char_nil (other : p ≠ '*') : ¬ Covers (p :: pattern) [] := by
  intro h
  cases h
  exact other rfl

private theorem covers_char_cons_iff (other : p ≠ '*') :
    Covers (p :: pattern) (c :: name) ↔ p = c ∧ Covers pattern name := by
  constructor
  · intro h
    cases h with
    | char _ rest => exact ⟨rfl, rest⟩
    | stop => exact absurd rfl other
    | skip => exact absurd rfl other
  · rintro ⟨rfl, rest⟩
    exact .char other rest

end Heads

private theorem starRow_cons (c : Char) (name : List Char) (b : Bool) (below : List Bool) :
    starRow (c :: name) (b :: below) =
      (b || (c != '\n' && (starRow name below).headD false)) :: starRow name below :=
  rfl

private theorem charRow_cons (p c : Char) (name : List Char) (b : Bool) (below : List Bool) :
    charRow p (c :: name) (b :: below) = (p == c && below.headD false) :: charRow p name below :=
  rfl

private theorem row_cons (pattern : List Char) (c : Char) (name : List Char) :
    ∃ b, row pattern (c :: name) = b :: row pattern name := by
  induction pattern with
  | nil => exact ⟨false, rfl⟩
  | cons p pattern ih =>
    obtain ⟨b, below⟩ := ih
    unfold row at below ⊢
    rw [List.foldr_cons, List.foldr_cons, below]
    split
    · exact ⟨_, starRow_cons ..⟩
    · exact ⟨_, charRow_cons ..⟩

private theorem headD_row_iff (pattern name : List Char) :
    (row pattern name).headD false = true ↔ Covers pattern name := by
  induction pattern generalizing name with
  | nil =>
    cases name with
    | nil => exact ⟨fun _ => .done, fun _ => rfl⟩
    | cons c name => exact ⟨nofun, nofun⟩
  | cons p pattern ih =>
    have step (name : List Char) : row (p :: pattern) name =
        if p = '*' then starRow name (row pattern name) else charRow p name (row pattern name) := rfl
    by_cases star : p = '*'
    · subst star
      induction name with
      | nil =>
        have whole : row ('*' :: pattern) [] = row pattern [] := by
          rw [step, if_pos rfl]
          rfl
        rw [whole, ih, covers_star_nil_iff]
      | cons c name later =>
        obtain ⟨b, below⟩ := row_cons pattern c name
        have first := ih (c :: name)
        rw [below, List.headD_cons] at first
        rw [step, if_pos rfl] at later
        rw [step, if_pos rfl, below, starRow_cons, List.headD_cons, Bool.or_eq_true,
          Bool.and_eq_true, bne_iff_ne]
        exact (or_congr first (and_congr_right fun _ => later)).trans covers_star_cons_iff.symm
    · cases name with
      | nil =>
        have none : row (p :: pattern) [] = [false] := by
          rw [step, if_neg star]
          rfl
        rw [none]
        exact ⟨nofun, fun h => absurd h (not_covers_char_nil star)⟩
      | cons c name =>
        obtain ⟨b, below⟩ := row_cons pattern c name
        rw [step, if_neg star, below, charRow_cons, List.headD_cons, Bool.and_eq_true, beq_iff_eq,
          ih, covers_char_cons_iff star]

theorem covers_iff {pattern name : String} :
    covers pattern name = true ↔ Covers pattern.toList name.toList :=
  headD_row_iff _ _

section Covers

variable {pattern name : List Char}

/-- Whatever a pattern has besides stars, a name that it covers has too. -/
theorem Covers.countP_le (h : Covers pattern name) {holds : Char → Bool}
    (star : holds '*' = false) : pattern.countP holds ≤ name.countP holds := by
  induction h with
  | done => exact Nat.le_refl _
  | char _ _ ih =>
    rw [List.countP_cons, List.countP_cons]
    omega
  | stop _ ih =>
    rw [List.countP_cons, star]
    exact ih
  | @skip c _ _ _ _ ih =>
    rw [List.countP_cons (a := c)]
    omega

theorem Covers.self (front : List Char) (h : Covers pattern name) :
    Covers (front ++ pattern) (front ++ name) := by
  induction front with
  | nil => exact h
  | cons c front ih =>
    by_cases star : c = '*'
    · subst star
      exact .skip (by decide) (.stop ih)
    · exact .char star ih

theorem Covers.stars {stars : List Char} (all : ∀ c ∈ stars, c = '*') (h : Covers pattern name) :
    Covers (stars ++ pattern) name := by
  induction stars with
  | nil => exact h
  | cons c stars ih =>
    rw [all c List.mem_cons_self]
    exact .stop (ih fun d mem => all d (List.mem_cons_of_mem _ mem))

theorem Covers.drop_char {front rest : List Char} {c : Char} (plain : c ≠ '*') (inner : c ≠ '\n')
    (h : Covers (front ++ '*' :: c :: rest) name) : Covers (front ++ '*' :: rest) name := by
  generalize whole : front ++ '*' :: c :: rest = all at h
  induction h generalizing front with
  | done => simp at whole
  | char other _ ih =>
    cases front with
    | nil => exact absurd (List.cons.inj whole).1.symm other
    | cons p front =>
      obtain ⟨rfl, rfl⟩ := List.cons.inj whole
      exact .char other (ih rfl)
  | stop below ih =>
    cases front with
    | nil =>
      obtain ⟨-, rfl⟩ := List.cons.inj whole
      cases below with
      | char _ later => exact .skip inner (.stop later)
      | stop => exact absurd rfl plain
      | skip => exact absurd rfl plain
    | cons p front =>
      obtain ⟨rfl, rfl⟩ := List.cons.inj whole
      exact .stop (ih rfl)
  | skip passed _ ih =>
    have later := ih whole
    cases front with
    | nil => exact .skip passed later
    | cons p front =>
      obtain ⟨rfl, -⟩ := List.cons.inj whole
      exact .skip passed later

theorem Covers.eq_of_plain (h : Covers pattern name) (plain : ∀ c ∈ pattern, c ≠ '*') :
    name = pattern := by
  induction h with
  | done => rfl
  | char _ _ ih => rw [ih fun d mem => plain d (List.mem_cons_of_mem _ mem)]
  | stop => exact absurd rfl (plain '*' List.mem_cons_self)
  | skip => exact absurd rfl (plain '*' List.mem_cons_self)

theorem Covers.ending {finish : List Char} (plain : ∀ c ∈ finish, c ≠ '*')
    (h : Covers (pattern ++ finish) name) : finish <:+ name := by
  generalize whole : pattern ++ finish = all at h
  induction h generalizing pattern with
  | done =>
    obtain ⟨-, rfl⟩ := List.append_eq_nil_iff.1 whole
    exact List.suffix_rfl
  | char other rest ih =>
    cases pattern with
    | nil =>
      subst whole
      have same := rest.eq_of_plain fun d mem => plain d (List.mem_cons_of_mem _ mem)
      exact same ▸ List.suffix_rfl
    | cons p pattern =>
      obtain ⟨-, rfl⟩ := List.cons.inj whole
      exact (ih rfl).trans (List.suffix_cons _ _)
  | stop _ ih =>
    cases pattern with
    | nil =>
      subst whole
      exact absurd rfl (plain '*' List.mem_cons_self)
    | cons p pattern =>
      obtain ⟨-, rfl⟩ := List.cons.inj whole
      exact ih rfl
  | skip _ _ ih => exact (ih whole).trans (List.suffix_cons _ _)

end Covers

section Pieces

variable {pattern name : List Char}

theorem covers_piece_iff {piece : List Char} (plain : '*' ∉ piece) :
    Covers (piece ++ pattern) name ↔ ∃ rest, name = piece ++ rest ∧ Covers pattern rest := by
  induction piece generalizing name with
  | nil => simp
  | cons c piece ih =>
    have other := List.ne_of_not_mem_cons plain
    have later := List.not_mem_of_not_mem_cons plain
    constructor
    · intro h
      cases h with
      | char _ below =>
        obtain ⟨rest, rfl, covered⟩ := (ih later).1 below
        exact ⟨rest, rfl, covered⟩
      | stop => exact absurd rfl other
      | skip => exact absurd rfl other
    · rintro ⟨rest, rfl, covered⟩
      exact .char (Ne.symm other) ((ih later).2 ⟨rest, rfl, covered⟩)

/-- A star stands for a run without line feeds at the front of a name. -/
theorem covers_star_iff : Covers ('*' :: pattern) name ↔
    ∃ run rest, '\n' ∉ run ∧ name = run ++ rest ∧ Covers pattern rest := by
  constructor
  · intro h
    generalize whole : '*' :: pattern = starred at h
    induction h with
    | done => cases whole
    | char other => exact absurd (List.cons.inj whole).1.symm other
    | @stop _ name covered =>
      obtain ⟨-, rfl⟩ := List.cons.inj whole
      exact ⟨[], name, List.not_mem_nil, rfl, covered⟩
    | @skip c _ _ passed _ ih =>
      obtain ⟨run, rest, free, rfl, covered⟩ := ih whole
      exact ⟨c :: run, rest, List.not_mem_cons_of_ne_of_not_mem (Ne.symm passed) free, rfl, covered⟩
  · rintro ⟨run, rest, free, rfl, covered⟩
    induction run with
    | nil => exact .stop covered
    | cons c run ih =>
      exact .skip (Ne.symm (List.ne_of_not_mem_cons free))
        (ih (List.not_mem_of_not_mem_cons free))

private theorem covers_pieces_iff {pieces : List String} (plain : ∀ p ∈ pieces, '*' ∉ p.toList) :
    Covers (pieces.flatMap fun p => '*' :: p.toList) name ↔
      ∃ runs : List String, runs.length = pieces.length ∧ (∀ r ∈ runs, '\n' ∉ r.toList) ∧
        name = (String.join (List.zipWith (· ++ ·) runs pieces)).toList := by
  induction pieces generalizing name with
  | nil =>
    constructor
    · intro h
      cases h
      exact ⟨[], rfl, nofun, rfl⟩
    · rintro ⟨runs, -, -, rfl⟩
      simpa using Covers.done
  | cons p pieces ih =>
    obtain ⟨own, others⟩ := List.forall_mem_cons.1 plain
    rw [List.flatMap_cons, List.cons_append, covers_star_iff]
    constructor
    · rintro ⟨run, rest, free, rfl, covered⟩
      obtain ⟨behind, rfl, below⟩ := (covers_piece_iff own).1 covered
      obtain ⟨runs, count, clean, rfl⟩ := (ih others).1 below
      refine ⟨String.ofList run :: runs, by simp [count], ?_, by simp⟩
      exact List.forall_mem_cons.2 ⟨by rwa [String.toList_ofList], clean⟩
    · rintro ⟨runs, count, clean, rfl⟩
      cases runs with
      | nil => cases count
      | cons run runs =>
        obtain ⟨free, clean⟩ := List.forall_mem_cons.1 clean
        refine ⟨run.toList, _, free, ?_, (covers_piece_iff own).2 ⟨_, rfl, (ih others).2
          ⟨runs, Nat.succ.inj count, clean, rfl⟩⟩⟩
        simp

private theorem toList_intercalate_star (piece : String) (others : List String) :
    ("*".intercalate (piece :: others)).toList =
      piece.toList ++ others.flatMap fun p => '*' :: p.toList := by
  induction others generalizing piece with
  | nil => simp
  | cons other others ih =>
    rw [String.intercalate_cons_cons, String.toList_append, String.toList_append, ih]
    simp

/-- A pattern covers a name where the name is made of the pieces between its stars, in order and as
they are, with a run of any characters but line feeds in the place of each star. -/
theorem covers_iff_pieces {piece : String} {others : List String}
    (plain : ∀ p ∈ piece :: others, '*' ∉ p.toList) (name : String) :
    covers ("*".intercalate (piece :: others)) name = true ↔
      ∃ runs : List String, runs.length = others.length ∧ (∀ r ∈ runs, '\n' ∉ r.toList) ∧
        name = piece ++ String.join (List.zipWith (· ++ ·) runs others) := by
  obtain ⟨own, later⟩ := List.forall_mem_cons.1 plain
  rw [covers_iff, toList_intercalate_star, covers_piece_iff own]
  constructor
  · rintro ⟨rest, whole, covered⟩
    obtain ⟨runs, count, clean, rfl⟩ := (covers_pieces_iff later).1 covered
    exact ⟨runs, count, clean, String.toList_inj.1 (by rw [whole, String.toList_append])⟩
  · rintro ⟨runs, count, clean, rfl⟩
    exact ⟨_, String.toList_append, (covers_pieces_iff later).2 ⟨runs, count, clean, rfl⟩⟩

/-- Brackets, dots and line feeds of a pattern are characters like others, and a piece that comes
twice in a name need not be taken where it comes first. -/
theorem covers_brackets : (∀ p ∈ ["[a.", "\n", ".go"], '*' ∉ p.toList) ∧
    covers "[a.*\n*.go" "[a.go\n.go.go" = true := by
  have plain : ∀ p ∈ ["[a.", "\n", ".go"], '*' ∉ p.toList := by decide
  have pieces := covers_iff_pieces plain "[a.go\n.go.go"
  exact ⟨plain, pieces.2 ⟨["go", ".go"], rfl, by decide, by decide⟩⟩

end Pieces

end ConnectorKit.Text.Glob
