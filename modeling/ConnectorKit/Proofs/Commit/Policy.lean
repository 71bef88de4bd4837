import ConnectorKit.Commit.Policy
import ConnectorKit.Proofs.Text.Search

/-!
What the checks of a commit message let through: messages without a banned term, and, where the
rules ask for it, with a conventional first line. Both are said here without the code that checks
them.
-/

set_option autoImplicit false
set_option relaxedAutoImplicit false

namespace ConnectorKit.Commit

/-- `type: description` or `type(scope): description`, with scope and description not empty. -/
def Conventional (line : List Char) : Prop :=
  ∃ type ∈ types, ∃ scope description : List Char,
    (scope = [] ∨ ∃ inner, inner ≠ [] ∧ scope = '(' :: inner ++ [')']) ∧
      description ≠ [] ∧ line = type.toList ++ (scope ++ ':' :: ' ' :: description)

/-- No banned term stands in the message in any letter case. -/
def FreeOfTerms (message : String) : Prop :=
  ∀ term ∈ bannedTerms, ¬ term.toList <:+: (Text.Case.lower message).toList

/-- A message that may be committed. -/
structure Admissible (conventional : Bool) (message : String) : Prop where
  free : FreeOfTerms message
  form : conventional = true → Conventional (Text.Line.first message).toList

private theorem describes_iff {text : List Char} :
    describes text = true ↔ ∃ description, description ≠ [] ∧ text = ':' :: ' ' :: description := by
  constructor
  · intro h
    unfold describes at h
    split at h
    · rename_i c rest
      exact ⟨c :: rest, by simp, rfl⟩
    · cases h
  · rintro ⟨description, nonempty, rfl⟩
    cases description with
    | nil => exact absurd rfl nonempty
    | cons c rest => rfl

private theorem closesScope_iff {text : List Char} :
    closesScope text = true ↔ ∃ inner description, description ≠ [] ∧
      text = inner ++ ')' :: ':' :: ' ' :: description := by
  induction text with
  | nil => simp [closesScope]
  | cons c rest ih =>
    simp only [closesScope, Bool.or_eq_true, Bool.and_eq_true, decide_eq_true_eq, describes_iff, ih]
    constructor
    · rintro (⟨rfl, description, nonempty, rfl⟩ | ⟨inner, description, nonempty, rfl⟩)
      · exact ⟨[], description, nonempty, rfl⟩
      · exact ⟨c :: inner, description, nonempty, rfl⟩
    · rintro ⟨inner, description, nonempty, split⟩
      cases inner with
      | nil =>
        obtain ⟨rfl, rfl⟩ := List.cons.inj split
        exact .inl ⟨rfl, description, nonempty, rfl⟩
      | cons i inner =>
        obtain ⟨rfl, rfl⟩ := List.cons.inj split
        exact .inr ⟨inner, description, nonempty, rfl⟩

private theorem followsType_iff {text : List Char} :
    followsType text = true ↔ ∃ scope description : List Char,
      (scope = [] ∨ ∃ inner, inner ≠ [] ∧ scope = '(' :: inner ++ [')']) ∧
        description ≠ [] ∧ text = scope ++ ':' :: ' ' :: description := by
  simp only [followsType, Bool.or_eq_true, describes_iff]
  constructor
  · rintro (⟨description, nonempty, rfl⟩ | h)
    · exact ⟨[], description, .inl rfl, nonempty, rfl⟩
    · split at h
      · rename_i c rest
        obtain ⟨inner, description, nonempty, rfl⟩ := closesScope_iff.1 h
        exact ⟨'(' :: (c :: inner) ++ [')'], description, .inr ⟨c :: inner, by simp, rfl⟩,
          nonempty, by simp⟩
      · cases h
  · rintro ⟨scope, description, rfl | ⟨inner, filled, rfl⟩, nonempty, rfl⟩
    · exact .inl ⟨description, nonempty, rfl⟩
    · cases inner with
      | nil => exact absurd rfl filled
      | cons c inner =>
        refine .inr (closesScope_iff.2 ⟨inner, description, nonempty, ?_⟩)
        simp

theorem isConventional_iff {line : String} :
    isConventional line = true ↔ Conventional line.toList := by
  simp only [isConventional, List.any_eq_true, Conventional]
  refine exists_congr fun type => and_congr_right fun _ => ?_
  constructor
  · intro h
    split at h
    · rename_i rest found
      obtain ⟨scope, description, shape, nonempty, rfl⟩ := followsType_iff.1 h
      exact ⟨scope, description, shape, nonempty, Text.Search.afterChars?_eq_some.1 found⟩
    · cases h
  · rintro ⟨scope, description, shape, nonempty, whole⟩
    rw [Text.Search.afterChars?_eq_some.2 whole]
    exact followsType_iff.2 ⟨scope, description, shape, nonempty, rfl⟩

theorem checkTerms_ok_iff {message : String} :
    checkTerms message = .ok () ↔ FreeOfTerms message := by
  unfold checkTerms FreeOfTerms bannedTerm?
  cases found : bannedTerms.find? (Text.Search.contains (Text.Case.lower message) ·) with
  | none =>
    simpa [Text.Search.contains_iff] using found
  | some term =>
    refine ⟨nofun, fun free => absurd ?_ (free term (List.mem_of_find?_eq_some found))⟩
    exact Text.Search.contains_iff.1 (List.find?_some found)

theorem checkForm_ok_iff {conventional : Bool} {message : String} :
    checkForm conventional message = .ok () ↔
      (conventional = true → Conventional (Text.Line.first message).toList) := by
  rw [← isConventional_iff]
  unfold checkForm
  cases conventional <;> simp

theorem checkMessage_ok_iff {conventional : Bool} {message : String} :
    checkMessage conventional message = .ok () ↔ Admissible conventional message := by
  have split : checkMessage conventional message = .ok () ↔
      checkTerms message = .ok () ∧ checkForm conventional message = .ok () := by
    unfold checkMessage
    cases checkTerms message <;> simp [bind, Except.bind]
  rw [split, checkTerms_ok_iff, checkForm_ok_iff]
  exact ⟨fun h => ⟨h.1, h.2⟩, fun h => ⟨h.free, h.form⟩⟩

end ConnectorKit.Commit
