import ConnectorKit.Proofs.Commit.Policy
import ConnectorKit.Proofs.Text.Case
import ConnectorKit.Proofs.Text.Line

/-!
What the checks of a commit message look at. A banned term is found whatever stands around it and in
whatever case its letters are; the form is that of the first line, and nothing behind it counts.
-/

set_option autoImplicit false
set_option relaxedAutoImplicit false

namespace ConnectorKit.Commit

section Terms

variable {message other term : String}

private theorem find?_earlier {test wider : String → Bool} {items : List String} {item : String}
    (found : items.find? test = some item)
    (widens : ∀ i ∈ items, test i = true → wider i = true) :
    ∃ early, items.find? wider = some early ∧ items.idxOf early ≤ items.idxOf item := by
  have mem := List.mem_of_find?_eq_some found
  have met := widens item mem (List.find?_some found)
  cases first : items.find? wider with
  | none => exact absurd met (List.find?_eq_none.1 first item mem)
  | some early =>
    refine ⟨early, rfl, ?_⟩
    obtain ⟨here, front, back, rfl, unmet⟩ := List.find?_eq_some_iff_append.1 first
    have before {i : String} (yes : wider i = true) : i ∉ front := by
      intro inside
      have no := unmet i inside
      rw [yes] at no
      cases no
    rw [List.idxOf_append_of_notMem (before here), List.idxOf_append_of_notMem (before met),
      List.idxOf_cons_self]
    omega

private theorem unsigmaed : ∀ term ∈ bannedTerms, 'σ' ∉ term.toList ∧ 'ς' ∉ term.toList := by
  decide

theorem checkTerms_eq_error_iff {failure : Failure} : checkTerms message = .error failure ↔
    ∃ term, bannedTerm? message = some term ∧ failure = .bannedTerm term := by
  unfold checkTerms
  cases bannedTerm? message with
  | none => simp
  | some term => simp [eq_comm]

/-- What a message holds of the banned terms it holds in any surroundings and in any letter case. -/
theorem bannedTerm?_append (found : bannedTerm? message = some term)
    (recased : other.toList.map Char.toLower = message.toList.map Char.toLower)
    (front back : String) :
    ∃ early, bannedTerm? (front ++ other ++ back) = some early ∧
      bannedTerms.idxOf early ≤ bannedTerms.idxOf term := by
  refine find?_earlier found fun t mem holds => ?_
  obtain ⟨medial, final⟩ := unsigmaed t mem
  have inside := Text.Search.contains_iff.1 holds
  rw [Text.Case.lower, String.toList_ofList] at inside
  refine Text.Search.contains_iff.2 ?_
  rw [Text.Case.lower, String.toList_ofList, String.toList_append, String.toList_append]
  exact Text.Case.infix_lowerChars_append medial final inside recased _ _

/-- The term that a message is refused for is the first one in it, so no term before that one in the
list is part of it. -/
theorem bannedTerm?_eq_some_iff : bannedTerm? message = some term ↔
    ∃ earlier later, bannedTerms = earlier ++ term :: later ∧
      term.toList <:+: (Text.Case.lower message).toList ∧
      ∀ t ∈ earlier, ¬ t.toList <:+: (Text.Case.lower message).toList ∧
        ¬ t.toList <:+: term.toList := by
  unfold bannedTerm?
  dsimp only
  rw [List.find?_eq_some_iff_append]
  constructor
  · rintro ⟨holds, earlier, later, split, others⟩
    have inside := Text.Search.contains_iff.1 holds
    refine ⟨earlier, later, split, inside, fun t mem => ?_⟩
    have free : ¬ t.toList <:+: (Text.Case.lower message).toList := by
      intro early
      have no := others t mem
      rw [Text.Search.contains_iff.2 early] at no
      cases no
    exact ⟨free, fun part => free (part.trans inside)⟩
  · rintro ⟨earlier, later, split, inside, free⟩
    refine ⟨Text.Search.contains_iff.2 inside, earlier, later, split, fun t mem => ?_⟩
    have absent : Text.Search.contains (Text.Case.lower message) t = false :=
      Bool.eq_false_iff.2 fun holds => (free t mem).1 (Text.Search.contains_iff.1 holds)
    rw [absent]
    rfl

/-- No surroundings and no change of case hide a banned term: a message that is refused for one is
refused for it or an earlier one with anything before and behind it, in any case of its ASCII letters
and under any rules. The term that is told is the first of the list in the lower case of the message,
and never one that holds an earlier one. -/
theorem terms_are_found_anywhere :
    (∀ message other term : String, checkTerms message = .error (.bannedTerm term) →
      other.toList.map Char.toLower = message.toList.map Char.toLower →
      ∀ (front back : String) (conventional : Bool), ∃ early,
        checkTerms (front ++ other ++ back) = .error (.bannedTerm early) ∧
        checkMessage conventional (front ++ other ++ back) = .error (.bannedTerm early) ∧
        bannedTerms.idxOf early ≤ bannedTerms.idxOf term) ∧
    ∀ (message : String) (failure : Failure), checkTerms message = .error failure ↔
      ∃ earlier term later, bannedTerms = earlier ++ term :: later ∧ failure = .bannedTerm term ∧
        term.toList <:+: (Text.Case.lower message).toList ∧
        ∀ t ∈ earlier, ¬ t.toList <:+: (Text.Case.lower message).toList ∧
          ¬ t.toList <:+: term.toList := by
  constructor
  · intro message other term refused recased front back conventional
    obtain ⟨_, found, ⟨⟩⟩ := checkTerms_eq_error_iff.1 refused
    obtain ⟨early, found', before⟩ := bannedTerm?_append found recased front back
    have refused' : checkTerms (front ++ other ++ back) = .error (.bannedTerm early) :=
      checkTerms_eq_error_iff.2 ⟨early, found', rfl⟩
    refine ⟨early, refused', ?_, before⟩
    unfold checkMessage
    rw [refused']
    rfl
  · intro message failure
    rw [checkTerms_eq_error_iff]
    constructor
    · rintro ⟨term, found, rfl⟩
      obtain ⟨earlier, later, split, inside, free⟩ := bannedTerm?_eq_some_iff.1 found
      exact ⟨earlier, term, later, split, rfl, inside, free⟩
    · rintro ⟨earlier, term, later, split, rfl, inside, free⟩
      exact ⟨term, bannedTerm?_eq_some_iff.2 ⟨earlier, later, split, inside, free⟩, rfl⟩

/-- Between a capital sigma that turns final and one that does not, and beside an earlier term, the
term is found in capitals. -/
theorem terms_are_found_between_sigmas :
    checkTerms "chatgpt" = .error (.bannedTerm "gpt") ∧
    "ChatGPT".toList.map Char.toLower = "chatgpt".toList.map Char.toLower ∧
    ∃ early, checkTerms ("ΟΔΟΣ" ++ "ChatGPT" ++ "Σ, Claude") = .error (.bannedTerm early) ∧
      bannedTerms.idxOf early ≤ 4 := by
  have refused : checkTerms "chatgpt" = .error (.bannedTerm "gpt") := by decide +kernel
  have recased : "ChatGPT".toList.map Char.toLower = "chatgpt".toList.map Char.toLower := by decide
  obtain ⟨early, found, -, before⟩ :=
    terms_are_found_anywhere.1 "chatgpt" "ChatGPT" "gpt" refused recased "ΟΔΟΣ" "Σ, Claude" true
  exact ⟨refused, recased, early, found, before⟩

end Terms

section Form

/-- The form check passes just the conventional first lines, where the rules ask for it, and refuses
any other with that line; it looks at nothing behind the first line. -/
theorem checkForm_accepts_conventional (message : String) :
    ∃ line : String,
      (∀ other : String, Text.Line.IsFirst message.toList other.toList ↔ other = line) ∧
      (checkForm true message = .ok () ↔ Conventional line.toList) ∧
      (¬ Conventional line.toList → checkForm true message = .error (.formatViolation line)) ∧
      checkForm false message = .ok () ∧
      ∀ (conventional : Bool) (front rest rest' : String),
        checkForm conventional (front ++ "\n" ++ rest) =
          checkForm conventional (front ++ "\n" ++ rest') := by
  refine ⟨Text.Line.first message, fun other => ?_, ?_, fun other => ?_, rfl, ?_⟩
  · rw [← Text.Line.firstChars_eq_iff, Text.Line.first, ← String.toList_inj, String.toList_ofList]
    exact eq_comm
  · rw [checkForm_ok_iff]
    exact ⟨fun passes => passes rfl, fun form _ => form⟩
  · have refused : isConventional (Text.Line.first message) = false :=
      Bool.eq_false_iff.2 fun form => other (isConventional_iff.1 form)
    simp [checkForm, refused]
  · intro conventional front rest rest'
    unfold checkForm
    rw [Text.Line.first_append front rest, Text.Line.first_append front rest']

end Form

end ConnectorKit.Commit
