import ConnectorKit.Layout.Artifact
import ConnectorKit.Proofs.Text.Case
import ConnectorKit.Proofs.Text.Glob

/-!
The name of a resource beside its kind, which is the service put in front of it. In lower case the
two differ, and the pattern of the kind covers the types file of the resource only where the service
is made of stars.
-/

set_option autoImplicit false
set_option relaxedAutoImplicit false

namespace ConnectorKit.Scaffold

open Disk.Path (Plain)
open Text.Case (blur capitalize lower lowerChar lowerChars lowerFrom)
open Text.Glob (Covers)

variable {service resource : String}

theorem plain_kind (served : Plain service) (own : Plain resource) :
    Plain (capitalize service ++ resource) := by
  have front : (capitalize service).toList ≠ [] := by
    simpa using Text.Case.capitalize_ne_empty served.nonempty
  obtain ⟨c, rest, chars⟩ := List.exists_cons_of_ne_nil front
  obtain ⟨e, more, back⟩ := List.exists_cons_of_ne_nil (by simpa using own.nonempty : resource.toList ≠ [])
  refine ⟨?_, ?_, ?_, ?_⟩
  · simp [own.nonempty]
  · intro same
    have whole := congrArg String.toList same
    simp [chars, back] at whole
  · intro same
    have whole := congrArg String.toList same
    rw [String.toList_append, chars, back] at whole
    cases rest with
    | nil =>
      obtain ⟨-, rfl, rfl⟩ : c = '.' ∧ e = '.' ∧ more = [] := by simpa using whole
      exact own.notHere (String.toList_inj.1 back)
    | cons => simp at whole
  · rw [String.toList_append, List.mem_append]
    rintro (first | later)
    · exact served.unslashed (Text.Case.mem_of_mem_capitalize first (by decide))
    · exact own.unslashed later

theorem lower_kind_ne (served : Plain service) :
    lower (capitalize service ++ resource) ≠ lower resource :=
  Text.Case.lower_append_ne (Text.Case.capitalize_ne_empty served.nonempty)

section Stars

private theorem stars_of_upperChar {c : Char} (all : ∀ d ∈ Text.Case.upperChar c, d = '*') :
    c = '*' := by
  obtain ⟨d, rest, image⟩ := List.exists_cons_of_ne_nil (Text.Case.upperChar_ne_nil c)
  have star := all d (image ▸ List.mem_cons_self)
  subst star
  exact (Text.Case.eq_of_mem_upperChar (image ▸ List.mem_cons_self) (by decide)).symm

private theorem stars_of_capitalizeChars {text : List Char}
    (all : ∀ d ∈ Text.Case.capitalizeChars text, d = '*') : ∀ c ∈ text, c = '*' := by
  cases text with
  | nil => nofun
  | cons c rest =>
    intro e mem
    rcases List.mem_cons.1 mem with rfl | later
    · exact stars_of_upperChar fun d inside => all d (List.mem_append_left _ inside)
    · exact all e (List.mem_append_right _ later)

private theorem capitalizeChars_stars {text : List Char} (all : ∀ c ∈ text, c = '*') :
    Text.Case.capitalizeChars text = text := by
  cases text with
  | nil => rfl
  | cons c rest =>
    rw [all c List.mem_cons_self]
    have star : Text.Case.upperChar '*' = ['*'] := by decide
    rw [Text.Case.capitalizeChars, star, List.singleton_append]

private theorem meetsCased_stars {stars : List Char} (all : ∀ c ∈ stars, c = '*')
    (context : List Char) :
    Text.Case.meetsCased (context ++ stars) = Text.Case.meetsCased context := by
  have passed : Text.CaseTable.covers Text.CaseTable.ignorable 42 = false := by decide +kernel
  have bare : Text.CaseTable.covers Text.CaseTable.cased 42 = false := by decide +kernel
  unfold Text.Case.meetsCased
  induction context with
  | nil =>
    cases stars with
    | nil => rfl
    | cons c rest =>
      rw [all c List.mem_cons_self, List.nil_append, List.dropWhile_cons]
      simp [passed, bare]
  | cons c context ih =>
    rw [List.cons_append, List.dropWhile_cons, List.dropWhile_cons]
    cases skipped : Text.CaseTable.covers Text.CaseTable.ignorable c.toNat with
    | true => simpa using ih
    | false => simp

private theorem lowerFrom_stars {stars : List Char} (all : ∀ c ∈ stars, c = '*')
    (before text : List Char) : lowerFrom (before ++ stars) text = lowerFrom before text := by
  induction text generalizing before with
  | nil => rfl
  | cons c rest ih =>
    have context := ih (c :: before)
    rw [List.cons_append] at context
    rw [lowerFrom, lowerFrom, context, Text.Case.lowerSigma, Text.Case.lowerSigma,
      meetsCased_stars all]

private theorem lowerChars_stars {stars : List Char} (all : ∀ c ∈ stars, c = '*')
    (text : List Char) : lowerChars (stars ++ text) = stars ++ lowerChars text := by
  have steps : ∀ before stars : List Char, (∀ c ∈ stars, c = '*') →
      lowerFrom before (stars ++ text) = stars ++ lowerFrom (stars.reverse ++ before) text := by
    intro before stars all
    induction stars generalizing before with
    | nil => rfl
    | cons c rest ih =>
      have star := all c List.mem_cons_self
      subst star
      have plain : lowerChar '*' = ['*'] := by decide
      rw [List.cons_append, lowerFrom, if_neg (by decide), plain,
        ih _ fun d mem => all d (List.mem_cons_of_mem _ mem)]
      simp
  have reversed : ∀ c ∈ stars.reverse, c = '*' := fun c mem => all c (List.mem_reverse.1 mem)
  have context := lowerFrom_stars reversed [] text
  rw [lowerChars, steps [] stars all, List.append_nil]
  exact congrArg _ context

end Stars

/-- What a pattern has in front of a text of the name can only be stars: any other character is asked
for once more than the name has it. -/
private theorem eq_star_of_covers {front text finish : List Char}
    (h : Covers ('*' :: (lowerChars (front ++ text) ++ '*' :: finish)) (lowerChars text ++ finish)) :
    ∀ e ∈ lowerChars front, e = '*' := by
  intro e mem
  by_contra other
  -- a sigma comes out as either of two, so characters are counted without that difference
  let counted := (· == blur e) ∘ blur
  have star : counted '*' = false := by
    refine beq_eq_false_iff_ne.2 fun same => other ?_
    exact Text.Case.blur_eq_of_low same.symm (by decide)
  have asked := h.countP_le star
  have apart := congrArg (List.countP (· == blur e)) (Text.Case.blur_lowerChars_append front text)
  rw [List.countP_append, List.countP_map, List.countP_map, List.countP_map] at apart
  change List.countP counted _ = List.countP counted _ + List.countP counted _ at apart
  simp only [List.countP_cons, List.countP_append, star] at asked
  have found : 0 < (lowerChars front).countP counted :=
    List.countP_pos_iff.2 ⟨e, mem, beq_self_eq_true _⟩
  omega

/-- The pattern of a kind covers the types file of its resource only where the service is made of
stars. -/
theorem covers_kind_iff :
    Text.Glob.covers (Layout.directTypesPattern (lower (capitalize service ++ resource)))
        (lower resource ++ "_types.go") = true ↔ ∀ c ∈ service.toList, c = '*' := by
  rw [Text.Glob.covers_iff]
  have pattern : (Layout.directTypesPattern (lower (capitalize service ++ resource))).toList =
      '*' :: (lowerChars ((capitalize service).toList ++ resource.toList) ++
        '*' :: "_types.go".toList) := by
    simp [Layout.directTypesPattern, lower]
  have name : (lower resource ++ "_types.go").toList =
      lowerChars resource.toList ++ "_types.go".toList := by
    simp [lower]
  rw [pattern, name]
  constructor
  · intro h
    have stars := eq_star_of_covers h
    have own := Text.Case.eq_of_low fun e mem => by rw [stars e mem]; decide
    rw [own, capitalize, String.toList_ofList] at stars
    exact stars_of_capitalizeChars stars
  · intro all
    have own : (capitalize service).toList = service.toList := by
      rw [capitalize, String.toList_ofList, capitalizeChars_stars all]
    rw [own, lowerChars_stars all, List.append_assoc]
    exact .stop (.stars all (.self _ (.stop (by simpa using Covers.self "_types.go".toList .done))))

end ConnectorKit.Scaffold
