import ConnectorKit.Proofs.Layout.Artifact
import ConnectorKit.Proofs.Text.Glob

/-!
What the patterns of types files cover. The direct pattern asks for an underscore where the legacy
one does not, so it covers less; and it covers the types file that a migration makes.
-/

set_option autoImplicit false
set_option relaxedAutoImplicit false

namespace ConnectorKit.Layout

open Text.Glob (Covers covers covers_iff)

variable {lower name : String}

private theorem toList_directTypesPattern (lower : String) : (directTypesPattern lower).toList =
    '*' :: (lower.toList ++ '*' :: "_types.go".toList) := by
  simp [directTypesPattern]

private theorem toList_legacyTypesPattern (lower : String) : (legacyTypesPattern lower).toList =
    '*' :: (lower.toList ++ '*' :: "types.go".toList) := by
  simp [legacyTypesPattern]

theorem covers_typesFile (lower : String) :
    covers (directTypesPattern lower) (lower ++ "_types.go") = true := by
  have ending : Covers "_types.go".toList "_types.go".toList := by
    simpa using Covers.self "_types.go".toList .done
  rw [covers_iff, toList_directTypesPattern, String.toList_append]
  exact .stop (.self lower.toList (.stop ending))

theorem ending_of_covers (h : covers (directTypesPattern lower) name = true) :
    "_types.go".toList <:+ name.toList := by
  rw [covers_iff, toList_directTypesPattern] at h
  have plain : ∀ c ∈ "_types.go".toList, c ≠ '*' := by simp
  have whole : Covers (('*' :: (lower.toList ++ ['*'])) ++ "_types.go".toList) name.toList := by
    simpa using h
  exact whole.ending plain

theorem legacy_ending_of_covers (h : covers (legacyTypesPattern lower) name = true) :
    "types.go".toList <:+ name.toList := by
  rw [covers_iff, toList_legacyTypesPattern] at h
  have plain : ∀ c ∈ "types.go".toList, c ≠ '*' := by simp
  have whole : Covers (('*' :: (lower.toList ++ ['*'])) ++ "types.go".toList) name.toList := by
    simpa using h
  exact whole.ending plain

/-- Among the files of a migration the direct pattern covers types files only. -/
theorem not_covered {a : Artifact} {service version other : String} (own : a ≠ .types)
    (inside : ["apis"] <+: a.names service version lower) :
    covers (directTypesPattern other) (a.name lower) = false := by
  have identity : a = .identity := by
    cases a <;> simp_all [Artifact.names, Artifact.directories, List.cons_prefix_cons]
  subst identity
  refine Bool.eq_false_iff.2 fun covered => ?_
  have ending := ending_of_covers covered
  rw [← List.reverse_prefix] at ending
  simp [Artifact.name] at ending

theorem covers_legacy_of_direct (h : covers (directTypesPattern lower) name = true) :
    covers (legacyTypesPattern lower) name = true := by
  rw [covers_iff, toList_directTypesPattern] at h
  rw [covers_iff, toList_legacyTypesPattern]
  rw [← List.cons_append] at h ⊢
  exact Covers.drop_char (by decide : '_' ≠ '*') (by decide) h

theorem unslashed_of_covers (h : covers (legacyTypesPattern lower) name = true)
    (unslashed : '/' ∉ name.toList) : '/' ∉ lower.toList := by
  rw [covers_iff, toList_legacyTypesPattern] at h
  have star : ('*' == '/') = false := by decide
  have asked : _ ≤ name.toList.countP (· == '/') := h.countP_le star
  intro slashed
  have none : name.toList.countP (· == '/') = 0 := by
    rw [List.countP_eq_zero]
    intro c mem same
    exact unslashed (eq_of_beq same ▸ mem)
  have some_ : 0 < lower.toList.countP (· == '/') :=
    List.countP_pos_iff.2 ⟨'/', slashed, by decide⟩
  simp only [List.countP_cons, List.countP_append] at asked
  omega

end ConnectorKit.Layout
