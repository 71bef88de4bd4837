import ConnectorKit.Proofs.Field.Block
import ConnectorKit.Proofs.Scaffold.TypesText

/-!
Blocks of clean requests. Where each text of a request is one row in which no struct opens, the rows of
its block are rows of fields: they close no struct and open none, and the last of them has a tag.
-/

set_option autoImplicit false
set_option relaxedAutoImplicit false

namespace ConnectorKit.Field

open Scaffold (Quiet)

theorem not_infix_of_quiet {text : String} (quiet : Quiet text) : ¬ opener <:+: text.toList :=
  fun inside => quiet.unopened (infix_of_opener inside)

/-- Rows of fields: none closes the struct or opens another one, and the last has a tag. -/
structure Fields (rows : List String) : Prop where
  inner : ∀ row ∈ rows, isClosing row = false
  unopened : ∀ row ∈ rows, ∀ parent, Text.Search.contains row (header parent) = false
  last : ∃ front field, rows = front ++ [field] ∧ hasTag field = true

/-- The texts of a request have one row each, in which no struct opens. -/
structure Request.Clean (r : Request) : Prop where
  resource : Quiet r.resource
  field : Quiet r.fieldName
  path : Quiet r.protoPath
  description : ∀ text, r.description = some text → Quiet text
  json : ∀ key, r.jsonName = some key → Quiet key

section Row

variable {fieldName declaredType jsonName : String}

private theorem isClosing_fieldRow : isClosing (fieldRow fieldName declaredType jsonName) = false :=
  isClosing_of_mem (c := '`') (by simp [fieldRow]) (by decide) (by decide)

private theorem hasTag_fieldRow : hasTag (fieldRow fieldName declaredType jsonName) = true := by
  refine Text.Search.contains_iff.2 ⟨("\t" ++ fieldName ++ " " ++ declaredType ++ " ").toList,
    ("\"" ++ jsonName ++ ",omitempty\"`").toList, ?_⟩
  simp [fieldRow]

private theorem not_infix_fieldRow (field : ¬ opener <:+: fieldName.toList)
    (declared : ¬ opener <:+: declaredType.toList)
    (mark : ∃ c, declaredType.toList.head? = some c ∧ c ∉ opener)
    (key : ¬ opener <:+: jsonName.toList) :
    ¬ opener <:+: (fieldRow fieldName declaredType jsonName).toList := by
  obtain ⟨c, first, other⟩ := mark
  obtain ⟨rest, start⟩ := List.head?_eq_some_iff.1 first
  have brace : opener.getLast? = some '{' := rfl
  have space : opener.head? = some ' ' := rfl
  -- the marks around the parts of the row are no characters of a header
  intro inside
  have cut : (fieldRow fieldName declaredType jsonName).toList =
      (('\t' :: fieldName.toList ++ [' ']) ++ c :: (rest ++ [' '])) ++
        '`' :: ("json:".toList ++ '"' :: (jsonName.toList ++ ",omitempty\"`".toList)) := by
    simp [fieldRow, start]
  rw [cut] at inside
  rcases Text.Search.infix_append_cons (by decide) inside with named | tag
  · rcases Text.Search.infix_append_cons other named with own | typed
    · have front : opener <:+: ['\t'] ++ fieldName.toList :=
        Text.Search.infix_of_last brace (by decide) own
      exact field (Text.Search.infix_of_head space (by decide) front)
    · have inner := Text.Search.infix_of_last brace (by decide) typed
      exact declared (start ▸ List.infix_cons_iff.2 (.inr inner))
  · rcases Text.Search.infix_append_cons (by decide) tag with word | behind
    · revert word
      decide
    · exact key (Text.Search.infix_of_last brace (by decide) behind)

end Row

private theorem not_infix_uncapitalize {text : String} (quiet : ¬ opener <:+: text.toList) :
    ¬ opener <:+: (Text.Case.uncapitalize text).toList := by
  rw [Text.Case.uncapitalize, String.toList_ofList]
  have space : opener.head? = some ' ' := rfl
  cases chars : text.toList with
  | nil =>
    rw [chars] at quiet
    exact quiet
  | cons x rest =>
    rw [chars] at quiet
    intro inside
    by_cases blank : ' ' ∈ Text.Case.lowerChar x
    · obtain rfl := Text.Case.eq_of_mem_lowerChar blank (by decide)
      exact quiet inside
    · have behind := Text.Search.infix_of_head space blank inside
      exact quiet (List.infix_cons_iff.2 (.inr behind))

private theorem comment_row {mark text : String} (plain : 's' ∉ mark.toList) (slash : '/' ∈ mark.toList)
    (one : '\n' ∉ mark.toList) (quiet : Quiet text) : '\n' ∉ (mark ++ text).toList ∧
      isClosing (mark ++ text) = false ∧ ¬ opener <:+: (mark ++ text).toList := by
  refine ⟨by simp [one, quiet.oneRow], ?_, fun inside => ?_⟩
  · exact isClosing_of_mem (c := '/') (by simp [slash]) (by decide) (by decide)
  · have word : "struct \x7b".toList <:+: mark.toList ++ text.toList := by
      rw [← String.toList_append]
      exact infix_of_opener inside
    exact quiet.unopened (Text.Search.infix_of_head (c := 's') rfl plain word)

namespace Request.Clean

variable {r : Request} (clean : r.Clean)
include clean

private theorem declared (kind : Kind) : '\n' ∉ (kind.declaredType r.resource r.fieldName).toList ∧
    ¬ opener <:+: (kind.declaredType r.resource r.fieldName).toList ∧
    ∃ c, (kind.declaredType r.resource r.fieldName).toList.head? = some c ∧ c ∉ opener := by
  cases kind with
  | object =>
    have parts : (Kind.object.declaredType r.resource r.fieldName).toList =
        '*' :: (r.resource.toList ++ '_' :: r.fieldName.toList) := by
      simp [Kind.declaredType]
    rw [parts]
    refine ⟨by simp [clean.resource.oneRow, clean.field.oneRow], fun inside => ?_,
      _, rfl, by decide⟩
    have marked : opener <:+: ['*'] ++ (r.resource.toList ++ '_' :: r.fieldName.toList) := inside
    have behind := Text.Search.infix_of_head (c := ' ') rfl (by decide) marked
    rcases Text.Search.infix_append_cons (by decide) behind with named | field
    · exact not_infix_of_quiet clean.resource named
    · exact not_infix_of_quiet clean.field field
  | string | int64 | bool =>
    simp only [Kind.declaredType]
    exact ⟨by decide, by decide, '*', by decide, by decide⟩
  | array =>
    simp only [Kind.declaredType]
    exact ⟨by decide, by decide, '[', by decide, by decide⟩

private theorem key : '\n' ∉ (r.jsonName.getD (Text.Case.uncapitalize r.fieldName)).toList ∧
    ¬ opener <:+: (r.jsonName.getD (Text.Case.uncapitalize r.fieldName)).toList := by
  cases given : r.jsonName with
  | none =>
    refine ⟨fun mem => ?_, not_infix_uncapitalize (not_infix_of_quiet clean.field)⟩
    exact clean.field.oneRow (Text.Case.mem_of_mem_uncapitalize mem (by decide))
  | some key =>
    have quiet := clean.json key given
    exact ⟨quiet.oneRow, not_infix_of_quiet quiet⟩

private theorem described : ∀ row ∈ described r.description, '\n' ∉ row.toList ∧
    isClosing row = false ∧ ¬ opener <:+: row.toList := by
  unfold Field.described
  cases given : r.description with
  | none => exact List.forall_mem_nil _
  | some text =>
    dsimp only
    split
    · exact List.forall_mem_nil _
    · intro row mem
      obtain rfl := List.mem_singleton.1 mem
      exact comment_row (by decide) (by decide) (by decide) (clean.description text given)

theorem fields (kind : Kind) : Fields (Text.Line.rows (r.block kind)) := by
  obtain ⟨one, plain, mark⟩ := clean.declared kind
  obtain ⟨key_one, key⟩ := clean.key
  have each : ∀ row ∈ Field.described r.description ++ ["\t// +kcc:proto=" ++ r.protoPath,
      fieldRow r.fieldName (kind.declaredType r.resource r.fieldName)
        (r.jsonName.getD (Text.Case.uncapitalize r.fieldName))],
      '\n' ∉ row.toList ∧ isClosing row = false ∧ ¬ opener <:+: row.toList := by
    refine List.forall_mem_append.2 ⟨clean.described, List.forall_mem_cons.2 ⟨?_,
      List.forall_mem_singleton.2 ⟨?_, isClosing_fieldRow, ?_⟩⟩⟩
    · exact comment_row (by decide) (by decide) (by decide) clean.path
    · simp [fieldRow, clean.field.oneRow, one, key_one]
    · exact not_infix_fieldRow (not_infix_of_quiet clean.field) plain mark key
  rw [Request.block, block_eq, Text.Line.rows_ofRows (by simp),
    Text.Line.flatMap_rows_of_not_mem fun row mem => (each row mem).1]
  exact {
    inner := fun row mem => (each row mem).2.1
    unopened := fun row mem => contains_header_of_not_infix (each row mem).2.2
    last := ⟨_, _, (List.append_assoc (Field.described r.description) [_] [_]).symm,
      hasTag_fieldRow⟩ }

end Request.Clean

end ConnectorKit.Field
