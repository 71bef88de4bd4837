import ConnectorKit.Proofs.Field.Addition
import ConnectorKit.Proofs.Text.Case

/-!
What the block of a new field holds. It is meant to be comments and one row that declares the field;
but only the first row of a description or of a proto path is made a comment, and what they go on
with in further rows goes into the file as it is.
-/

set_option autoImplicit false
set_option relaxedAutoImplicit false

namespace ConnectorKit.Field

open Disk (Repository Route)

/-- A row with nothing but a comment behind its tab. -/
def isComment (row : String) : Bool :=
  Text.Search.startsWith row "\t//"

/-- A character of an identifier; beyond ASCII whatever is not blank counts as one. -/
def isNameChar (c : Char) : Bool :=
  c.isAlphanum || c == '_' || (128 ≤ c.toNat && !Text.Blank.isBlank c)

def isName (text : String) : Bool :=
  !text.isEmpty && text.toList.all isNameChar

/-- A row that inside a struct declares a field: a name, a blank and something behind it. -/
def declaresField (row : String) : Bool :=
  let text := Text.Blank.trimStartChars row.toList
  let behind := text.dropWhile isNameChar
  !(text.takeWhile isNameChar).isEmpty && behind.head?.any Text.Blank.isBlank &&
    behind.any (!Text.Blank.isBlank ·)

section Rows

variable {row : String}

/-- Rows that a text goes on with. -/
def continuation (text : String) : List String :=
  (Text.Line.rows text).tail

theorem continuation_of_not_mem {text : String} (one : '\n' ∉ text.toList) :
    continuation text = [] := by
  rw [continuation, Text.Line.rows_of_not_mem one]
  rfl

theorem declaresField_of_isComment (comment : isComment row = true) : declaresField row = false := by
  obtain ⟨rest, text⟩ := List.isPrefixOf_iff_prefix.1 comment
  have tab : Text.Blank.isBlank '\t' = true := by decide
  have slash : Text.Blank.isBlank '/' = false := by decide
  have trimmed : Text.Blank.trimStartChars row.toList = '/' :: '/' :: rest := by
    rw [← text]
    simp [Text.Blank.trimStartChars, tab, slash]
  have other : isNameChar '/' = false := by decide
  unfold declaresField
  dsimp only
  rw [trimmed, List.takeWhile_cons_of_neg (by simp [other])]
  rfl

private theorem rows_comment (mark text : String) (comment : isComment mark = true)
    (one : '\n' ∉ mark.toList) :
    ∃ first, isComment first = true ∧
      Text.Line.rows (mark ++ text) = first :: continuation text := by
  -- the mark goes into the first row, and into no other
  obtain ⟨first, more, cut, cut'⟩ := Text.Line.rows_append one text
  refine ⟨mark ++ first, ?_, by rw [cut', continuation, cut]; rfl⟩
  have front := List.isPrefixOf_iff_prefix.1 comment
  unfold isComment Text.Search.startsWith
  rw [String.toList_append]
  exact List.isPrefixOf_iff_prefix.2 (front.trans (List.prefix_append _ _))

end Rows

section Names

variable {c : Char} {text : String}

theorem isBlank_of_isNameChar (named : isNameChar c = true) : Text.Blank.isBlank c = false := by
  simp only [isNameChar, Bool.or_eq_true, Bool.and_eq_true, Bool.not_eq_eq_eq_not, Bool.not_true,
    beq_iff_eq] at named
  rcases named with (ascii | rfl) | ⟨-, plain⟩
  · have ranges := Text.Case.toNat_of_isAlphanum ascii
    refine Bool.eq_false_iff.2 fun blank => ?_
    simp only [Text.Blank.isBlank, Bool.or_eq_true, Bool.and_eq_true, decide_eq_true_eq,
      beq_iff_eq] at blank
    omega
  · decide
  · exact plain

theorem not_mem_of_isName (named : isName text = true) : '\n' ∉ text.toList := by
  intro feed
  have all := (Bool.and_eq_true_iff.1 named).2
  have own := List.all_eq_true.1 all _ feed
  revert own
  decide

/-- The row of a field. -/
def fieldRow (fieldName declaredType jsonName : String) : String :=
  "\t" ++ fieldName ++ " " ++ declaredType ++ " `json:\"" ++ jsonName ++ ",omitempty\"`"

theorem declaresField_fieldRow {fieldName : String} (named : isName fieldName = true)
    (declaredType jsonName : String) :
    declaresField (fieldRow fieldName declaredType jsonName) = true := by
  obtain ⟨filled, all⟩ := Bool.and_eq_true_iff.1 named
  have nonempty : fieldName.toList ≠ [] := by simpa using filled
  have chars := List.all_eq_true.1 all
  have tab : Text.Blank.isBlank '\t' = true := by decide
  have space : isNameChar ' ' = false := by decide
  obtain ⟨behind, whole, quote⟩ : ∃ behind, (fieldRow fieldName declaredType jsonName).toList =
      '\t' :: (fieldName.toList ++ ' ' :: behind) ∧ '`' ∈ behind := by
    refine ⟨(declaredType ++ " `json:\"" ++ jsonName ++ ",omitempty\"`").toList, ?_, ?_⟩
    · simp [fieldRow]
    · simp
  have trimmed : Text.Blank.trimStartChars (fieldRow fieldName declaredType jsonName).toList =
      fieldName.toList ++ ' ' :: behind := by
    obtain ⟨first, rest, split⟩ := List.exists_cons_of_ne_nil nonempty
    have inner : Text.Blank.isBlank first = false :=
      isBlank_of_isNameChar (chars first (by simp [split]))
    rw [Text.Blank.trimStartChars, whole, split]
    simp [tab, inner]
  unfold declaresField
  dsimp only
  rw [trimmed, List.takeWhile_append_of_pos chars, List.takeWhile_cons_of_neg (by simp [space]),
    List.dropWhile_append_of_pos chars, List.dropWhile_cons_of_neg (by simp [space])]
  have blank : Text.Blank.isBlank ' ' = true := by decide
  have other : Text.Blank.isBlank '`' = false := by decide
  simp only [List.append_nil, List.isEmpty_eq_false_iff.2 nonempty, Bool.not_false, List.head?_cons,
    Option.any_some, blank, Bool.true_and, List.any_cons, Bool.not_true, Bool.false_or]
  exact List.any_eq_true.2 ⟨_, quote, by simp [other]⟩

end Names

/-- The comment that a description makes. -/
def described (description : Option String) : List String :=
  match description with
  | some text => if text = "" then [] else ["\t// " ++ text]
  | none => []

theorem block_eq (fieldName declaredType jsonName protoPath : String) (description : Option String) :
    block fieldName declaredType jsonName protoPath description = Text.Line.ofRows
      (described description ++
        ["\t// +kcc:proto=" ++ protoPath, fieldRow fieldName declaredType jsonName]) :=
  rfl

/-- Rows that are comments but for what some text goes on with. -/
private structure Comments (rows more : List String) : Prop where
  all_iff : (∀ row ∈ rows, isComment row = true) ↔ ∀ row ∈ more, isComment row = true
  fields : rows.countP declaresField = more.countP declaresField

private theorem Comments.append {rows rows' more more' : List String} (h : Comments rows more)
    (h' : Comments rows' more') : Comments (rows ++ rows') (more ++ more') where
  all_iff := by rw [List.forall_mem_append, List.forall_mem_append, h.all_iff, h'.all_iff]
  fields := by rw [List.countP_append, List.countP_append, h.fields, h'.fields]

private theorem Comments.cons {first : String} (comment : isComment first = true)
    (more : List String) : Comments (first :: more) more where
  all_iff := by simp [comment]
  fields := List.countP_cons_of_neg (by simp [declaresField_of_isComment comment])

private theorem comments_described (description : Option String) :
    Comments ((described description).flatMap Text.Line.rows)
      (continuation (description.getD "")) := by
  have none_ : continuation "" = [] := continuation_of_not_mem (by simp)
  cases description with
  | none =>
    rw [Option.getD_none, none_]
    exact ⟨Iff.rfl, rfl⟩
  | some text =>
    by_cases empty : text = ""
    · rw [Option.getD_some, empty, none_]
      exact ⟨Iff.rfl, rfl⟩
    · obtain ⟨first, comment, rows⟩ := rows_comment "\t// " text (by decide) (by decide)
      rw [described, if_neg empty, List.flatMap_singleton, rows]
      exact .cons comment _

/-- A block is comments and the row of its field, as far as what its texts go on with is comments. -/
theorem rows_block {fieldName declaredType jsonName : String}
    (one : '\n' ∉ (fieldRow fieldName declaredType jsonName).toList) (protoPath : String)
    (description : Option String) :
    ∃ comments, Text.Line.rows (block fieldName declaredType jsonName protoPath description) =
        comments ++ [fieldRow fieldName declaredType jsonName] ∧
      ((∀ row ∈ comments, isComment row = true) ↔
        ∀ row ∈ continuation (description.getD "") ++ continuation protoPath, isComment row = true) ∧
      comments.countP declaresField =
        (continuation (description.getD "") ++ continuation protoPath).countP declaresField := by
  obtain ⟨first, comment, path⟩ := rows_comment "\t// +kcc:proto=" protoPath (by decide) (by decide)
  have comments := (comments_described description).append (.cons comment (continuation protoPath))
  refine ⟨_, ?_, comments.all_iff, comments.fields⟩
  rw [block_eq, Text.Line.rows_ofRows (by simp), List.flatMap_append, List.flatMap_cons, path,
    List.flatMap_singleton, Text.Line.rows_of_not_mem one]
  simp

variable {engine : Text.Glob.Engine} {d : Disk} {root : String} {base : Route} {r : Request}

/-- What the description and the proto path of a request go on with in further rows. -/
def Request.continuations (r : Request) : List String :=
  continuation (r.description.getD "") ++ continuation r.protoPath

theorem Request.continuations_of_not_mem
    (described : ∀ text, r.description = some text → '\n' ∉ text.toList)
    (path : '\n' ∉ r.protoPath.toList) : r.continuations = [] := by
  have description : '\n' ∉ (r.description.getD "").toList := by
    cases given : r.description with
    | none => simp
    | some text => exact described text given
  rw [continuations, continuation_of_not_mem description, continuation_of_not_mem path]
  rfl

/-- The resource, the field and its key are named as code and JSON name such things. -/
structure Request.Named (r : Request) : Prop where
  resource : isName r.resource = true
  field : isName r.fieldName = true
  json : ∀ key, r.jsonName = some key → isName key = true

private theorem Request.Named.one_row (named : r.Named) (kind : Kind) :
    '\n' ∉ (fieldRow r.fieldName (kind.declaredType r.resource r.fieldName)
      (r.jsonName.getD (Text.Case.uncapitalize r.fieldName))).toList := by
  have resource := not_mem_of_isName named.resource
  have field := not_mem_of_isName named.field
  have key : '\n' ∉ (r.jsonName.getD (Text.Case.uncapitalize r.fieldName)).toList := by
    cases given : r.jsonName with
    | none => exact fun mem => field (Text.Case.mem_of_mem_uncapitalize mem (by decide))
    | some key => exact not_mem_of_isName (named.json key given)
  cases kind <;> simp [fieldRow, Kind.declaredType, resource, field, key]

theorem countP_insertAt (place : Nat) (block : String) (content : String) (p : String → Bool) :
    (Text.Line.rows (Text.Line.ofRows (insertAt place block (Text.Line.rows content)))).countP p =
      (Text.Line.rows content).countP p + (Text.Line.rows block).countP p := by
  rw [rows_insertAt, List.countP_append, List.countP_append]
  conv => rhs; rw [← List.take_append_drop place (Text.Line.rows content), List.countP_append]
  omega

/-- An addition puts in rows of which the last declares the field. The others are comments where the
description and the proto path go on with comments only, as they do with nothing where they have one
row each; and any field that they go on with comes on top of the one that was asked for. -/
theorem add_declares_field (repo : Repository d root base) (named : r.Named) {text : String}
    {d' : Disk} (added : (add engine root r).perform d = (.ok text, d')) :
    ((∀ text, r.description = some text → '\n' ∉ text.toList) → '\n' ∉ r.protoPath.toList →
      r.continuations = []) ∧
    ∃ a : Addition engine root base r text d d', ∃ comments field,
      let changed := Text.Line.ofRows (a.site.withBlock (r.block a.kind))
      Text.Line.rows (r.block a.kind) = comments ++ [field] ∧ declaresField field = true ∧
      ((∀ row ∈ comments, isComment row = true) ↔
        ∀ row ∈ r.continuations, isComment row = true) ∧
      (Text.Line.rows changed).countP declaresField =
        (Text.Line.rows a.content).countP declaresField + 1 +
          r.continuations.countP declaresField := by
  obtain ⟨a⟩ := addition_of_ok repo added
  obtain ⟨comments, rows, all_iff, fields⟩ := rows_block (named.one_row a.kind) r.protoPath
    r.description
  have declares := declaresField_fieldRow named.field (a.kind.declaredType r.resource r.fieldName)
    (r.jsonName.getD (Text.Case.uncapitalize r.fieldName))
  refine ⟨Request.continuations_of_not_mem, a, comments, _, rows, declares, all_iff, ?_⟩
  have counted := countP_insertAt a.site.place (r.block a.kind) a.content declaresField
  rw [a.rows_eq, a.site.insertAt_place, ← a.rows_eq] at counted
  have block : (Text.Line.rows (r.block a.kind)).countP declaresField =
      comments.countP declaresField + 1 := by
    rw [Request.block, rows, List.countP_append, List.countP_singleton, if_pos declares]
  rw [counted, block, fields, Request.continuations]
  omega

/-- The size with a description. -/
def sizeRequestWith (description : String) : Request :=
  { sizeRequest with description := some description }

/-- A description of two rows, the second with a mark of its own, comes with one field. -/
theorem add_declares_size :
    let d := withTypes "type DiskSpec struct \x7b\n\x7d\n"
    let r := sizeRequestWith "The size,\n\t// in bytes."
    Repository d "/repo" ["repo"] ∧ r.Named ∧
      ∃ text d', (add .unlimited "/repo" r).perform d = (.ok text, d') ∧
      ∃ a : Addition .unlimited "/repo" ["repo"] r text d d',
        (Text.Line.rows (Text.Line.ofRows (a.site.withBlock (r.block a.kind)))).countP declaresField =
          (Text.Line.rows a.content).countP declaresField + 1 := by
  intro d r
  have repo : Repository d "/repo" ["repo"] := by decide +kernel
  have named : r.Named := ⟨by decide, by decide, nofun⟩
  obtain ⟨text, d', added⟩ := Action.exists_of_isOk
    (by decide +kernel : ((add .unlimited "/repo" r).perform d).1.isOk = true)
  obtain ⟨-, a, -, -, -, -, -, counted⟩ := add_declares_field repo named added
  have comments : r.continuations.countP declaresField = 0 := by decide +kernel
  exact ⟨repo, named, text, d', added, a, by rw [counted, comments]⟩

/-- The second row of a description declares a field of its own. -/
theorem add_declares_two :
    let d := withTypes "type DiskSpec struct \x7b\n\x7d\n"
    let r := sizeRequestWith "The size.\n\tExtra *string `json:\"extra\"`"
    let changed := "type DiskSpec struct \x7b\n\t// The size.\n\tExtra *string `json:\"extra\"`\n" ++
      "\t// +kcc:proto=a.Disk.size\n\tSize *int64 `json:\"size,omitempty\"`\n\x7d\n"
    Repository d "/repo" ["repo"] ∧ r.Named ∧
      ((add .unlimited "/repo" r).perform d).1.isOk = true ∧
      ((add .unlimited "/repo" r).perform d).2.tree.lookup? ["repo", "disk_types.go"] =
        some (.file changed.toUTF8 false) ∧
      (Text.Line.rows changed).countP declaresField =
        (Text.Line.rows "type DiskSpec struct \x7b\n\x7d\n").countP declaresField + 2 := by
  intro d r changed
  refine ⟨by decide +kernel, ⟨by decide, by decide, nofun⟩, ?_⟩
  decide +kernel

end ConnectorKit.Field
