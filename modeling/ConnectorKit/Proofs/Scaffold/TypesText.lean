import ConnectorKit.Proofs.Field.Place
import ConnectorKit.Proofs.Scaffold.Placement
import ConnectorKit.Proofs.Text.Template

/-!
The text of a scaffolded types file, row by row down to the end of its spec. Nothing above the spec
reads as the header of it, nothing inside reads as its end, and its last field has a tag; so that is
what a new field comes after.
-/

set_option autoImplicit false
set_option relaxedAutoImplicit false

namespace ConnectorKit.Scaffold

open Text.Template (Renders RowsRender render slot)

/-- A row of its own that opens nothing. -/
def Flat (row : String) : Prop :=
  '\n' ∉ row.toList ∧ '{' ∉ row.toList

theorem Flat.literal {chars : List Char} (flat : chars.all (fun c => c != '\n' && c != '{') = true) :
    Flat (String.ofList chars) := by
  simp only [List.all_eq_true, Bool.and_eq_true, bne_iff_ne] at flat
  rw [Flat, String.toList_ofList]
  exact ⟨fun mem => (flat _ mem).1 rfl, fun mem => (flat _ mem).2 rfl⟩

/-- What the slots of a types file stand for. -/
structure TypesValues where
  version : String
  kind : String
  resource : String
  description : String
  package : String
  message : String

namespace TypesValues

/-- The slots themselves. -/
def slots : TypesValues where
  version := slot "version"
  kind := slot "kind"
  resource := slot "resource"
  description := slot "description"
  package := slot "proto_package"
  message := slot "proto_message"

/-- The imports, with an empty row before them and behind. -/
def imports : List String :=
  ["",
   "import (",
   "\t\"github.com/GoogleCloudPlatform/k8s-config-connector/pkg/apis/k8s/v1alpha1\"",
   "\tmetav1 \"k8s.io/apimachinery/pkg/apis/meta/v1\"",
   ")",
   ""]

/-- The fields of every spec but the last, with the comments around them. -/
def references : List String :=
  ["\t// Description *string `json:\"description,omitempty\"`",
   "",
   "\t// Immutable. The Project that this resource belongs to.",
   "\t// +required",
   "\tProjectRef *v1alpha1.ProjectRef `json:\"projectRef\"`",
   "",
   "\t// Immutable. The location for the resource.",
   "\t// +required",
   "\tLocation string `json:\"location\"`",
   ""]

/-- The last field of a scaffolded spec. -/
def resourceIdRow : String :=
  "\tResourceID *string `json:\"resourceID,omitempty\"`"

variable (v : TypesValues)

/-- The rows above the spec. -/
def lead : List String :=
  "" :: ("package " ++ v.version) :: (imports ++
    ["var " ++ v.kind ++ "GVK = GroupVersion.WithKind(\"" ++ v.kind ++ "\")",
     "",
     "// " ++ v.resource ++ "Spec defines the desired state of " ++ v.resource ++ ".",
     "// " ++ v.description,
     "// +kcc:proto=" ++ v.package ++ "." ++ v.message])

def opening : String :=
  "type " ++ v.resource ++ "Spec struct \x7b"

/-- The rows of the spec above its last field. -/
def comments : List String :=
  "\t// Add fields with their +kcc:proto= annotations, for example:" ::
  ("\t// // +kcc:proto=" ++ v.package ++ "." ++ v.message ++ ".description") :: (references ++
    ["\t// The " ++ v.resource ++ " name. If not given, the metadata.name will be used.",
     "\t// +optional"])

/-- The rows down to the end of the spec. -/
def rows : List String :=
  v.lead ++ v.opening :: (v.comments ++ [resourceIdRow, "\x7d"])

theorem typesTemplate_eq : ∃ rest, rest ≠ [] ∧
    typesTemplate = Text.Line.ofRows (slots.rows ++ rest) :=
  ⟨_, by simp, rfl⟩

variable {v} {bindings : List (String × String)}

theorem imports_flat : ∀ row ∈ imports, Flat row := by
  simp only [imports, List.forall_mem_cons]
  exact ⟨.literal rfl, .literal rfl, .literal rfl, .literal rfl, .literal rfl, .literal rfl,
    List.forall_mem_nil _⟩

theorem references_flat : ∀ row ∈ references, Flat row := by
  simp only [references, List.forall_mem_cons]
  exact ⟨.literal rfl, .literal rfl, .literal rfl, .literal rfl, .literal rfl, .literal rfl,
    .literal rfl, .literal rfl, .literal rfl, .literal rfl, List.forall_mem_nil _⟩

/-- The slots come out as the values. -/
structure Bound (bindings : List (String × String)) (v : TypesValues) : Prop where
  version : Renders bindings slots.version v.version
  kind : Renders bindings slots.kind v.kind
  resource : Renders bindings slots.resource v.resource
  description : Renders bindings slots.description v.description
  package : Renders bindings slots.package v.package
  message : Renders bindings slots.message v.message

namespace Bound

private theorem lead (bound : Bound bindings v) : RowsRender bindings slots.lead v.lead := by
  have imported : RowsRender bindings imports imports :=
    Text.Template.rowsRender_of_plain fun row mem => (imports_flat row mem).2
  unfold TypesValues.lead
  refine .cons ?_ (.cons ?_ (List.rel_append imported
    (.cons ?_ (.cons ?_ (.cons ?_ (.cons ?_ (.cons ?_ .nil)))))))
  · exact .row (.literal (by decide))
  · exact .row (.append (.literal (by decide)) bound.version)
  · exact .row (.append_literal (.append (.append_literal (.append (.literal (by decide)) bound.kind)
      (by decide)) bound.kind) (by decide))
  · exact .row (.literal (by decide))
  · exact .row (.append_literal (.append (.append_literal (.append (.literal (by decide)) bound.resource)
      (by decide)) bound.resource) (by decide))
  · exact .row (.append (.literal (by decide)) bound.description)
  · exact .row (.append (.append_literal (.append (.literal (by decide)) bound.package) (by decide))
      bound.message)

private theorem comments (bound : Bound bindings v) :
    RowsRender bindings slots.comments v.comments := by
  have referred : RowsRender bindings references references :=
    Text.Template.rowsRender_of_plain fun row mem => (references_flat row mem).2
  unfold TypesValues.comments
  refine .cons ?_ (.cons ?_ (List.rel_append referred (.cons ?_ (.cons ?_ .nil))))
  · exact .row (.literal (by decide))
  · exact .row (.append_literal (.append (.append_literal (.append (.literal (by decide)) bound.package)
      (by decide)) bound.message) (by decide))
  · exact .row (.append_literal (.append (.literal (by decide)) bound.resource) (by decide))
  · exact .row (.literal (by decide))

private theorem opening (bound : Bound bindings v) :
    Renders bindings (slots.opening ++ "\n") (v.opening ++ "\n") := by
  have cut (name : String) : "type " ++ name ++ "Spec struct \x7b" ++ "\n" =
      "type " ++ name ++ "Spec struct " ++ "\x7b\n" := by
    have brace : "Spec struct \x7b" ++ "\n" = "Spec struct " ++ "\x7b\n" := by decide
    rw [String.append_assoc, brace, ← String.append_assoc]
  unfold TypesValues.opening
  rw [cut, cut]
  exact .append (.append_literal (.append (.literal (by decide)) bound.resource) (by decide)) .brace

theorem rows (bound : Bound bindings v) : RowsRender bindings slots.rows v.rows := by
  have ending : RowsRender bindings [resourceIdRow, "\x7d"] [resourceIdRow, "\x7d"] :=
    Text.Template.rowsRender_of_plain (by simp [resourceIdRow])
  exact List.rel_append bound.lead (.cons bound.opening (List.rel_append bound.comments ending))

end Bound

section Tame

/-- The values are of one row each, the names are without braces, and no struct opens in the others. -/
structure Tame (v : TypesValues) : Prop where
  oneRow : ∀ value ∈ [v.version, v.kind, v.resource, v.description, v.package, v.message],
    '\n' ∉ value.toList
  unbraced : ∀ value ∈ [v.version, v.kind, v.resource], '{' ∉ value.toList
  unopened : ∀ value ∈ [v.description, v.package, v.message],
    ¬ "struct \x7b".toList <:+: value.toList

private theorem contains_header_of_not_mem {row parent : String} (unbraced : '{' ∉ row.toList) :
    Text.Search.contains row (Field.header parent) = false := by
  refine Bool.eq_false_iff.2 fun inside => unbraced ?_
  exact (Text.Search.contains_iff.1 inside).subset (by simp [Field.header])

private theorem contains_header_of_not_infix {row parent : String}
    (unopened : ¬ "struct \x7b".toList <:+: row.toList) :
    Text.Search.contains row (Field.header parent) = false :=
  Field.contains_header_of_not_infix (fun inside => unopened (Field.infix_of_opener inside)) parent

theorem Tame.lead (tame : v.Tame) (parent : String) :
    ∀ row ∈ v.lead, Text.Search.contains row (Field.header parent) = false := by
  have unbraced := tame.unbraced
  have unopened := tame.unopened
  simp only [List.forall_mem_cons] at unbraced unopened
  have start : ("struct \x7b" : String).toList.head? = some 's' := by decide
  have undotted : '.' ∉ ("struct \x7b" : String).toList := by decide
  -- no header starts before a value, where there is no `s`
  have described : ¬ "struct \x7b".toList <:+: ("// " ++ v.description).toList := by
    intro inside
    rw [String.toList_append] at inside
    exact unopened.1 (Text.Search.infix_of_head (c := 's') start (by simp) inside)
  have proto : ¬ "struct \x7b".toList <:+:
      ("// +kcc:proto=" ++ v.package ++ "." ++ v.message).toList := by
    intro inside
    have whole : ("// +kcc:proto=" ++ v.package ++ "." ++ v.message).toList =
        "// +kcc:proto=".toList ++ (v.package.toList ++ '.' :: v.message.toList) := by
      simp
    rw [whole] at inside
    rcases Text.Search.infix_append_cons undotted
      (Text.Search.infix_of_head (c := 's') start (by simp) inside) with package | message
    · exact unopened.2.1 package
    · exact unopened.2.2.1 message
  unfold TypesValues.lead
  simp only [List.forall_mem_cons, List.forall_mem_append]
  refine ⟨?_, ?_, fun row mem => contains_header_of_not_mem (imports_flat row mem).2, ?_, ?_, ?_,
    contains_header_of_not_infix described, contains_header_of_not_infix proto,
    List.forall_mem_nil _⟩ <;>
  · refine contains_header_of_not_mem ?_
    simp [unbraced]

theorem isClosing_comments (v : TypesValues) :
    ∀ row ∈ v.comments ++ [resourceIdRow], Field.isClosing row = false := by
  have comment {row : String} (mem : '/' ∈ row.toList) : Field.isClosing row = false :=
    Field.isClosing_of_mem mem (by decide) (by decide)
  have field {row : String} (mem : '`' ∈ row.toList) : Field.isClosing row = false :=
    Field.isClosing_of_mem mem (by decide) (by decide)
  have blank : Field.isClosing "" = false := by decide
  have literal {c : Char} {chars : List Char} (mem : c ∈ chars) : c ∈ (String.ofList chars).toList := by
    rwa [String.toList_ofList]
  have ahead {c : Char} {front rest : String} (mem : c ∈ front.toList) :
      c ∈ (front ++ rest).toList := by
    rw [String.toList_append]
    exact List.mem_append_left _ mem
  simp only [comments, references, List.cons_append, List.nil_append, List.forall_mem_cons]
  exact ⟨comment (literal (by decide)), comment (ahead (ahead (ahead (ahead (literal (by decide)))))),
    comment (literal (by decide)), blank, comment (literal (by decide)),
    comment (literal (by decide)), field (literal (by decide)), blank, comment (literal (by decide)),
    comment (literal (by decide)), field (literal (by decide)), blank,
    comment (ahead (ahead (literal (by decide)))), comment (literal (by decide)),
    field (literal (by decide)), List.forall_mem_nil _⟩

theorem Tame.rows (tame : v.Tame) : ∀ row ∈ v.rows, '\n' ∉ row.toList := by
  have oneRow := tame.oneRow
  simp only [List.forall_mem_cons] at oneRow
  obtain ⟨version, kind, resource, description, package, message, -⟩ := oneRow
  have literal {chars : List Char} (free : '\n' ∉ chars) : '\n' ∉ (String.ofList chars).toList := by
    rwa [String.toList_ofList]
  have append {front back : String} (first : '\n' ∉ front.toList) (second : '\n' ∉ back.toList) :
      '\n' ∉ (front ++ back).toList := by
    rw [String.toList_append]
    exact List.not_mem_append first second
  have behind {front : String} (first : '\n' ∉ front.toList) {chars : List Char}
      (free : '\n' ∉ chars) : '\n' ∉ (front ++ String.ofList chars).toList :=
    append first (literal free)
  have lead : ∀ row ∈ v.lead, '\n' ∉ row.toList := by
    simp only [TypesValues.lead, List.forall_mem_cons, List.forall_mem_append]
    exact ⟨literal (by decide), append (literal (by decide)) version,
      fun row mem => (imports_flat row mem).1,
      behind (append (behind (append (literal (by decide)) kind) (by decide)) kind) (by decide),
      literal (by decide),
      behind (append (behind (append (literal (by decide)) resource) (by decide)) resource)
        (by decide),
      append (literal (by decide)) description,
      append (behind (append (literal (by decide)) package) (by decide)) message,
      List.forall_mem_nil _⟩
  have comments : ∀ row ∈ v.comments, '\n' ∉ row.toList := by
    simp only [TypesValues.comments, List.forall_mem_cons, List.forall_mem_append]
    exact ⟨literal (by decide),
      behind (append (behind (append (literal (by decide)) package) (by decide)) message)
        (by decide),
      fun row mem => (references_flat row mem).1,
      behind (append (literal (by decide)) resource) (by decide), literal (by decide),
      List.forall_mem_nil _⟩
  simp only [TypesValues.rows, List.forall_mem_cons, List.forall_mem_append]
  exact ⟨lead, behind (append (literal (by decide)) resource) (by decide), comments,
    literal (by decide), literal (by decide), List.forall_mem_nil _⟩

end Tame

end TypesValues

section License

private theorem licenseTemplate_eq : ∃ terms, (∀ row ∈ terms, Flat row) ∧ licenseTemplate =
    Text.Line.ofRows (("// Copyright " ++ slot "year" ++ " Google LLC") :: terms ++ [""]) := by
  refine ⟨[_, _, _, _, _, _, _, _, _, _, _, _], ?_, rfl⟩
  simp only [List.forall_mem_cons]
  exact ⟨.literal rfl, .literal rfl, .literal rfl, .literal rfl, .literal rfl, .literal rfl,
    .literal rfl, .literal rfl, .literal rfl, .literal rfl, .literal rfl, .literal rfl,
    List.forall_mem_nil _⟩

theorem licenseHeader_eq (year : Nat) : ∃ rows, rows ≠ [] ∧ (∀ row ∈ rows, Flat row) ∧
    licenseHeader year = Text.Line.ofRows (rows ++ [""]) := by
  obtain ⟨terms, flat, template⟩ := licenseTemplate_eq
  have digits : ∀ c ∈ (toString year).toList, c.isDigit = true := by
    intro c mem
    rw [Nat.toString_eq_repr, Nat.repr_eq_ofList_toDigits, String.toList_ofList] at mem
    exact Nat.isDigit_of_mem_toDigits (by decide) (by decide) mem
  have feed : '\n' ∉ (toString year).toList := fun mem => absurd (digits _ mem) (by decide)
  have brace : '{' ∉ (toString year).toList := fun mem => absurd (digits _ mem) (by decide)
  have filled : Renders [("year", toString year)] (slot "year") (toString year) :=
    .slot (by simp) rfl
  have last : render (Text.Line.ofRows [""]) [("year", toString year)] = "" := rfl
  rw [licenseHeader, template]
  generalize toString year = written at feed brace filled last
  have rows : RowsRender [("year", written)]
      (("// Copyright " ++ slot "year" ++ " Google LLC") :: terms)
      (("// Copyright " ++ written ++ " Google LLC") :: terms) :=
    .cons (.row (.append_literal (.append (.literal (by decide)) filled) (by decide)))
      (Text.Template.rowsRender_of_plain fun row mem => (flat row mem).2)
  have own : Flat ("// Copyright " ++ written ++ " Google LLC") := by
    simp [Flat, feed, brace]
  exact ⟨_, List.cons_ne_nil _ _, List.forall_mem_cons.2 ⟨own, flat⟩, by
    rw [Text.Template.render_ofRows rows (by simp), last]⟩

end License

section Text

variable {v : TypesValues}

/-- The rows of a types file, as far as they matter for a new field. -/
theorem rows_typesText (year : Nat) {bindings : List (String × String)} (bound : v.Bound bindings)
    (tame : v.Tame) : ∃ front rest, (∀ row ∈ front, Flat row) ∧
      Text.Line.rows (licenseHeader year ++ render typesTemplate bindings) =
        front ++ (v.rows ++ rest) := by
  obtain ⟨rest, more, template⟩ := TypesValues.typesTemplate_eq
  obtain ⟨front, some_, flat, header⟩ := licenseHeader_eq year
  refine ⟨front, Text.Line.rows (render (Text.Line.ofRows rest) bindings), flat, ?_⟩
  rw [template, Text.Template.render_ofRows bound.rows more, header,
    Text.Line.ofRows_append some_ (by simp), Text.Line.rows_ofRows (by simp),
    List.flatMap_append, List.flatMap_append, List.flatMap_singleton,
    Text.Line.flatMap_rows_of_not_mem fun row mem => (flat row mem).1,
    Text.Line.flatMap_rows_of_not_mem tame.rows]

/-- A site in a spec directly behind its last field, the identifier of the resource. -/
structure BehindIdentifier {parent : String} (site : Field.Site parent) : Prop where
  opening : site.opening = Field.header parent
  before : ∃ rows, site.before = rows ++ [TypesValues.resourceIdRow]
  after : site.after = []
  closing : site.closing = "\x7d"

theorem TypesValues.exists_site (tame : v.Tame) {front : List String}
    (flat : ∀ row ∈ front, Flat row) (rest : List String) :
    ∃ site : Field.Site (v.resource ++ "Spec"),
      site.rows = front ++ (v.rows ++ rest) ∧ BehindIdentifier site := by
  have opening : v.opening = Field.header (v.resource ++ "Spec") := by
    refine String.toList_inj.1 ?_
    simp [TypesValues.opening, Field.header]
  have first : ∀ row ∈ front ++ v.lead,
      Text.Search.contains row (Field.header (v.resource ++ "Spec")) = false :=
    List.forall_mem_append.2
      ⟨fun row mem => contains_header_of_not_mem (flat row mem).2, tame.lead _⟩
  refine ⟨{
    front := front ++ v.lead
    opening := v.opening
    before := v.comments ++ [resourceIdRow]
    after := []
    closing := "\x7d"
    rest, first
    opens := ?_
    inner := ?_
    closes := by decide
    untagged := List.forall_mem_nil _
    last := .inl ⟨v.comments, resourceIdRow, rfl, by decide⟩ }, ?_, opening, ⟨_, rfl⟩, rfl, rfl⟩
  · rw [opening]
    exact Text.Search.contains_iff.2 List.infix_rfl
  · rw [List.append_nil]
    exact v.isClosing_comments
  · simp [Field.Site.rows, TypesValues.rows]

end Text

section Request

/-- ASCII letters and digits. -/
def Alphanumeric (text : String) : Prop :=
  ∀ c ∈ text.toList, c.isAlphanum = true

instance (text : String) : Decidable (Alphanumeric text) :=
  decidable_of_iff (text.toList.all Char.isAlphanum = true) List.all_eq_true

variable {text front back : String}

theorem Alphanumeric.feed (h : Alphanumeric text) : '\n' ∉ text.toList :=
  fun mem => absurd (h _ mem) (by decide)

theorem Alphanumeric.brace (h : Alphanumeric text) : '{' ∉ text.toList :=
  fun mem => absurd (h _ mem) (by decide)

theorem Alphanumeric.append (h : Alphanumeric front) (h' : Alphanumeric back) :
    Alphanumeric (front ++ back) := by
  intro c mem
  rw [String.toList_append] at mem
  exact (List.mem_append.1 mem).elim (h c) (h' c)

theorem Alphanumeric.capitalize (h : Alphanumeric text) :
    Alphanumeric (Text.Case.capitalize text) := by
  intro c mem
  rw [Text.Case.capitalize, String.toList_ofList] at mem
  unfold Alphanumeric at h
  cases chars : text.toList with
  | nil =>
    rw [chars] at mem
    cases mem
  | cons first rest =>
    rw [chars] at mem h
    rcases List.mem_append.1 mem with start | later
    · exact Text.Case.isAlphanum_of_mem_upperChar start (h first List.mem_cons_self)
    · exact h c (List.mem_cons_of_mem _ later)

theorem Alphanumeric.lower (h : Alphanumeric text) : Alphanumeric (Text.Case.lower text) := by
  intro c mem
  rw [Text.Case.lower, String.toList_ofList] at mem
  exact Text.Case.isAlphanum_of_mem_lowerChars mem h

/-- A text of one row in which no struct opens. -/
structure Quiet (text : String) : Prop where
  oneRow : '\n' ∉ text.toList
  unopened : ¬ "struct \x7b".toList <:+: text.toList

theorem quiet_of_flat (flat : Flat text) : Quiet text :=
  ⟨flat.1, fun inside => flat.2 (inside.subset (by simp))⟩

namespace TypesRequest

variable {r : TypesRequest} {names : Names}

def values (r : TypesRequest) (names : Names) : TypesValues where
  version := r.version
  kind := names.kind
  resource := names.resource
  description := r.describe
  package := r.protoPackage
  message := r.protoMessage

theorem bound (r : TypesRequest) (names : Names) : (r.values names).Bound (r.bindings names) where
  version := .slot (by simp) rfl
  kind := .slot (by simp) rfl
  resource := .slot (by simp) rfl
  description := .slot (by simp) rfl
  package := .slot (by simp) rfl
  message := .slot (by simp) rfl

/-- Names of letters and digits, and the other texts of one row each in which no struct opens. -/
structure Plain (r : TypesRequest) : Prop where
  resource : Alphanumeric r.resource
  service : Alphanumeric r.service
  version : Alphanumeric r.version
  package : Quiet r.protoPackage
  message : Quiet r.protoMessage
  description : ∀ text, r.description = some text → Quiet text

theorem Plain.describe (plain : r.Plain) : Quiet r.describe := by
  have default : Quiet (r.resource ++ " resource") :=
    quiet_of_flat ⟨by simp [plain.resource.feed], by simp [plain.resource.brace]⟩
  unfold TypesRequest.describe
  cases given : r.description with
  | none => exact default
  | some text =>
    rw [Option.bind_some, Text.Blank.filled?]
    split
    · exact default
    · exact plain.description text given

theorem Plain.tame (plain : r.Plain) (named : Names.of r.resource r.service = .ok names) :
    (r.values names).Tame := by
  obtain ⟨-, -, rfl⟩ := Names.of_ok named
  have kind := plain.service.capitalize.append plain.resource
  refine ⟨?_, ?_, ?_⟩
  · simp only [values, List.forall_mem_cons]
    exact ⟨plain.version.feed, kind.feed, plain.resource.feed, plain.describe.oneRow,
      plain.package.oneRow, plain.message.oneRow, List.forall_mem_nil _⟩
  · simp only [values, List.forall_mem_cons]
    exact ⟨plain.version.brace, kind.brace, plain.resource.brace, List.forall_mem_nil _⟩
  · simp only [values, List.forall_mem_cons]
    exact ⟨plain.describe.unopened, plain.package.unopened, plain.message.unopened,
      List.forall_mem_nil _⟩

/-- In the text of a request a field of the spec goes behind the identifier. -/
theorem Plain.exists_site (plain : r.Plain) {year : Nat} {s : Skeleton}
    (given : r.skeleton year = .ok s) : ∃ site : Field.Site (r.resource ++ "Spec"),
      Text.Line.rows s.content = site.rows ∧ BehindIdentifier site := by
  obtain ⟨names, named, given⟩ := bind_ok given
  obtain ⟨⟨⟩, -, given⟩ := bind_ok given
  have tame := plain.tame named
  obtain ⟨-, -, rfl⟩ := Names.of_ok named
  cases given
  obtain ⟨front, rest, flat, text⟩ := rows_typesText year (r.bound _) tame
  obtain ⟨site, rows, behind⟩ := TypesValues.exists_site tame flat rest
  exact ⟨site, text.trans rows.symm, behind⟩

end TypesRequest

end Request

end ConnectorKit.Scaffold
