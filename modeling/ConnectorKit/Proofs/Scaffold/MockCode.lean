import ConnectorKit.Proofs.Scaffold.Creation
import ConnectorKit.Proofs.Scaffold.Printer
import ConnectorKit.Scaffold.Mock

/-!
The code of a mock server for the names of its resource, as it is written and as it runs: a printer,
and a parser that checks the parts of a text and takes three of them by their positions. Which part
it takes as the identifier depends on the length of the format only; whether that part is the
placeholder of the resource is not checked.
-/

set_option autoImplicit false
set_option relaxedAutoImplicit false

namespace ConnectorKit.Scaffold

open NameFormat (collection? isLocated isPlaceholder literalChecks placeholder segments tokenCheck)
open Text.Template (Renders RowsRender closes render slot)

/-- A comparison in the condition of a parser: how many tokens there are, or what one of them is. -/
inductive Test where
  | count (n : Nat)
  | token (position : Nat) (text : String)
  deriving DecidableEq, Repr

namespace Test

def text : Test → String
  | count n => "len(tokens) == " ++ toString n
  | token position text => "tokens[" ++ toString position ++ "] == \"" ++ text ++ "\""

/-- Whether the comparison holds. There is no answer for a position behind the last token. -/
def holds? (tokens : List String) : Test → Option Bool
  | count n => some (tokens.length = n)
  | token position text => tokens[position]?.map (· = text)

/-- Whether all comparisons hold. They are made in order, up to the first that does not. -/
def allHold? (tokens : List String) : List Test → Option Bool
  | [] => some true
  | test :: rest =>
    match test.holds? tokens with
    | some true => allHold? tokens rest
    | told => told

/-- The tests of the literal segments, the first of which stands at the position. -/
def literals (position : Nat) : List String → List Test
  | [] => []
  | segment :: rest =>
    (if isPlaceholder segment then [] else [token position segment]) ++
      literals (position + 1) rest

theorem mem_of_mem_literals {position place : Nat} {text : String} {parts : List String}
    (mem : token place text ∈ literals position parts) : text ∈ parts := by
  induction parts generalizing position with
  | nil => cases mem
  | cons part rest ih =>
    rcases List.mem_append.1 mem with here | later
    · split at here
      · cases here
      · cases List.mem_singleton.1 here
        exact List.mem_cons_self
    · exact List.mem_cons_of_mem _ (ih later)

theorem map_text_literals (position : Nat) (parts : List String) :
    (literals position parts).map text = literalChecks position parts := by
  induction parts generalizing position with
  | nil => rfl
  | cons part rest ih =>
    rw [literals, literalChecks, List.map_append, ih]
    cases isPlaceholder part <;> rfl

/-- The tests for a format. -/
def ofFormat (format : String) : List Test :=
  count (segments format).length :: literals 0 (segments format)

theorem intercalate_ofFormat (format : String) :
    " && ".intercalate ((ofFormat format).map text) = tokenCheck format := by
  rw [ofFormat, List.map_cons, map_text_literals]
  rfl

end Test

/-- The name of a resource in a mock server. -/
structure Name (Project : Type) where
  project : Project
  location : Option String
  id : String
  deriving DecidableEq, Repr

/-- How a call of the parser ends. -/
inductive Parsed (Project : Type) where
  | name (n : Name Project)
  | error
  | panic
  deriving DecidableEq, Repr

/-- The code for names: the printer, and of the parser the tests and the positions it takes. -/
structure NameCode where
  server : String
  message : String
  /-- What the comment says of the format. -/
  comment : String
  call : PrintCall
  tests : List Test
  project : Nat
  location : Option Nat
  id : Nat
  deriving DecidableEq, Repr

namespace NameCode

section Run

variable {Project : Type}

/-- The result of the printer for a format and the values of its operands, where these fit. -/
def sprintf? : List Char → List String → Option (List Char)
  | '%' :: 's' :: rest, value :: values => (sprintf? rest values).map (value.toList ++ ·)
  | '%' :: _, _ => none
  | c :: rest, values => (sprintf? rest values).map (c :: ·)
  | [], [] => some []
  | [], _ :: _ => none

theorem sprintf?_verb (rest : List Char) (value : String) (values : List String) :
    sprintf? (NameFormat.verb ++ rest) (value :: values) =
      (sprintf? rest values).map (value.toList ++ ·) :=
  sprintf?.eq_1 rest value values

theorem sprintf?_append {front : List Char} (plain : '%' ∉ front) (rest : List Char)
    (values : List String) : sprintf? (front ++ rest) values = (sprintf? rest values).map (front ++ ·) := by
  induction front with
  | nil => simp
  | cons c front ih =>
    obtain ⟨other, later⟩ := List.ne_and_not_mem_of_not_mem_cons plain
    rw [List.cons_append, sprintf?.eq_3 _ _ _ (Ne.symm other), ih later, Option.map_map]
    · rfl
    · exact fun _ _ _ _ percent _ => other percent.symm

/-- The value of an operand, where the name has one. -/
def value? (idOf : Project → String) (n : Name Project) : Operand → Option String
  | .project => some (idOf n.project)
  | .location => n.location
  | .id => some n.id

def print? (code : NameCode) (idOf : Project → String) (n : Name Project) : Option String := do
  let values ← code.call.operands.mapM (value? idOf n)
  let text ← sprintf? code.call.format.toList values
  return String.ofList text

/-- The name that tokens give, `find` being the lookup of a project by its identifier. -/
def take (code : NameCode) (find : String → Option Project) (tokens : List String) :
    Parsed Project :=
  match tokens[code.project]? with
  | none => .panic
  | some own =>
    match find own with
    | none => .error
    | some project =>
      match code.location.mapM (tokens[·]?), tokens[code.id]? with
      | some location, some id => .name ⟨project, location, id⟩
      | _, _ => .panic

def parse (code : NameCode) (find : String → Option Project) (text : String) : Parsed Project :=
  let tokens := Text.Search.split '/' text
  match Test.allHold? tokens code.tests with
  | none => .panic
  | some false => .error
  | some true => code.take find tokens

end Run

/-- What is written between quotation marks is as it is read, and the comment is of one row. -/
structure Legible (code : NameCode) : Prop where
  comment : '\n' ∉ code.comment.toList
  format : ∀ c ∈ ['"', '\\', '\n'], c ∉ code.call.format.toList
  tests : ∀ position text, .token position text ∈ code.tests →
    ∀ c ∈ ['"', '\\', '\n'], c ∉ text.toList

section Text

/-- The texts in the code for names. -/
structure Texts where
  server : String
  message : String
  comment : String
  call : String
  condition : String
  project : String
  field : String
  location : String
  id : String

/-- The rows of the code: the type of names, the printer and the parser. -/
def Texts.rows (t : Texts) : List String :=
  ["type " ++ t.message ++ "Name struct \x7b",
   "\tProject *projects.ProjectData" ++ t.field,
   "\tID      string",
   "\x7d",
   "",
   "// Format: " ++ t.comment,
   "func (n *" ++ t.message ++ "Name) String() string \x7b",
   "\treturn " ++ t.call,
   "\x7d",
   "",
   "// parse" ++ t.message ++ "Name parses a string into a " ++ t.message ++ "Name.",
   "func (s *" ++ t.server ++ ") parse" ++ t.message ++ "Name(name string) (*" ++ t.message ++
     "Name, error) \x7b",
   "\ttokens := strings.Split(name, \"/\")",
   "\tif " ++ t.condition ++ " \x7b",
   "\t\tproject, err := s.Projects.GetProjectByID(tokens[" ++ t.project ++ "])",
   "\t\tif err != nil \x7b",
   "\t\t\treturn nil, err",
   "\t\t\x7d",
   "\t\treturn &" ++ t.message ++ "Name\x7b",
   "\t\t\tProject: project," ++ t.location,
   "\t\t\tID:      tokens[" ++ t.id ++ "],",
   "\t\t\x7d, nil",
   "\t\x7d",
   "\treturn nil, status.Errorf(codes.InvalidArgument, \"name %q is not valid\", name)",
   "\x7d"]

/-- The slots of the template. -/
def Texts.slots : Texts where
  server := slot "server"
  message := slot "message"
  comment := slot "name_format"
  call := "fmt.Sprintf(\"" ++ slot "sprintf_format" ++ "\", " ++ slot "format_args" ++ ")"
  condition := slot "token_check"
  project := "1"
  field := slot "location_field"
  location := slot "location_value"
  id := slot "id_index"

/-- How the printer refers to what a name is made of. -/
def expression : Operand → String
  | .project => "n.Project.ID"
  | .location => "n.Location"
  | .id => "n.ID"

def texts (code : NameCode) : Texts where
  server := code.server
  message := code.message
  comment := code.comment
  call := code.call.text expression
  condition := " && ".intercalate (code.tests.map Test.text)
  project := toString code.project
  field := if code.location.isSome then "\n\tLocation string" else ""
  location :=
    match code.location with
    | some position => "\n\t\t\tLocation: tokens[" ++ toString position ++ "],"
    | none => ""
  id := toString code.id

/-- The code as it is written. -/
def text (code : NameCode) : String :=
  Text.Line.ofRows (code.texts.rows ++ [""])

variable {t : Texts} {bindings : List (String × String)}

private theorem mockTemplate_eq : ∃ rows, mockTemplate = Text.Line.ofRows rows ∧
    (∀ row ∈ rows.take 82, closes (row ++ "\n").toList = true) ∧
    rows.drop 82 = Texts.slots.rows ++ [""] := by
  refine ⟨_, rfl, ?_, rfl⟩
  simp only [List.take_succ_cons, List.take_zero, List.forall_mem_cons, slot,
    String.toList_append]
  repeat' apply And.intro
  all_goals repeat rw [String.toList_ofList]
  all_goals first | rfl | exact List.forall_mem_nil _

/-- The slots come out as the texts. -/
structure Bound (bindings : List (String × String)) (t : Texts) : Prop where
  server : Renders bindings Texts.slots.server t.server
  message : Renders bindings Texts.slots.message t.message
  comment : Renders bindings Texts.slots.comment t.comment
  call : Renders bindings Texts.slots.call t.call
  condition : Renders bindings Texts.slots.condition t.condition
  project : Renders bindings Texts.slots.project t.project
  field : Renders bindings Texts.slots.field t.field
  location : Renders bindings Texts.slots.location t.location
  id : Renders bindings Texts.slots.id t.id

theorem Bound.rows (bound : Bound bindings t) : RowsRender bindings Texts.slots.rows t.rows := by
  have plain {chars : List Char} (plain : '{' ∉ chars) :
      Renders bindings (String.ofList chars ++ "\n") (String.ofList chars ++ "\n") :=
    .row (.literal plain)
  simp only [Texts.rows, List.forall₂_cons]
  refine ⟨?type, ?project, plain (by decide), plain (by decide), plain (by decide), ?comment,
    ?printer, ?call, plain (by decide), plain (by decide), ?summary, ?parser, plain (by decide),
    ?condition, ?lookup, ?failed, plain (by decide), plain (by decide), ?name, ?found, ?id,
    plain (by decide), plain (by decide), plain (by decide), plain (by decide), .nil⟩
  case type =>
    exact .append_row (.append (.literal (by decide)) bound.message)
      (.braced_row (by decide) (by decide))
  case project => exact .row (.append (.literal (by decide)) bound.field)
  case comment => exact .row (.append (.literal (by decide)) bound.comment)
  case printer =>
    exact .append_row (.append (.literal (by decide)) bound.message)
      (.braced_row (by decide) (by decide))
  case call => exact .row (.append (.literal (by decide)) bound.call)
  case summary =>
    exact .row (.append_literal (.append (.append_literal (.append (.literal (by decide)) bound.message)
      (by decide)) bound.message) (by decide))
  case parser =>
    exact .append_row (.append (.append_literal (.append (.append_literal
      (.append (.literal (by decide)) bound.server) (by decide)) bound.message) (by decide))
      bound.message) (.braced_row (by decide) (by decide))
  case condition =>
    exact .append_row (.append (.literal (by decide)) bound.condition)
      (.braced_row (by decide) (by decide))
  case lookup =>
    exact .row (.append_literal (.append (.literal (by decide)) bound.project) (by decide))
  case failed => exact .braced_row (by decide) (by decide)
  case name =>
    exact .append_row (.append (.literal (by decide)) bound.message)
      (.braced_row (by decide) (by decide))
  case found => exact .row (.append (.literal (by decide)) bound.location)
  case id => exact .row (.append_literal (.append (.literal (by decide)) bound.id) (by decide))

end Text

end NameCode

namespace MockRequest

variable {r : MockRequest} {s : Skeleton} {year : Nat}

/-- The code for the names of a request. -/
def nameCode (r : MockRequest) : NameCode where
  server := Text.Case.capitalize r.service ++ "V1"
  message := r.protoMessage
  comment := r.format
  call := {
    format := NameFormat.printed r.format (Text.Case.lower r.resource)
    operands := operandsOf (isLocated r.format) }
  tests := Test.ofFormat r.format
  project := 1
  location := if isLocated r.format then some 3 else none
  id := (segments r.format).length - 1

variable {names : Names}

private theorem lookup_located (r : MockRequest) (names : Names) (collection : String) :
    (r.bindings names collection).lookup "format_args" =
        some (", ".intercalate (r.nameCode.call.operands.map NameCode.expression)) ∧
      (r.bindings names collection).lookup "location_field" = some r.nameCode.texts.field ∧
      (r.bindings names collection).lookup "location_value" = some r.nameCode.texts.location := by
  have three : "n.Project.ID, n.Location, n.ID" =
      ", ".intercalate ["n.Project.ID", "n.Location", "n.ID"] := by decide +kernel
  have two : "n.Project.ID, n.ID" = ", ".intercalate ["n.Project.ID", "n.ID"] := by decide +kernel
  have token : "\n\t\t\tLocation: tokens[3]," =
      "\n\t\t\tLocation: tokens[" ++ toString 3 ++ "]," := by decide +kernel
  unfold bindings locationBindings nameCode NameCode.texts operandsOf
  cases isLocated r.format with
  | true => exact ⟨congrArg some three, rfl, congrArg some token⟩
  | false => exact ⟨congrArg some two, rfl, rfl⟩

private theorem bound (own : names.lower = Text.Case.lower r.resource)
    (served : names.service = r.service) (collection : String) :
    NameCode.Bound (r.bindings names collection) r.nameCode.texts := by
  obtain ⟨operands, field, location⟩ := r.lookup_located names collection
  have server : Renders (r.bindings names collection) (slot "server") r.nameCode.server := by
    refine .slot (by decide) ?_
    rw [nameCode, ← served]
    rfl
  have format : Renders (r.bindings names collection) (slot "sprintf_format")
      r.nameCode.call.format := by
    refine .slot (by decide) ?_
    rw [nameCode, ← own]
    rfl
  have condition : Renders (r.bindings names collection) (slot "token_check")
      r.nameCode.texts.condition := by
    have joined (code : NameCode) :
        code.texts.condition = " && ".intercalate (code.tests.map Test.text) := rfl
    refine .slot (by decide) ?_
    rw [joined, nameCode, Test.intercalate_ofFormat]
    rfl
  have project : Renders (r.bindings names collection) "1" (toString 1) := .literal (by decide)
  have id : Renders (r.bindings names collection) (slot "id_index") (toString r.nameCode.id) :=
    .slot (by decide) rfl
  exact ⟨server, .slot (by decide) rfl, .slot (by decide) rfl,
    .append_literal (.append (.append_literal (.append (.literal (by decide)) format) (by decide))
      (.slot (by decide) operands)) (by decide),
    condition, project, .slot (by decide) field, .slot (by decide) location, id⟩

theorem content_eq (given : r.skeleton year = .ok s) :
    ∃ before, s.content = before ++ r.nameCode.text := by
  obtain ⟨names, named, given⟩ := bind_ok given
  obtain ⟨⟨⟩, -, given⟩ := bind_ok given
  obtain ⟨-, -, same⟩ := Names.of_ok named
  split at given
  · cases given
  rename_i collection _
  cases given
  obtain ⟨template, whole, closed, behind⟩ := NameCode.mockTemplate_eq
  have own : NameCode.Bound (r.bindings names collection) r.nameCode.texts :=
    bound (by rw [same]) (by rw [same]) collection
  obtain ⟨before, text⟩ := Text.Template.render_ofRows_behind closed behind own.rows nofun
  have last : render (Text.Line.ofRows [""]) (r.bindings names collection) = "" := rfl
  refine ⟨licenseHeader year ++ before, ?_⟩
  rw [whole, text, last, String.append_assoc]
  rfl

section Fit

variable (owned : ¬ Unfit r.resource) (served : ¬ Unfit r.service)
  (messaged : ¬ Unfit r.protoMessage)

include owned served messaged

private theorem skeleton_eq (year : Nat) : ∃ names : Names,
    names.lower = Text.Case.lower r.resource ∧ r.skeleton year =
      match collection? r.format with
      | none => .error (.noCollection r.format names.lower)
      | some collection => .ok {
          path := Layout.mockFile names.service names.lower
          content := licenseHeader year ++ render mockTemplate (r.bindings names collection) } := by
  have checked {field value : String} (fit : ¬ Unfit value) : requireSegment field value = .ok () :=
    requireSegment_eq_ok_iff.2 fit
  refine ⟨⟨r.resource, Text.Case.lower r.resource, r.service,
    Text.Case.capitalize r.service ++ r.resource⟩, rfl, ?_⟩
  unfold skeleton Names.of
  rw [checked owned, checked served]
  cases collection? r.format <;>
    simp only [pure, Except.pure, bind, Except.bind, checked messaged]

theorem exists_skeleton_iff (year : Nat) : (∃ s, r.skeleton year = .ok s) ↔
    ∃ before collection last, segments r.format = before ++ [collection, last] ∧
      collection ≠ "" ∧ isPlaceholder collection = false := by
  obtain ⟨names, -, same⟩ := skeleton_eq owned served messaged year
  rw [same]
  cases found : collection? r.format with
  | none =>
    refine ⟨fun ⟨s, given⟩ => (by cases given), fun ⟨before, collection, last, parts, fit⟩ => ?_⟩
    rw [NameFormat.collection?_eq_some_iff.2 ⟨before, last, parts, fit⟩] at found
    cases found
  | some collection =>
    obtain ⟨before, last, parts, fit⟩ := NameFormat.collection?_eq_some_iff.1 found
    exact ⟨fun _ => ⟨before, collection, last, parts, fit⟩, fun _ => ⟨_, rfl⟩⟩

theorem mock_refused (refused : ¬ ∃ s, r.skeleton year = .ok s) (root : String) (d : Disk) :
    (mock root year r).perform d =
      (.error (.noCollection r.format (Text.Case.lower r.resource)), d) := by
  obtain ⟨names, lower, same⟩ := skeleton_eq owned served messaged year
  cases found : collection? r.format with
  | none =>
    rw [found, lower] at same
    rw [mock, createOne_perform, same]
  | some collection =>
    rw [found] at same
    exact absurd ⟨_, same⟩ refused

end Fit

end MockRequest

open NameFormat (EndsIn)

/-- A mock is refused where there is no collection before the last segment of its format, and then
nothing is made. That the last segment is the placeholder of the resource is not checked: the parser
takes it as the identifier whatever it is, and it is that placeholder just where the format ends as
the refusal demands. -/
theorem mock_takes_last_segment {r : MockRequest} (owned : ¬ Unfit r.resource)
    (served : ¬ Unfit r.service) (messaged : ¬ Unfit r.protoMessage) (root : String) (year : Nat) :
    ((∃ s, r.skeleton year = .ok s) ↔
      ∃ before collection last, segments r.format = before ++ [collection, last] ∧
        collection ≠ "" ∧ isPlaceholder collection = false) ∧
    ((¬ ∃ s, r.skeleton year = .ok s) → ∀ d, (mock root year r).perform d =
      (.error (.noCollection r.format (Text.Case.lower r.resource)), d)) ∧
    ∀ s, r.skeleton year = .ok s → ∃ (before : String) (code : NameCode) (last : String),
      s.content = before ++ code.text ∧
      code.id + 1 = (segments r.format).length ∧ (segments r.format)[code.id]? = some last ∧
      (last = placeholder (Text.Case.lower r.resource) ↔
        EndsIn (Text.Case.lower r.resource) r.format) := by
  have accepted := MockRequest.exists_skeleton_iff owned served messaged year
  refine ⟨accepted, fun refused => MockRequest.mock_refused owned served messaged refused root,
    fun s given => ?_⟩
  obtain ⟨before, content⟩ := MockRequest.content_eq given
  obtain ⟨front, collection, last, parts, nonempty, literal⟩ := accepted.1 ⟨s, given⟩
  have id : r.nameCode.id = front.length + 1 := by
    rw [MockRequest.nameCode, parts]
    simp
  refine ⟨before, r.nameCode, last, content, ?_, ?_, ?_⟩
  · rw [id, parts]
    simp
  · rw [id, parts]
    simp
  · exact (NameFormat.endsIn_iff parts nonempty literal).symm

/-- Mocks of a resource with names of a format. -/
def mockOf (nameFormat : String) : MockRequest where
  resource := "URLMap"
  service := "compute"
  protoPackage := "cloud.google.com/go/compute/apiv1/computepb"
  protoMessage := "UrlMap"
  nameFormat := nameFormat

/-- In the mock of a global resource the identifier is the placeholder of the resource. -/
theorem mock_takes_last_segment_urlMap :
    let r := mockOf "projects/\x7bproject\x7d/global/urlMaps/\x7burlmap\x7d"
    ¬ Unfit r.resource ∧ ¬ Unfit r.service ∧ ¬ Unfit r.protoMessage ∧
    ∃ (s : Skeleton) (before : String) (code : NameCode), r.skeleton 2025 = .ok s ∧
      s.content = before ++ code.text ∧ code.id = 4 ∧
      (segments r.format)[code.id]? = some "\x7burlmap\x7d" := by
  intro r
  have resource : ¬ Unfit r.resource := by decide +kernel
  have service : ¬ Unfit r.service := by decide +kernel
  have message : ¬ Unfit r.protoMessage := by decide +kernel
  have parts : segments r.format = ["projects", "\x7bproject\x7d", "global", "urlMaps",
      "\x7burlmap\x7d"] := by decide +kernel
  obtain ⟨accepted, -, takes⟩ := mock_takes_last_segment resource service message "/repo" 2025
  obtain ⟨s, given⟩ := accepted.2 ⟨["projects", "\x7bproject\x7d", "global"], "urlMaps",
    "\x7burlmap\x7d", parts, by decide, by decide⟩
  obtain ⟨before, code, last, content, size, stands, -⟩ := takes s given
  have id : code.id = 4 := by
    rw [parts] at size
    simpa using size
  refine ⟨resource, service, message, s, before, code, given, content, id, ?_⟩
  rw [id, parts]
  rfl

/-- A format without a placeholder at its end is accepted, though the refusal demands one. -/
theorem literal_end_is_accepted :
    let r := mockOf "projects/\x7bproject\x7d/global/urlMaps"
    ¬ EndsIn (Text.Case.lower r.resource) r.format ∧
    ∃ (s : Skeleton) (before : String) (code : NameCode), r.skeleton 2025 = .ok s ∧
      s.content = before ++ code.text ∧ (segments r.format)[code.id]? = some "urlMaps" ∧
      ((mock "/repo" 2025 r).perform ⟨Disk.Tree.empty, []⟩).1.isOk = true := by
  intro r
  have parts : segments r.format = ["projects", "\x7bproject\x7d"] ++ ["global", "urlMaps"] := by
    decide +kernel
  have lower : Text.Case.lower r.resource = "urlmap" := by decide +kernel
  obtain ⟨s, given⟩ : ∃ s, r.skeleton 2025 = .ok s := exists_ok_of_isOk (by decide +kernel)
  obtain ⟨before, content⟩ := MockRequest.content_eq given
  refine ⟨?_, s, before, r.nameCode, given, content, ?_, by decide +kernel⟩
  · rw [lower, NameFormat.endsIn_iff parts (by decide) (by decide)]
    decide
  · rw [MockRequest.nameCode, parts]
    rfl

end ConnectorKit.Scaffold
