import ConnectorKit.Proofs.Scaffold.MockCode
import ConnectorKit.Proofs.Scaffold.TypesText
import ConnectorKit.Proofs.Text.Blank

/-!
The parser of a mock server against its printer. Both come from one format by ways of their own, and
for a format of the documented shape they meet in the segments of that format: the printer puts its
operands in the place of the placeholders, and just such texts pass the tests of the parser, whose
positions are those of the placeholders.
-/

set_option autoImplicit false
set_option relaxedAutoImplicit false

namespace ConnectorKit.Scaffold

open NameFormat (Unmarked isLocated isPlaceholder names placeholder printed segments)
open NameCode (sprintf? value?)
open Text.Search (split)

/-- A segment of a format: a text, or a placeholder with what comes in its place. -/
inductive Segment where
  | literal (text : String)
  | hole (name : String) (operand : Operand)
  deriving DecidableEq, Repr

namespace Segment

def spelled : Segment → String
  | literal text => text
  | hole name _ => placeholder name

/-- The segment with a value in the place of the placeholder. -/
def filled (value : Operand → String) : Segment → String
  | literal text => text
  | hole _ operand => value operand

/-- The segments between slashes. -/
def join (put : Segment → String) (segs : List Segment) : String :=
  "/".intercalate (segs.map put)

/-- The operands for the placeholders, in order. -/
def operands : List Segment → List Operand
  | [] => []
  | literal _ :: segs => operands segs
  | hole _ operand :: segs => operand :: operands segs

/-- A text that the format and the printer leave alone, or one of the placeholders. -/
def Fits (lower : String) : Segment → Prop
  | literal text => ∀ c ∈ ['/', '{', '%'], c ∉ text.toList
  | hole name _ => name ∈ names lower

/-- The token stands for the segment. -/
def Takes : Segment → String → Prop
  | literal text, token => token = text
  | hole _ _, _ => True

variable {lower : String} {segs : List Segment} {seg : Segment} {value : Operand → String}
  {tokens : List String}

theorem split_join {put : Segment → String} (nonempty : segs ≠ [])
    (unslashed : ∀ seg ∈ segs, '/' ∉ (put seg).toList) : split '/' (join put segs) = segs.map put := by
  have mark : ("/" : String) = String.singleton '/' := rfl
  rw [join, mark]
  refine Text.Search.split_intercalate (by simpa using nonempty) fun text mem => ?_
  obtain ⟨seg, inside, rfl⟩ := List.mem_map.1 mem
  exact unslashed seg inside

theorem not_mem_join {put : Segment → String} {c : Char} (apart : c ≠ '/')
    (free : ∀ seg ∈ segs, c ∉ (put seg).toList) : c ∉ (join put segs).toList := by
  induction segs with
  | nil => exact List.not_mem_nil
  | cons seg segs ih =>
    obtain ⟨first, later⟩ := List.forall_mem_cons.1 free
    cases segs with
    | nil => simpa [join] using first
    | cons next segs =>
      have cut : join put (seg :: next :: segs) = put seg ++ "/" ++ join put (next :: segs) :=
        String.intercalate_cons_cons
      simp [cut, first, apart, ih later]

section Printer

/-- The verb for each operand. -/
def verbs : Operand → String := fun _ => "%s"

private theorem printed_append (unmarked : Unmarked lower) (fits : seg.Fits lower) (rest : String) :
    printed (seg.spelled ++ rest) lower = seg.filled verbs ++ printed rest lower := by
  cases seg with
  | literal text => exact NameFormat.printed_append_text unmarked (fits '{' (by decide)) rest
  | hole name operand => exact NameFormat.printed_append_placeholder unmarked fits rest

theorem printed_join (unmarked : Unmarked lower) (fits : ∀ seg ∈ segs, seg.Fits lower) :
    printed (join spelled segs) lower = join (filled verbs) segs := by
  have nothing : printed "" lower = "" := by
    have read : NameFormat.Reads (names lower) ("" : String).toList [] := .nil
    exact String.toList_inj.1 (NameFormat.printed_eq unmarked read)
  induction segs with
  | nil => exact nothing
  | cons seg segs ih =>
    obtain ⟨first, later⟩ := List.forall_mem_cons.1 fits
    cases segs with
    | nil =>
      have alone := printed_append unmarked first ""
      rwa [nothing, String.append_empty, String.append_empty] at alone
    | cons next segs =>
      have cut (put : Segment → String) : join put (seg :: next :: segs) =
          put seg ++ ("/" ++ join put (next :: segs)) := by
        simp [join, String.append_assoc]
      rw [cut, cut, printed_append unmarked first,
        NameFormat.printed_append_text unmarked (by decide), ih later]

private theorem sprintf?_filled (fits : seg.Fits lower) (rest : List Char) (values : List String) :
    sprintf? ((seg.filled verbs).toList ++ rest) ((operands [seg]).map value ++ values) =
      (sprintf? rest values).map ((seg.filled value).toList ++ ·) := by
  cases seg with
  | literal text => exact NameCode.sprintf?_append (fits '%' (by decide)) rest values
  | hole name operand =>
    have verb : (verbs operand).toList = NameFormat.verb := String.toList_ofList
    change sprintf? ((verbs operand).toList ++ rest) (value operand :: values) = _
    rw [verb, NameCode.sprintf?_verb]
    rfl

theorem sprintf?_join (fits : ∀ seg ∈ segs, seg.Fits lower) :
    sprintf? (join (filled verbs) segs).toList ((operands segs).map value) =
      some (join (filled value) segs).toList := by
  induction segs with
  | nil => rfl
  | cons seg segs ih =>
    obtain ⟨first, later⟩ := List.forall_mem_cons.1 fits
    have taken : (operands (seg :: segs)).map value =
        (operands [seg]).map value ++ (operands segs).map value := by
      cases seg <;> rfl
    cases segs with
    | nil =>
      have alone : sprintf? ((seg.filled verbs).toList ++ []) ((operands [seg]).map value ++ []) =
          (sprintf? [] []).map ((seg.filled value).toList ++ ·) := sprintf?_filled first [] []
      simpa [join, sprintf?] using alone
    | cons next segs =>
      have cut (put : Segment → String) : (join put (seg :: next :: segs)).toList =
          (put seg).toList ++ (['/'] ++ (join put (next :: segs)).toList) := by
        simp [join]
      rw [cut, cut, taken, sprintf?_filled first, NameCode.sprintf?_append (by decide), ih later]
      rfl

end Printer

section Parser

private theorem allHold?_literals (fits : ∀ seg ∈ segs, seg.Fits lower) (front : List String)
    {back : List String} (same : back.length = segs.length) :
    ∃ held, Test.allHold? (front ++ back) (Test.literals front.length (segs.map spelled)) = some held ∧
      (held = true ↔ List.Forall₂ Takes segs back) := by
  induction segs generalizing front back with
  | nil =>
    obtain rfl := List.length_eq_zero_iff.1 same
    exact ⟨true, rfl, fun _ => .nil, fun _ => rfl⟩
  | cons seg segs ih =>
    obtain ⟨first, later⟩ := List.forall_mem_cons.1 fits
    obtain ⟨token, back, rfl⟩ := List.exists_cons_of_length_eq_add_one same
    obtain ⟨held, tested, holds⟩ := ih later (front ++ [token]) (Nat.succ.inj same)
    rw [List.append_assoc, List.singleton_append, List.length_append, List.length_singleton] at tested
    rw [List.map_cons, Test.literals, List.forall₂_cons]
    cases seg with
    | hole name operand =>
      refine ⟨held, ?_, holds.trans (and_iff_right trivial).symm⟩
      rw [spelled, if_pos (NameFormat.isPlaceholder_placeholder name)]
      exact tested
    | literal text =>
      have literal := NameFormat.isPlaceholder_of_not_mem (first '{' (by decide))
      have told : (Test.token front.length text).holds? (front ++ token :: back) =
          some (decide (token = text)) := by
        simp [Test.holds?]
      rw [spelled, if_neg (Bool.eq_false_iff.1 literal), List.singleton_append, Test.allHold?, told]
      by_cases here : token = text
      · refine ⟨held, ?_, holds.trans (and_iff_right here).symm⟩
        rw [decide_eq_true here]
        exact tested
      · refine ⟨false, ?_, iff_of_false Bool.false_ne_true fun taken => here taken.1⟩
        rw [decide_eq_false here]

theorem allHold?_ofFormat (fits : ∀ seg ∈ segs, seg.Fits lower) {format : String}
    (parts : segments format = segs.map spelled) (tokens : List String) :
    ∃ held, Test.allHold? tokens (Test.ofFormat format) = some held ∧
      (held = true ↔ List.Forall₂ Takes segs tokens) := by
  have count : (Test.count (segments format).length).holds? tokens =
      some (decide (tokens.length = segs.length)) := by
    rw [parts, List.length_map]
    rfl
  rw [Test.ofFormat, Test.allHold?, count, parts]
  by_cases same : tokens.length = segs.length
  · rw [decide_eq_true same]
    exact allHold?_literals fits [] same
  · rw [decide_eq_false same]
    exact ⟨false, rfl, iff_of_false Bool.false_ne_true fun taken => same taken.length_eq.symm⟩

end Parser

end Segment

/-- The documented shape of a format: a project, perhaps a location, any number of literal segments, a
collection and the resource itself. -/
structure Shape where
  located : Bool
  literals : List String
  collection : String
  deriving DecidableEq, Repr

namespace Shape

/-- A text that can be a segment of its own: not empty, not the one of locations, and without slash,
brace, verb, quotation mark, backslash and line break. -/
structure Literal (text : String) : Prop where
  nonempty : text ≠ ""
  other : text ≠ "locations"
  plain : ∀ c ∈ ['/', '{', '}', '%', '"', '\\', '\n'], c ∉ text.toList

structure Plain (f : Shape) : Prop where
  literals : ∀ text ∈ f.literals, Literal text
  collection : Literal f.collection

def segments (f : Shape) (lower : String) : List Segment :=
  .literal "projects" :: .hole "project" .project ::
    ((if f.located then [.literal "locations", .hole "location" .location] else []) ++
      (f.literals.map .literal ++ [.literal f.collection, .hole lower .id]))

/-- The format of the shape, for a resource with its name in lower case. -/
def format (f : Shape) (lower : String) : String :=
  Segment.join Segment.spelled (f.segments lower)

/-- The tokens of a name. -/
def tokens (f : Shape) (n : Name String) : List String :=
  "projects" :: n.project :: ((n.location.elim [] fun location => ["locations", location]) ++
    (f.literals ++ [f.collection, n.id]))

variable {f : Shape} {lower : String} {toks : List String} {n : Name String}

theorem Literal.fits {text : String} (literal : Literal text) : (Segment.literal text).Fits lower := by
  have among : ∀ c ∈ ['/', '{', '%'], c ∈ ['/', '{', '}', '%', '"', '\\', '\n'] := by simp
  exact fun c mem => literal.plain c (among c mem)

theorem forall_segments {holds : Segment → Prop} (projects : holds (.literal "projects"))
    (project : holds (.hole "project" .project)) (locations : holds (.literal "locations"))
    (location : holds (.hole "location" .location)) (own : holds (.hole lower .id))
    (literal : ∀ text, Literal text → holds (.literal text)) (plain : f.Plain) :
    ∀ seg ∈ f.segments lower, holds seg := by
  simp only [segments, List.forall_mem_cons, List.forall_mem_append, List.forall_mem_map]
  refine ⟨projects, project, ?_, fun text mem => literal text (plain.literals text mem),
    literal _ plain.collection, own, List.forall_mem_nil _⟩
  cases f.located with
  | true => simpa using ⟨locations, location⟩
  | false => simp

theorem fits (plain : f.Plain) : ∀ seg ∈ f.segments lower, seg.Fits lower := by
  have free : ∀ text ∈ ["projects", "locations"], ∀ c ∈ ['/', '{', '%'], c ∉ text.toList := by simp
  have known : "project" ∈ names lower ∧ "location" ∈ names lower ∧ lower ∈ names lower := by
    simp [names]
  exact forall_segments (free _ (by decide)) known.1 (free _ (by decide)) known.2.1 known.2.2
    (fun _ => Literal.fits) plain

theorem unslashed_spelled (plain : f.Plain) (unslashed : '/' ∉ lower.toList) :
    ∀ seg ∈ f.segments lower, '/' ∉ seg.spelled.toList := by
  have named {name : String} (free : '/' ∉ name.toList) : '/' ∉ (placeholder name).toList := by
    rw [NameFormat.toList_placeholder]
    simpa using free
  exact forall_segments (by decide) (named (by decide)) (by decide) (named (by decide))
    (named unslashed) (fun _ literal => literal.plain '/' (by decide)) plain

theorem segments_format (plain : f.Plain) (unslashed : '/' ∉ lower.toList) :
    NameFormat.segments (f.format lower) = (f.segments lower).map Segment.spelled :=
  Segment.split_join nofun (unslashed_spelled plain unslashed)

theorem isLocated_format (plain : f.Plain) (unslashed : '/' ∉ lower.toList) :
    isLocated (f.format lower) = f.located := by
  have holes (name : String) : "locations" ≠ placeholder name := by
    intro same
    have first := congrArg (·.toList.head?) same
    simp [NameFormat.toList_placeholder] at first
  have others : "locations" ∉ f.literals := fun mem => (plain.literals _ mem).other rfl
  rw [isLocated, segments_format plain unslashed, Bool.eq_iff_iff, List.contains_iff_mem]
  cases located : f.located with
  | true => simp [segments, located, Segment.spelled]
  | false =>
    simpa [segments, located, Segment.spelled, holes, plain.collection.other.symm] using others

theorem operands_segments (f : Shape) (lower : String) :
    Segment.operands (f.segments lower) = operandsOf f.located := by
  have literals (texts : List String) (segs : List Segment) :
      Segment.operands (texts.map .literal ++ segs) = Segment.operands segs := by
    induction texts with
    | nil => rfl
    | cons text texts ih => exact ih
  unfold segments operandsOf
  cases f.located with
  | true => exact congrArg (.project :: .location :: ·) (literals _ _)
  | false => exact congrArg (.project :: ·) (literals _ _)

/-- The value of an operand in a name, as far as it has one. -/
def valueIn (n : Name String) (operand : Operand) : String :=
  (value? id n operand).getD ""

theorem map_filled_segments (located : n.location.isSome = f.located) :
    (f.segments lower).map (Segment.filled (valueIn n)) = f.tokens n := by
  obtain ⟨project, location, id⟩ := n
  have texts : (f.literals.map Segment.literal).map
      (Segment.filled (valueIn ⟨project, location, id⟩)) = f.literals := by
    rw [List.map_map]
    exact List.map_id _
  cases location with
  | none =>
    have none : f.located = false := located.symm
    simp [segments, tokens, none, texts, Segment.filled, valueIn, value?]
  | some location =>
    have some : f.located = true := located.symm
    simp [segments, tokens, some, texts, Segment.filled, valueIn, value?]

private theorem takes_literals {texts : List String} {segs : List Segment} :
    List.Forall₂ Segment.Takes (texts.map .literal ++ segs) toks ↔
      ∃ rest, toks = texts ++ rest ∧ List.Forall₂ Segment.Takes segs rest := by
  induction texts generalizing toks with
  | nil => simp
  | cons text texts ih =>
    rw [List.map_cons, List.cons_append, List.forall₂_cons_left_iff]
    constructor
    · rintro ⟨_, behind, rfl, taken, rfl⟩
      obtain ⟨rest, rfl, more⟩ := ih.1 taken
      exact ⟨rest, rfl, more⟩
    · rintro ⟨rest, rfl, more⟩
      exact ⟨text, texts ++ rest, rfl, ih.2 ⟨rest, rfl, more⟩, rfl⟩

/-- Just the tokens of names stand for the segments. -/
theorem takes_iff : List.Forall₂ Segment.Takes (f.segments lower) toks ↔
    ∃ n : Name String, n.location.isSome = f.located ∧ toks = f.tokens n := by
  constructor
  · intro taken
    have ending {toks : List String} (taken : List.Forall₂ Segment.Takes
        (f.literals.map .literal ++ [.literal f.collection, .hole lower .id]) toks) :
        ∃ id, toks = f.literals ++ [f.collection, id] := by
      obtain ⟨rest, rfl, own⟩ := takes_literals.1 taken
      obtain ⟨_, _, rfl, last, rfl⟩ := List.forall₂_cons_left_iff.1 own
      obtain ⟨id, _, -, ⟨⟩, rfl⟩ := List.forall₂_cons_left_iff.1 last
      exact ⟨id, rfl⟩
    obtain ⟨_, _, rfl, first, rfl⟩ := List.forall₂_cons_left_iff.1 taken
    obtain ⟨project, _, -, behind, rfl⟩ := List.forall₂_cons_left_iff.1 first
    cases located : f.located with
    | true =>
      rw [located] at behind
      obtain ⟨_, _, rfl, place, rfl⟩ := List.forall₂_cons_left_iff.1 behind
      obtain ⟨location, _, -, own, rfl⟩ := List.forall₂_cons_left_iff.1 place
      obtain ⟨id, rfl⟩ := ending own
      exact ⟨⟨project, some location, id⟩, rfl, rfl⟩
    | false =>
      rw [located] at behind
      obtain ⟨id, rfl⟩ := ending behind
      exact ⟨⟨project, none, id⟩, rfl, rfl⟩
  · rintro ⟨n, located, rfl⟩
    rw [← map_filled_segments located, List.forall₂_map_right_iff]
    refine List.forall₂_same.2 fun seg _ => ?_
    cases seg with
    | literal text => rfl
    | hole name operand => trivial

theorem tokens_project (f : Shape) (n : Name String) : (f.tokens n)[1]? = some n.project :=
  rfl

theorem tokens_location (f : Shape) {location : String} (there : n.location = some location) :
    (f.tokens n)[3]? = some location := by
  rw [tokens, there]
  rfl

theorem tokens_id (f : Shape) (n : Name String) :
    (f.tokens n)[(f.tokens n).length - 1]? = some n.id := by
  have last : (f.tokens n).getLast? = some n.id := by
    have front : f.tokens n = "projects" :: n.project ::
        ((n.location.elim [] fun location => ["locations", location]) ++
          (f.literals ++ [f.collection])) ++ [n.id] := by
      simp [tokens]
    rw [front, List.getLast?_concat]
  rwa [List.getLast?_eq_getElem?] at last

theorem length_tokens (located : n.location.isSome = f.located) (lower : String) :
    (f.tokens n).length = (f.segments lower).length := by
  have same : (f.segments lower).map (Segment.filled (valueIn n)) = f.tokens n :=
    map_filled_segments located
  rw [← same, List.length_map]

theorem unslashed_tokens (plain : f.Plain) (project : '/' ∉ n.project.toList)
    (location : ∀ text, n.location = some text → '/' ∉ text.toList) (id : '/' ∉ n.id.toList) :
    ∀ token ∈ f.tokens n, '/' ∉ token.toList := by
  have placed : ∀ token ∈ (n.location.elim [] fun location => ["locations", location]),
      '/' ∉ token.toList := by
    cases there : n.location with
    | none => simp
    | some text => simpa using location text there
  simp only [tokens, List.forall_mem_cons, List.forall_mem_append]
  exact ⟨by decide, project, placed, fun text mem => (plain.literals text mem).plain '/' (by decide),
    plain.collection.plain '/' (by decide), id, List.forall_mem_nil _⟩

theorem exists_segments_eq (f : Shape) (lower : String) :
    ∃ front, f.segments lower = front ++ [.literal f.collection, .hole lower .id] :=
  ⟨.literal "projects" :: .hole "project" .project ::
    ((if f.located then [.literal "locations", .hole "location" .location] else []) ++
      f.literals.map .literal), by simp [segments]⟩

private theorem exists_format_eq_append (f : Shape) (lower : String) :
    ∃ front, f.format lower = front ++ placeholder lower := by
  obtain ⟨front, parts⟩ := f.exists_segments_eq lower
  rw [format, Segment.join, parts, List.append_cons, List.map_append,
    String.intercalate_append_of_ne_nil (by simp) (by simp)]
  exact ⟨_, rfl⟩

theorem bare_format (f : Shape) (lower : String) : Text.Blank.Bare (f.format lower) where
  start := by
    intro c first
    have whole : f.format lower = "projects" ++ "/" ++ Segment.join Segment.spelled
        ((f.segments lower).drop 1) := String.intercalate_cons_cons
    rw [whole, String.toList_append, String.toList_append, List.append_assoc] at first
    obtain rfl : 'p' = c := Option.some.inj first
    decide
  finish := by
    intro c last
    obtain ⟨front, whole⟩ := f.exists_format_eq_append lower
    rw [whole, String.toList_append, NameFormat.toList_placeholder, ← List.cons_append,
      ← List.append_assoc, List.getLast?_concat] at last
    obtain rfl : '}' = c := Option.some.inj last
    decide

end Shape

/-- The name with what `g` gives for its project. -/
def Name.map {Project Project' : Type} (g : Project → Project') (n : Name Project) : Name Project' :=
  ⟨g n.project, n.location, n.id⟩

namespace MockRequest

section Run

variable {r : MockRequest} {f : Shape} {Project : Type} {find : String → Option Project}
  {idOf : Project → String}

/-- The format of the request has the shape, and its resource a name of letters and digits. -/
structure Shaped (r : MockRequest) (f : Shape) : Prop where
  plain : f.Plain
  lower : Alphanumeric (Text.Case.lower r.resource)
  format : r.format = f.format (Text.Case.lower r.resource)

namespace Shaped

variable (shaped : r.Shaped f)

include shaped

theorem not_mem_lower {c : Char} (other : c.isAlphanum = false) :
    c ∉ (Text.Case.lower r.resource).toList :=
  fun mem => Bool.eq_false_iff.1 other (shaped.lower c mem)

theorem unmarked : Unmarked (Text.Case.lower r.resource) :=
  ⟨shaped.not_mem_lower rfl, shaped.not_mem_lower rfl, shaped.not_mem_lower rfl⟩

theorem segments_eq : NameFormat.segments r.format =
    (f.segments (Text.Case.lower r.resource)).map Segment.spelled := by
  rw [shaped.format]
  exact f.segments_format shaped.plain (shaped.not_mem_lower rfl)

theorem isLocated_eq : isLocated r.format = f.located := by
  rw [shaped.format]
  exact f.isLocated_format shaped.plain (shaped.not_mem_lower rfl)

theorem call_eq : r.nameCode.call =
    ⟨Segment.join (Segment.filled Segment.verbs) (f.segments (Text.Case.lower r.resource)),
      operandsOf f.located⟩ := by
  rw [nameCode, shaped.isLocated_eq, shaped.format, Shape.format,
    Segment.printed_join shaped.unmarked (Shape.fits shaped.plain)]

theorem print?_eq {n : Name Project} (located : n.location.isSome = f.located) :
    r.nameCode.print? idOf n = some ("/".intercalate (f.tokens (n.map idOf))) := by
  have values : (operandsOf f.located).mapM (value? idOf n) =
      some ((operandsOf f.located).map (Shape.valueIn (n.map idOf))) := by
    obtain ⟨project, location, id⟩ := n
    cases location with
    | none =>
      have none : f.located = false := located.symm
      rw [none]
      rfl
    | some location =>
      have some : f.located = true := located.symm
      rw [some]
      rfl
  have printed : sprintf? (Segment.join (Segment.filled Segment.verbs)
        (f.segments (Text.Case.lower r.resource))).toList
        ((operandsOf f.located).map (Shape.valueIn (n.map idOf))) =
      some ("/".intercalate (f.tokens (n.map idOf))).toList := by
    have filled : (f.segments (Text.Case.lower r.resource)).map
        (Segment.filled (Shape.valueIn (n.map idOf))) = f.tokens (n.map idOf) :=
      Shape.map_filled_segments located
    rw [← f.operands_segments (Text.Case.lower r.resource), ← filled]
    exact Segment.sprintf?_join (Shape.fits shaped.plain)
  rw [NameCode.print?, shaped.call_eq, values]
  simp only [Option.bind_eq_bind, Option.bind_some, printed]
  exact congrArg some String.ofList_toList

theorem take_eq {n : Name String} (located : n.location.isSome = f.located) :
    r.nameCode.take find (f.tokens n) =
      match find n.project with
      | none => .error
      | some project => .name ⟨project, n.location, n.id⟩ := by
  have place : r.nameCode.location.mapM ((f.tokens n)[·]?) = some n.location := by
    rw [nameCode, shaped.isLocated_eq, ← located]
    cases there : n.location with
    | none => rfl
    | some location => exact congrArg (Option.map some) (f.tokens_location there)
  have id : (f.tokens n)[r.nameCode.id]? = some n.id := by
    rw [nameCode, shaped.segments_eq, List.length_map,
      ← Shape.length_tokens located (Text.Case.lower r.resource)]
    exact f.tokens_id n
  have project : (f.tokens n)[r.nameCode.project]? = some n.project := f.tokens_project n
  rw [NameCode.take, project]
  dsimp only
  cases find n.project with
  | none => rfl
  | some project =>
    dsimp only
    rw [place, id]

private theorem allHold?_tests (text : String) :
    ∃ held, Test.allHold? (split '/' text) r.nameCode.tests = some held ∧
      (held = true ↔ ∃ n : Name String, n.location.isSome = f.located ∧
        split '/' text = f.tokens n) := by
  obtain ⟨held, tested, holds⟩ :=
    Segment.allHold?_ofFormat (Shape.fits shaped.plain) shaped.segments_eq (split '/' text)
  exact ⟨held, tested, holds.trans Shape.takes_iff⟩

theorem parse_of_tokens {n : Name String} {text : String} (located : n.location.isSome = f.located)
    (cut : split '/' text = f.tokens n) : r.nameCode.parse find text =
      match find n.project with
      | none => .error
      | some project => .name ⟨project, n.location, n.id⟩ := by
  obtain ⟨held, tested, holds⟩ := shaped.allHold?_tests text
  obtain rfl := holds.2 ⟨n, located, cut⟩
  rw [NameCode.parse, tested, cut]
  exact shaped.take_eq located

theorem parse_of_other {text : String}
    (other : ¬ ∃ n : Name String, n.location.isSome = f.located ∧ split '/' text = f.tokens n) :
    r.nameCode.parse find text = .error := by
  obtain ⟨held, tested, holds⟩ := shaped.allHold?_tests text
  have refused : held = false := Bool.eq_false_iff.2 fun held => other (holds.1 held)
  rw [NameCode.parse, tested, refused]

theorem legible : r.nameCode.Legible := by
  have other : ∀ c ∈ ['"', '\\', '\n'], c.isAlphanum = false ∧ c ≠ '{' ∧ c ≠ '}' ∧ c ≠ '/' := by
    simp
  have literal (text : String) (fit : Shape.Literal text) :
      ∀ c ∈ ['"', '\\', '\n'], c ∉ text.toList := by
    have among : ∀ c ∈ ['"', '\\', '\n'], c ∈ ['/', '{', '}', '%', '"', '\\', '\n'] := by simp
    exact fun c mem => fit.plain c (among c mem)
  have own : ∀ c ∈ ['"', '\\', '\n'], c ∉ (placeholder (Text.Case.lower r.resource)).toList := by
    intro c mem
    obtain ⟨kind, opening, closing, -⟩ := other c mem
    rw [NameFormat.toList_placeholder]
    simp [opening, closing, shaped.not_mem_lower kind]
  have verb : ∀ c ∈ ['"', '\\', '\n'], c ∉ (Segment.verbs .id).toList := by simp [Segment.verbs]
  have spelled : ∀ seg ∈ f.segments (Text.Case.lower r.resource),
      ∀ c ∈ ['"', '\\', '\n'], c ∉ seg.spelled.toList :=
    Shape.forall_segments (by simp [Segment.spelled])
      (by simp [Segment.spelled, NameFormat.toList_placeholder]) (by simp [Segment.spelled])
      (by simp [Segment.spelled, NameFormat.toList_placeholder]) own literal shaped.plain
  have filled : ∀ seg ∈ f.segments (Text.Case.lower r.resource),
      ∀ c ∈ ['"', '\\', '\n'], c ∉ (seg.filled Segment.verbs).toList :=
    Shape.forall_segments (by simp [Segment.filled]) verb (by simp [Segment.filled]) verb verb
      literal shaped.plain
  refine ⟨?comment, fun c mem => ?format, fun position text mem c quoted => ?tests⟩
  case comment =>
    rw [nameCode, shaped.format]
    exact Segment.not_mem_join (by decide) fun seg mem => spelled seg mem '\n' (by decide)
  case format =>
    rw [shaped.call_eq]
    exact Segment.not_mem_join (other c mem).2.2.2 fun seg inside => filled seg inside c mem
  case tests =>
    rcases List.mem_cons.1 mem with count | literal
    · cases count
    · have inside := Test.mem_of_mem_literals literal
      rw [shaped.segments_eq] at inside
      obtain ⟨seg, stands, rfl⟩ := List.mem_map.1 inside
      exact spelled seg stands c quoted

theorem exists_collection : ∃ before collection last,
    NameFormat.segments r.format = before ++ [collection, last] ∧ collection ≠ "" ∧
      isPlaceholder collection = false := by
  obtain ⟨front, parts⟩ := f.exists_segments_eq (Text.Case.lower r.resource)
  have fit := shaped.plain.collection
  refine ⟨front.map Segment.spelled, f.collection, placeholder (Text.Case.lower r.resource), ?_,
    fit.nonempty, NameFormat.isPlaceholder_of_not_mem (fit.plain '{' (by decide))⟩
  rw [shaped.segments_eq, parts, List.map_append]
  rfl

end Shaped

end Run

end MockRequest

/-- The parser of a mock inverts its printer. For a resource of letters and digits and a format of the
documented shape, the text of a name without slashes in its values is parsed to a name with the same
values, a text that is parsed is what the printer gives for the result, and the parser does not panic.
The lookup of projects is taken to give a project with the identifier it is asked for. -/
theorem names_round_trip {r : MockRequest} {f : Shape} (owned : Alphanumeric r.resource)
    (named : ¬ Unfit r.resource) (served : ¬ Unfit r.service) (messaged : ¬ Unfit r.protoMessage)
    (plain : f.Plain) (given : r.nameFormat = f.format (Text.Case.lower r.resource))
    {Project : Type} {find : String → Option Project} {idOf : Project → String}
    (finds : ∀ id, ∃ project, find id = some project ∧ idOf project = id) (year : Nat) :
    ∃ (s : Skeleton) (before : String) (code : NameCode), r.skeleton year = .ok s ∧
      s.content = before ++ code.text ∧ code.Legible ∧
      (∀ n : Name Project, n.location.isSome = f.located → '/' ∉ (idOf n.project).toList →
        (∀ location, n.location = some location → '/' ∉ location.toList) → '/' ∉ n.id.toList →
        ∃ text m, code.print? idOf n = some text ∧ code.parse find text = .name m ∧
          m.map idOf = n.map idOf) ∧
      (∀ text m, code.parse find text = .name m →
        m.location.isSome = f.located ∧ code.print? idOf m = some text) ∧
      ∀ text, code.parse find text ≠ .panic := by
  have shaped : r.Shaped f := by
    refine ⟨plain, owned.lower, ?_⟩
    rw [MockRequest.format, given]
    exact Text.Blank.trim_eq_self_iff.2 (f.bare_format _)
  obtain ⟨s, accepted⟩ :=
    (MockRequest.exists_skeleton_iff named served messaged year).2 shaped.exists_collection
  obtain ⟨before, content⟩ := MockRequest.content_eq accepted
  refine ⟨s, before, r.nameCode, accepted, content, shaped.legible, ?_, ?_, ?_⟩
  · intro n located project location id
    have free : ∀ token ∈ f.tokens (n.map idOf), '/' ∉ token.toList :=
      Shape.unslashed_tokens plain project location id
    have cut : split '/' ("/".intercalate (f.tokens (n.map idOf))) = f.tokens (n.map idOf) :=
      Text.Search.split_intercalate nofun free
    obtain ⟨own, found, same⟩ := finds (n.map idOf).project
    refine ⟨_, ⟨own, n.location, n.id⟩, shaped.print?_eq located, ?_, ?_⟩
    · rw [shaped.parse_of_tokens located cut, found]
      rfl
    · rw [Name.map, same]
      rfl
  · intro text m parsed
    by_cases shape : ∃ n : Name String, n.location.isSome = f.located ∧ split '/' text = f.tokens n
    · obtain ⟨n, located, cut⟩ := shape
      obtain ⟨own, found, same⟩ := finds n.project
      rw [shaped.parse_of_tokens located cut, found] at parsed
      obtain rfl : ⟨own, n.location, n.id⟩ = m := Parsed.name.inj parsed
      have whole : Name.map idOf ⟨own, n.location, n.id⟩ = n := by rw [Name.map, same]
      have printed : r.nameCode.print? idOf ⟨own, n.location, n.id⟩ =
          some ("/".intercalate (f.tokens (Name.map idOf ⟨own, n.location, n.id⟩))) :=
        shaped.print?_eq located
      refine ⟨located, printed.trans (congrArg some ?_)⟩
      rw [whole, ← cut]
      exact Text.Search.intercalate_split '/' text
    · rw [shaped.parse_of_other shape] at parsed
      cases parsed
  · intro text panics
    by_cases shape : ∃ n : Name String, n.location.isSome = f.located ∧ split '/' text = f.tokens n
    · obtain ⟨n, located, cut⟩ := shape
      obtain ⟨own, found, -⟩ := finds n.project
      rw [shaped.parse_of_tokens located cut, found] at panics
      cases panics
    · rw [shaped.parse_of_other shape] at panics
      cases panics

/-- Names with a location and a literal segment. -/
def regionShape : Shape :=
  ⟨true, ["regions"], "urlMaps"⟩

example : regionShape.format "urlmap" =
    "projects/\x7bproject\x7d/locations/\x7blocation\x7d/regions/urlMaps/\x7burlmap\x7d" := by
  decide +kernel

/-- A name is parsed from its text, with texts for projects. -/
theorem names_round_trip_urlMap :
    let r := mockOf (regionShape.format "urlmap")
    let n : Name String := ⟨"p", some "us", "m"⟩
    Alphanumeric r.resource ∧ ¬ Unfit r.resource ∧ ¬ Unfit r.service ∧ ¬ Unfit r.protoMessage ∧
    regionShape.Plain ∧ r.nameFormat = regionShape.format (Text.Case.lower r.resource) ∧
    ∃ (s : Skeleton) (before : String) (code : NameCode) (text : String),
      r.skeleton 2025 = .ok s ∧ s.content = before ++ code.text ∧
      code.print? id n = some text ∧ code.parse some text = .name n := by
  intro r n
  have owned : Alphanumeric r.resource := by decide +kernel
  have named : ¬ Unfit r.resource := by decide +kernel
  have served : ¬ Unfit r.service := by decide +kernel
  have messaged : ¬ Unfit r.protoMessage := by decide +kernel
  have plain : regionShape.Plain := by
    refine ⟨fun text mem => ?_, by decide, by decide, by simp [regionShape]⟩
    obtain rfl := List.mem_singleton.1 mem
    exact ⟨by decide, by decide, by simp⟩
  have lower : Text.Case.lower r.resource = "urlmap" := by decide +kernel
  have given : r.nameFormat = regionShape.format (Text.Case.lower r.resource) := by
    rw [lower]
    rfl
  have finds : ∀ id : String, ∃ project, some id = some project ∧ project = id :=
    fun id => ⟨id, rfl, rfl⟩
  obtain ⟨s, before, code, accepted, content, -, inverts, -⟩ :=
    names_round_trip owned named served messaged plain given finds 2025
  obtain ⟨text, m, printed, parsed, same⟩ := inverts n rfl (by decide)
    (fun location there => by cases there; decide) (by decide)
  obtain rfl : m = n := same
  exact ⟨owned, named, served, messaged, plain, given, s, before, code, text, accepted, content,
    printed, parsed⟩

end ConnectorKit.Scaffold
