import ConnectorKit.Field.Insertion
import ConnectorKit.Proofs.Text.Line
import Mathlib.Data.List.DropRight
import Mathlib.Data.List.TakeWhile

/-!
The place of a new field. A struct runs from the first row with its header to the first closing row
after it, and a field goes behind the last row with a tag in there, or at the end where none has one.
-/

set_option autoImplicit false
set_option relaxedAutoImplicit false

namespace ConnectorKit.Field

variable {parent row closing content block : String} {body rest all : List String}
  {position : Nat} {afterField : Option Nat}

section Closing

private theorem mem_trimChars {text : List Char} {c : Char} (mem : c ∈ text)
    (inner : Text.Blank.isBlank c = false) : c ∈ Text.Blank.trimChars text := by
  have kept {l : List Char} (mem : c ∈ l) : c ∈ l.dropWhile Text.Blank.isBlank := by
    rw [← List.takeWhile_append_dropWhile (p := Text.Blank.isBlank) (l := l)] at mem
    refine (List.mem_append.1 mem).resolve_left fun blank => ?_
    rw [List.mem_takeWhile_imp blank] at inner
    cases inner
  exact List.mem_reverse.2 (kept (List.mem_reverse.2 (kept mem)))

theorem eq_brace_of_isClosing (closes : isClosing row = true) {c : Char} (mem : c ∈ row.toList)
    (inner : Text.Blank.isBlank c = false) : c = '}' := by
  have trimmed : Text.Blank.trimChars row.toList = ['}'] := by
    have same := congrArg String.toList (of_decide_eq_true closes)
    rwa [Text.Blank.trim, String.toList_ofList] at same
  have kept := mem_trimChars mem inner
  rw [trimmed] at kept
  exact List.mem_singleton.1 kept

theorem isClosing_of_mem {c : Char} (mem : c ∈ row.toList) (inner : Text.Blank.isBlank c = false)
    (other : c ≠ '}') : isClosing row = false :=
  Bool.eq_false_iff.2 fun closes => other (eq_brace_of_isClosing closes mem inner)

theorem hasTag_of_isClosing (closes : isClosing row = true) : hasTag row = false := by
  refine Bool.eq_false_iff.2 fun tagged => ?_
  have inside := (Text.Search.contains_iff.1 tagged).subset
  have quote : '`' ∈ row.toList := inside (by simp)
  exact absurd (eq_brace_of_isClosing closes quote (by decide)) (by decide)

end Closing

section Header

/-- Every header of a struct ends in this. -/
def opener : List Char :=
  " struct \x7b".toList

theorem infix_of_opener {text : List Char} (inside : opener <:+: text) :
    "struct \x7b".toList <:+: text :=
  List.IsInfix.trans ⟨[' '], [], rfl⟩ inside

theorem contains_header_of_not_infix (unopened : ¬ opener <:+: row.toList)
    (parent : String) : Text.Search.contains row (header parent) = false := by
  refine Bool.eq_false_iff.2 fun headed => unopened ?_
  have ends : (header parent).toList = ("type " ++ parent).toList ++ opener := by
    rw [header, String.toList_append]
    rfl
  exact (ends ▸ List.suffix_append _ opener).isInfix.trans (Text.Search.contains_iff.1 headed)

end Header

section Search

private theorem placeAfter_untagged (position : Nat) (inner : ∀ r ∈ body, isClosing r = false)
    (untagged : ∀ r ∈ body, hasTag r = false) (closes : isClosing closing = true) :
    placeAfter position afterField (body ++ closing :: rest) =
      some (afterField.getD (position + body.length)) := by
  induction body generalizing position with
  | nil => simp [placeAfter, closes, hasTag_of_isClosing closes]
  | cons r body ih =>
    have later := ih (position + 1) (fun r mem => inner r (List.mem_cons_of_mem _ mem))
      fun r mem => untagged r (List.mem_cons_of_mem _ mem)
    rw [List.cons_append, placeAfter, inner r List.mem_cons_self, untagged r List.mem_cons_self]
    simp only [Bool.false_eq_true, if_false]
    rw [later, List.length_cons]
    congr 2
    omega

private theorem placeAfter_tagged {front after : List String} (tagged : hasTag row = true)
    (inner : ∀ r ∈ front ++ row :: after, isClosing r = false)
    (untagged : ∀ r ∈ after, hasTag r = false) (closes : isClosing closing = true) :
    placeAfter position afterField (front ++ row :: (after ++ closing :: rest)) =
      some (position + front.length + 1) := by
  induction front generalizing position afterField with
  | nil =>
    rw [List.nil_append, placeAfter, tagged, inner row (by simp)]
    exact placeAfter_untagged (position + 1) (fun r mem => inner r (by simp [mem])) untagged closes
  | cons r front ih =>
    rw [List.cons_append, placeAfter, inner r List.mem_cons_self]
    simp only [Bool.false_eq_true, if_false]
    rw [ih fun r mem => inner r (List.mem_cons_of_mem _ mem), List.length_cons]
    congr 1
    omega

private theorem closing_of_placeAfter {k : Nat}
    (found : placeAfter position afterField all = some k) :
    ∃ body closing rest, all = body ++ closing :: rest ∧ (∀ r ∈ body, isClosing r = false) ∧
      isClosing closing = true := by
  induction all generalizing position afterField with
  | nil => cases found
  | cons r rows ih =>
    cases closes : isClosing r with
    | true => exact ⟨[], r, rows, rfl, nofun, closes⟩
    | false =>
      rw [placeAfter, closes] at found
      obtain ⟨body, closing, rest, rfl, inner, last⟩ := ih found
      refine ⟨r :: body, closing, rest, rfl, ?_, last⟩
      exact List.forall_mem_cons.2 ⟨closes, inner⟩

end Search

/-- The rows of a file, taken apart where a field of the parent goes. -/
structure Site (parent : String) where
  front : List String
  /-- The first row with the header of the parent. -/
  opening : String
  /-- What the field comes after, and what after the field. -/
  before : List String
  after : List String
  /-- The first row after the opening that closes a struct. -/
  closing : String
  rest : List String
  first : ∀ row ∈ front, Text.Search.contains row (header parent) = false
  opens : Text.Search.contains opening (header parent) = true
  inner : ∀ row ∈ before ++ after, isClosing row = false
  closes : isClosing closing = true
  untagged : ∀ row ∈ after, hasTag row = false
  last : (∃ fields field, before = fields ++ [field] ∧ hasTag field = true) ∨
    after = [] ∧ ∀ row ∈ before, hasTag row = false

namespace Site

def rows (site : Site parent) : List String :=
  site.front ++ site.opening :: (site.before ++ (site.after ++ site.closing :: site.rest))

/-- The rows with a block at the site. -/
def withBlock (site : Site parent) (block : String) : List String :=
  site.front ++ site.opening :: (site.before ++ block :: (site.after ++ site.closing :: site.rest))

/-- The number of the row that the field comes before. -/
def place (site : Site parent) : Nat :=
  site.front.length + 1 + site.before.length

/-- The rows that a new field stands below. -/
def above (site : Site parent) : List String :=
  site.front ++ site.opening :: site.before

theorem rows_eq_above (site : Site parent) :
    site.rows = site.above ++ (site.after ++ site.closing :: site.rest) := by
  simp [rows, above]

theorem length_above (site : Site parent) : site.above.length = site.place := by
  simp [place, above]
  omega

theorem insertAt_place (site : Site parent) (block : String) :
    insertAt site.place block site.rows = site.withBlock block := by
  rw [insertAt, ← site.length_above, site.rows_eq_above, List.take_left, List.drop_left]
  simp [above, withBlock]

private theorem findIdx?_rows (site : Site parent) :
    site.rows.findIdx? (Text.Search.contains · (header parent)) = some site.front.length := by
  have none_ : site.front.findIdx? (Text.Search.contains · (header parent)) = none :=
    List.findIdx?_eq_none_iff.2 site.first
  rw [rows, List.findIdx?_append, none_, List.findIdx?_cons, site.opens]
  simp

private theorem place?_rows (site : Site parent) : place? parent site.rows = some site.place := by
  have start := site.findIdx?_rows
  have below : site.rows.drop (site.front.length + 1) =
      site.before ++ (site.after ++ site.closing :: site.rest) := by
    rw [rows, ← List.drop_drop, List.drop_left]
    rfl
  have found : placeAfter (site.front.length + 1) none
      (site.before ++ (site.after ++ site.closing :: site.rest)) = some site.place := by
    have inner := site.inner
    rcases site.last with ⟨fields, field, whole, tagged⟩ | ⟨none_, untagged⟩
    · rw [whole, List.append_assoc, List.singleton_append] at inner
      have decided : placeAfter (site.front.length + 1) none
          (fields ++ field :: (site.after ++ site.closing :: site.rest)) = _ :=
        placeAfter_tagged tagged inner site.untagged site.closes
      simpa [place, whole, Nat.add_assoc] using decided
    · rw [none_, List.append_nil] at inner
      rw [none_]
      exact placeAfter_untagged _ inner untagged site.closes
  unfold place?
  rw [start]
  exact (congrArg (placeAfter _ none) below).trans found

private theorem takeWhile_body (site : Site parent) :
    (site.before ++ (site.after ++ site.closing :: site.rest)).takeWhile (!isClosing ·) =
      site.before ++ site.after := by
  rw [← List.append_assoc, List.takeWhile_append_of_pos (by simpa using site.inner),
    List.takeWhile_cons_of_neg (by simp [site.closes]), List.append_nil]

theorem eq_of_rows {site other : Site parent} (same : site.rows = other.rows) : site = other := by
  -- the front ends at the header, what is before a field at its place, what is after it at the end
  have fronts : site.front.length = other.front.length := by
    have start := site.findIdx?_rows
    rw [same, other.findIdx?_rows] at start
    exact (Option.some.inj start).symm
  have places : site.place = other.place := by
    have found := site.place?_rows
    rw [same, other.place?_rows] at found
    exact (Option.some.inj found).symm
  obtain ⟨front, below⟩ := List.append_inj same fronts
  obtain ⟨opening, below⟩ := List.cons.inj below
  have bodies := congrArg (List.takeWhile (!isClosing ·)) below
  rw [site.takeWhile_body, other.takeWhile_body] at bodies
  obtain ⟨before, after⟩ := List.append_inj bodies (by simp only [place] at places; omega)
  rw [before, after] at below
  obtain ⟨closing, rest⟩ := List.cons.inj (List.append_cancel_left (List.append_cancel_left below))
  cases site
  cases other
  dsimp only at front opening before after closing rest
  subst front opening before after closing rest
  rfl

private theorem split_body (body : List String) : ∃ before after, body = before ++ after ∧
    (∀ row ∈ after, hasTag row = false) ∧
    ((∃ fields field, before = fields ++ [field] ∧ hasTag field = true) ∨
      after = [] ∧ ∀ row ∈ before, hasTag row = false) := by
  -- from the end, since it is the last tag that counts
  induction body using List.reverseRecOn with
  | nil => exact ⟨[], [], rfl, nofun, .inr ⟨rfl, nofun⟩⟩
  | append_singleton body row ih =>
    cases tagged : hasTag row with
    | true => exact ⟨body ++ [row], [], by simp, nofun, .inl ⟨body, row, rfl, tagged⟩⟩
    | false =>
      obtain ⟨before, after, rfl, untagged, some_ | ⟨rfl, none_⟩⟩ := ih
      · refine ⟨before, after ++ [row], by simp, ?_, .inl some_⟩
        simpa [or_imp, forall_and, tagged] using untagged
      · refine ⟨before ++ [row], [], by simp, nofun, .inr ⟨rfl, ?_⟩⟩
        simpa [or_imp, forall_and, tagged] using none_

/-- Rows have a place for a field where they are those of a site, and it is the place of that. -/
theorem place?_eq_some_iff {k : Nat} : place? parent all = some k ↔
    ∃ site : Site parent, all = site.rows ∧ k = site.place := by
  constructor
  · intro found
    obtain ⟨start, headed, found'⟩ := Option.bind_eq_some_iff.1 found
    obtain ⟨short, opens, first⟩ := List.findIdx?_eq_some_iff_getElem.1 headed
    obtain ⟨body, closing, rest, below, inner, closes⟩ := closing_of_placeAfter found'
    obtain ⟨before, after, rfl, untagged, last⟩ := split_body body
    have first : ∀ row ∈ all.take start, Text.Search.contains row (header parent) = false := by
      intro row mem
      obtain ⟨i, inside, rfl⟩ := List.mem_take_iff_getElem.1 mem
      exact Bool.eq_false_iff.2 (first i (by omega))
    let site : Site parent := {
      front := all.take start, opening := all[start]
      before, after, closing, rest, first, opens, inner, closes, untagged, last }
    have whole : all = site.rows := by
      rw [Site.rows, ← List.append_assoc site.before, ← below, List.getElem_cons_drop,
        List.take_append_drop]
    refine ⟨site, whole, ?_⟩
    rw [whole, site.place?_rows] at found
    exact (Option.some.inj found).symm
  · rintro ⟨site, rfl, rfl⟩
    exact site.place?_rows

end Site

/-- A text with a block put into it has the rows of a site, with the block there. -/
theorem insert?_eq_some_iff {changed : String} : insert? parent block content = some changed ↔
    ∃ site : Site parent, Text.Line.rows content = site.rows ∧
      changed = Text.Line.ofRows (site.withBlock block) := by
  unfold insert?
  dsimp only
  constructor
  · intro put
    obtain ⟨place, found, made⟩ := Option.bind_eq_some_iff.1 put
    obtain ⟨site, whole, rfl⟩ := Site.place?_eq_some_iff.1 found
    cases made
    exact ⟨site, whole, by rw [whole, site.insertAt_place]⟩
  · rintro ⟨site, whole, rfl⟩
    rw [whole, Site.place?_eq_some_iff.2 ⟨site, rfl, rfl⟩, ← site.insertAt_place]
    rfl

end ConnectorKit.Field
