import ConnectorKit.Proofs.Field.Addition

/-!
How deep a new field stands. Braces are counted from the declaration of the parent, and the field is
a member of it where one brace is open. The search for the place does not count: it ends at the first
row that closes a struct, and that may be one inside the parent.
-/

set_option autoImplicit false
set_option relaxedAutoImplicit false

namespace ConnectorKit.Field

open Disk (Repository Route)

section Level

/-- How many braces are open after a text, of which `depth` were open before it; none where all were
closed on the way. -/
def level? (depth : Nat) : List Char → Option Nat
  | [] => some depth
  | c :: rest =>
    if c = '{' then level? (depth + 1) rest
    else if c = '}' then if depth ≤ 1 then none else level? (depth - 1) rest
    else level? depth rest

variable {depth k : Nat} {text : List Char}

theorem level?_append (depth : Nat) (text more : List Char) :
    level? depth (text ++ more) = (level? depth text).bind (level? · more) := by
  induction text generalizing depth with
  | nil => rfl
  | cons c rest ih =>
    rw [List.cons_append, level?, level?]
    by_cases opens : c = '{'
    · rw [if_pos opens, if_pos opens, ih]
    · rw [if_neg opens, if_neg opens]
      by_cases closes : c = '}'
      · rw [if_pos closes, if_pos closes]
        split
        · rfl
        · exact ih _
      · rw [if_neg closes, if_neg closes, ih]

theorem level?_add (reached : level? depth text = some k) (more : Nat) :
    level? (depth + more) text = some (k + more) := by
  induction text generalizing depth with
  | nil =>
    cases reached
    rfl
  | cons c rest ih =>
    rw [level?] at reached ⊢
    by_cases opens : c = '{'
    · rw [if_pos opens] at reached ⊢
      rw [Nat.add_right_comm]
      exact ih reached
    · rw [if_neg opens] at reached ⊢
      by_cases closes : c = '}'
      · rw [if_pos closes] at reached ⊢
        by_cases last : depth ≤ 1
        · rw [if_pos last] at reached
          cases reached
        · rw [if_neg last] at reached
          have deeper : depth + more - 1 = depth - 1 + more := by omega
          rw [if_neg (by omega), deeper]
          exact ih reached
      · rw [if_neg closes] at reached ⊢
        exact ih reached

/-- A text that closes what it opens, and nothing else. -/
def Balanced (text : List Char) : Prop :=
  level? 1 text = some 1

instance (text : List Char) : Decidable (Balanced text) :=
  inferInstanceAs (Decidable (_ = _))

theorem Balanced.append {more : List Char} (h : Balanced text) (h' : Balanced more) :
    Balanced (text ++ more) := by
  rw [Balanced, level?_append, h]
  exact h'

theorem Balanced.flatten {texts : List (List Char)} (each : ∀ text ∈ texts, Balanced text) :
    Balanced texts.flatten := by
  induction texts with
  | nil => rfl
  | cons text texts ih =>
    rw [List.flatten_cons]
    exact (each text List.mem_cons_self).append (ih fun t mem => each t (List.mem_cons_of_mem _ mem))

theorem level?_pos (positive : 0 < depth) (reached : level? depth text = some k) : 0 < k := by
  induction text generalizing depth with
  | nil =>
    cases reached
    exact positive
  | cons c rest ih =>
    rw [level?] at reached
    split at reached
    · exact ih (Nat.succ_pos _) reached
    · split at reached
      · split at reached
        · cases reached
        · exact ih (by omega) reached
      · exact ih positive reached

theorem eq_one_iff_balanced (positive : 0 < depth) (left : level? depth text = some 1) :
    depth = 1 ↔ Balanced text := by
  constructor
  · rintro rfl
    exact left
  · intro balanced
    -- a balanced text leaves open what was open, so nothing more was
    have raised := level?_add balanced (depth - 1)
    have whole : 1 + (depth - 1) = depth := by omega
    rw [whole, left] at raised
    exact (Option.some.inj raised).symm

end Level

section Declaration

/-- What follows a text in a row, from where it stands first outside a comment. -/
def outside? (needle : List Char) : List Char → Option (List Char)
  | [] => none
  | c :: rest =>
    match Text.Search.afterChars? needle (c :: rest) with
    | some tail => some tail
    | none => if "//".toList.isPrefixOf (c :: rest) then none else outside? needle rest

theorem outside?_eq_some {needle row tail : List Char} (found : outside? needle row = some tail) :
    ∃ lead, row = lead ++ (needle ++ tail) ∧ ¬ "//".toList <:+: lead := by
  induction row with
  | nil => cases found
  | cons c rest ih =>
    rw [outside?] at found
    split at found
    · rename_i tail' here
      cases found
      exact ⟨[], by rw [Text.Search.afterChars?_eq_some.1 here, List.nil_append], by simp⟩
    · split at found
      · cases found
      · rename_i plain
        obtain ⟨lead, rfl, inner⟩ := ih found
        -- a comment that starts here would have ended the search
        refine ⟨c :: lead, rfl, fun comment => ?_⟩
        rcases List.infix_cons_iff.1 comment with start | later
        · refine plain (List.isPrefixOf_iff_prefix.2 (start.trans ?_))
          exact List.cons_prefix_cons.2 ⟨rfl, List.prefix_append _ _⟩
        · exact inner later

/-- How many braces are open below rows, counted from the first declaration of the parent in them. -/
def depth? (parent : String) : List String → Option Nat
  | [] => none
  | row :: rows =>
    match outside? (header parent).toList row.toList with
    | some tail => level? 1 (tail ++ (rows.map String.toList).flatten)
    | none => depth? parent rows

/-- What stands below the rows is a member of the parent. -/
def Member (parent : String) (above : List String) : Prop :=
  depth? parent above = some 1

instance (parent : String) (above : List String) : Decidable (Member parent above) :=
  inferInstanceAs (Decidable (_ = _))

namespace Site

variable {parent : String} {tail : List Char}

private theorem depth?_opening (site : Site parent)
    (declares : outside? (header parent).toList site.opening.toList = some tail)
    (rows : List String) : depth? parent (site.front ++ site.opening :: rows) =
      level? 1 (tail ++ (rows.map String.toList).flatten) := by
  have first := site.first
  generalize site.front = front at first
  induction front with
  | nil => rw [List.nil_append, depth?, declares]
  | cons row front ih =>
    have none_ : outside? (header parent).toList row.toList = none := by
      refine Option.eq_none_iff_forall_ne_some.2 fun tail' found => ?_
      obtain ⟨lead, whole, -⟩ := outside?_eq_some found
      have inside : Text.Search.contains row (header parent) = true :=
        Text.Search.contains_iff.2 ⟨lead, tail', by rw [whole, List.append_assoc]⟩
      rw [first row List.mem_cons_self] at inside
      cases inside
    rw [List.cons_append, depth?, none_]
    exact ih fun r mem => first r (List.mem_cons_of_mem _ mem)

theorem member_of_balanced (site : Site parent)
    (declares : outside? (header parent).toList site.opening.toList = some tail)
    (behind : Balanced tail) (each : ∀ row ∈ site.before, Balanced row.toList) :
    Member parent site.above := by
  refine (site.depth?_opening declares site.before).trans (behind.append (.flatten ?_))
  intro text mem
  obtain ⟨row, inside, rfl⟩ := List.mem_map.1 mem
  exact each row inside

/-- Where the search ends at the closing brace of the parent, a field is a member just in case the
rows between it and that brace are balanced. -/
theorem member_iff_balanced (site : Site parent)
    (declares : outside? (header parent).toList site.opening.toList = some tail)
    (own : Member parent (site.above ++ site.after)) :
    Member parent site.above ↔ Balanced (site.after.map String.toList).flatten := by
  have counted := site.depth?_opening declares site.before
  have closed := site.depth?_opening declares (site.before ++ site.after)
  rw [List.map_append, List.flatten_append, ← List.append_assoc, level?_append, ← counted] at closed
  unfold Member at own
  rw [above, List.append_assoc, List.cons_append, closed] at own
  obtain ⟨depth, reached, left⟩ := Option.bind_eq_some_iff.1 own
  have positive := level?_pos Nat.one_pos (counted.symm.trans reached)
  unfold Member above
  rw [reached, Option.some.injEq]
  exact eq_one_iff_balanced positive left

end Site

end Declaration

variable {engine : Text.Glob.Engine} {d : Disk} {root : String} {base : Route} {r : Request}

/-- An added field is a member of the parent where the rows above it are balanced, below the header of
the parent. Where the search has ended at the closing brace of the parent, it is one only if the rows
from there to that brace are balanced as well: the last tag must not be in a struct inside it. -/
theorem add_member_iff_balanced (repo : Repository d root base) {text : String} {d' : Disk}
    (added : (add engine root r).perform d = (.ok text, d')) :
    ∃ a : Addition engine root base r text d d',
      let changed := Text.Line.ofRows (a.site.withBlock (r.block a.kind))
      (Text.Line.rows changed).take a.site.place = a.site.above ∧
      ∀ tail, outside? (header r.parent).toList a.site.opening.toList = some tail →
        (Balanced tail → (∀ row ∈ a.site.before, Balanced row.toList) →
          Member r.parent a.site.above) ∧
        (Member r.parent (a.site.above ++ a.site.after) →
          (Member r.parent a.site.above ↔ Balanced (a.site.after.map String.toList).flatten)) := by
  obtain ⟨a⟩ := addition_of_ok repo added
  refine ⟨a, ?_, fun tail declares => ⟨fun behind each => ?_, fun own => ?_⟩⟩
  · exact a.site.take_changed a.rows_eq _
  · exact a.site.member_of_balanced declares behind each
  · exact a.site.member_iff_balanced declares own

/-- Rows of a types file with a comment after the last field. -/
def flatRows : List String :=
  ["type DiskSpec struct \x7b", "\tName *string `json:\"name\"`", "\t// more", "\x7d"]

def flatSite : Site sizeRequest.parent where
  front := []
  opening := "type DiskSpec struct \x7b"
  before := ["\tName *string `json:\"name\"`"]
  after := ["\t// more"]
  closing := "\x7d"
  rest := []
  first := nofun
  opens := by decide
  inner := by decide
  closes := by decide
  untagged := by decide
  last := .inl ⟨[], _, rfl, by decide⟩

/-- A struct without structs inside it gets the field as a member. -/
theorem add_member_flat :
    let d := withTypes (Text.Line.ofRows flatRows)
    Repository d "/repo" ["repo"] ∧
      ∃ text d', (add .unlimited "/repo" sizeRequest).perform d = (.ok text, d') ∧
      ∃ a : Addition .unlimited "/repo" ["repo"] sizeRequest text d d',
        Member sizeRequest.parent a.site.above := by
  intro d
  have repo : Repository d "/repo" ["repo"] := by decide +kernel
  obtain ⟨text, d', added⟩ := Action.exists_of_isOk
    (by decide +kernel : ((add .unlimited "/repo" sizeRequest).perform d).1.isOk = true)
  obtain ⟨a, -, members⟩ := add_member_iff_balanced repo added
  have site : a.site = flatSite := Site.eq_of_rows (by
    rw [← a.rows_eq, a.content_eq repo rfl]
    decide +kernel)
  refine ⟨repo, text, d', added, a, ?_⟩
  have declares : outside? (header sizeRequest.parent).toList a.site.opening.toList = some [] := by
    rw [site]
    decide
  refine (members [] declares).1 (by decide) ?_
  rw [site]
  decide

/-- Rows of a types file with a struct inside the parent, closed in a row of its own. -/
def nestedRows : List String :=
  ["type DiskSpec struct \x7b", "\tImage struct \x7b", "\t\tName *string `json:\"name\"`", "\t\x7d",
    "\tZone *string `json:\"zone\"`", "\x7d"]

def nestedSite : Site sizeRequest.parent where
  front := []
  opening := "type DiskSpec struct \x7b"
  before := ["\tImage struct \x7b", "\t\tName *string `json:\"name\"`"]
  after := []
  closing := "\t\x7d"
  rest := ["\tZone *string `json:\"zone\"`", "\x7d"]
  first := nofun
  opens := by decide
  inner := by decide
  closes := by decide
  untagged := nofun
  last := .inl ⟨["\tImage struct \x7b"], _, rfl, by decide⟩

/-- A struct inside the parent takes the field: the addition succeeds, and the field is no member of
the parent. -/
theorem add_not_member_nested :
    let d := withTypes (Text.Line.ofRows nestedRows)
    Repository d "/repo" ["repo"] ∧
      ∃ text d', (add .unlimited "/repo" sizeRequest).perform d = (.ok text, d') ∧
      ∀ a : Addition .unlimited "/repo" ["repo"] sizeRequest text d d',
        ¬ Member sizeRequest.parent a.site.above := by
  intro d
  have repo : Repository d "/repo" ["repo"] := by decide +kernel
  obtain ⟨text, d', added⟩ := Action.exists_of_isOk
    (by decide +kernel : ((add .unlimited "/repo" sizeRequest).perform d).1.isOk = true)
  refine ⟨repo, text, d', added, fun a => ?_⟩
  have site : a.site = nestedSite := Site.eq_of_rows (by
    rw [← a.rows_eq, a.content_eq repo rfl]
    decide +kernel)
  rw [site]
  decide

end ConnectorKit.Field
