import ConnectorKit.Proofs.Text.Search
import ConnectorKit.Scaffold.NameFormat

/-!
How a format of names is read, and what the printer makes of it. A format is read from left to right
as characters and placeholders; there is one reading. The placeholders are replaced one name after
the other, and as no name has a brace in it this comes to the same as replacing them all in the
reading.
-/

set_option autoImplicit false
set_option relaxedAutoImplicit false

namespace ConnectorKit.Scaffold.NameFormat

open Text.Search (replaceFrom)

/-- A character of a format, or a placeholder with its name. -/
inductive Token where
  | char (c : Char)
  | hole (name : String)
  deriving DecidableEq, Repr

/-- The format is read as the tokens: where the placeholder of a known name starts it is taken, and
anything else is taken character by character. -/
inductive Reads (known : List String) : List Char → List Token → Prop
  | nil : Reads known [] []
  | char {c : Char} {rest : List Char} {tokens : List Token} :
      (∀ name ∈ known, ¬ (placeholder name).toList <+: c :: rest) →
      Reads known rest tokens → Reads known (c :: rest) (.char c :: tokens)
  | hole {name : String} {rest : List Char} {tokens : List Token} :
      name ∈ known → Reads known rest tokens →
      Reads known ((placeholder name).toList ++ rest) (.hole name :: tokens)

/-- What stands for a token, with `put` for the placeholders. -/
def Token.fill (put : String → List Char) : Token → List Char
  | .char c => [c]
  | .hole name => put name

def written (put : String → List Char) (tokens : List Token) : List Char :=
  tokens.flatMap (Token.fill put)

/-- What the printer puts an operand for. -/
def verb : List Char :=
  ['%', 's']

/-- A verb for the names that are replaced, and the placeholder for the others. -/
def verbFor (replaced : List String) (name : String) : List Char :=
  if name ∈ replaced then verb else (placeholder name).toList

/-- A name that neither opens nor closes a placeholder, and has no verb in it. -/
structure Unmarked (name : String) : Prop where
  opening : '{' ∉ name.toList
  closing : '}' ∉ name.toList
  percent : '%' ∉ name.toList

variable {known replaced : List String} {name other : String} {text front rest : List Char}
  {tokens tokens' : List Token}

theorem toList_placeholder (name : String) :
    (placeholder name).toList = '{' :: (name.toList ++ ['}']) := by
  simp [placeholder]

theorem placeholder_inj (closing : '}' ∉ name.toList) (closing' : '}' ∉ other.toList)
    {rest' : List Char}
    (same : (placeholder name).toList ++ rest = (placeholder other).toList ++ rest') :
    name = other ∧ rest = rest' := by
  simp only [toList_placeholder, List.cons_append, List.append_assoc, List.cons.injEq, true_and,
    List.nil_append] at same
  have shorter : name.toList <+: other.toList :=
    (Text.Search.prefix_append_cons closing).1 (same ▸ List.prefix_append _ _)
  have longer : other.toList <+: name.toList :=
    (Text.Search.prefix_append_cons closing').1 (same.symm ▸ List.prefix_append _ _)
  have names := shorter.eq_of_length_le longer.length_le
  rw [names] at same
  exact ⟨String.toList_inj.1 names, (List.cons.inj (List.append_cancel_left same)).2⟩

namespace Reads

theorem eq_written (reads : Reads known text tokens) : text = written (verbFor []) tokens := by
  induction reads with
  | nil => rfl
  | char _ _ ih => exact congrArg _ ih
  | hole _ _ ih => exact congrArg _ ih

theorem mem_known (reads : Reads known text tokens) (mem : .hole name ∈ tokens) : name ∈ known := by
  induction reads with
  | nil => cases mem
  | char _ _ ih => exact ih (by simpa using mem)
  | hole own _ ih =>
    rcases List.mem_cons.1 mem with same | later
    · exact (Token.hole.inj same) ▸ own
    · exact ih later

theorem mem_text {c : Char} (reads : Reads known text tokens) (mem : .char c ∈ tokens) : c ∈ text := by
  induction reads with
  | nil => cases mem
  | char _ _ ih =>
    rcases List.mem_cons.1 mem with same | later
    · exact (Token.char.inj same) ▸ List.mem_cons_self
    · exact List.mem_cons_of_mem _ (ih later)
  | hole _ _ ih => exact List.mem_append_right _ (ih (by simpa using mem))

theorem append_text (reads : Reads known rest tokens) (plain : '{' ∉ front) :
    Reads known (front ++ rest) (front.map .char ++ tokens) := by
  induction front with
  | nil => exact reads
  | cons c front ih =>
    obtain ⟨apart, later⟩ := List.ne_and_not_mem_of_not_mem_cons plain
    refine .char (fun name _ start => apart ?_) (ih later)
    rw [toList_placeholder] at start
    exact (List.cons_prefix_cons.1 start).1

end Reads

theorem exists_reads (known : List String) (text : List Char) : ∃ tokens, Reads known text tokens := by
  by_cases start : ∃ name ∈ known, (placeholder name).toList <+: text
  · obtain ⟨name, mem, rest, whole⟩ := start
    have shorter : rest.length < text.length := by
      have size := congrArg List.length whole
      rw [List.length_append, toList_placeholder, List.length_cons] at size
      omega
    obtain ⟨tokens, reads⟩ := exists_reads known rest
    rw [← whole]
    exact ⟨_, .hole mem reads⟩
  · cases text with
    | nil => exact ⟨[], .nil⟩
    | cons c rest =>
      obtain ⟨tokens, reads⟩ := exists_reads known rest
      exact ⟨_, .char (fun name mem prefixed => start ⟨name, mem, prefixed⟩) reads⟩
termination_by text.length

theorem Reads.unique (unmarked : ∀ name ∈ known, Unmarked name) (reads : Reads known text tokens)
    (reads' : Reads known text tokens') : tokens' = tokens := by
  induction reads generalizing tokens' with
  | nil =>
    generalize empty : ([] : List Char) = text at reads'
    cases reads' with
    | nil => rfl
    | char => cases empty
    | hole => simp [toList_placeholder] at empty
  | @char c rest tokens apart _ ih =>
    generalize whole : c :: rest = text at reads'
    cases reads' with
    | nil => cases whole
    | char _ later =>
      obtain ⟨rfl, rfl⟩ := List.cons.inj whole
      rw [ih later]
    | @hole name rest' _ mem _ => exact absurd ⟨rest', whole.symm⟩ (apart name mem)
  | @hole name rest tokens mem _ ih =>
    generalize whole : (placeholder name).toList ++ rest = text at reads'
    cases reads' with
    | nil => simp [toList_placeholder] at whole
    | char apart _ => exact absurd ⟨rest, whole⟩ (apart name mem)
    | @hole other rest' _ mem' later =>
      obtain ⟨rfl, rfl⟩ :=
        placeholder_inj (unmarked name mem).closing (unmarked other mem').closing whole
      rw [ih later]

section Replace

private theorem exists_verbFor (replaced : List String) (name : String) :
    ∃ c rest, verbFor replaced name = c :: rest ∧ (c = '{' ∨ c = '%') := by
  unfold verbFor
  split
  · exact ⟨'%', ['s'], rfl, .inr rfl⟩
  · exact ⟨'{', _, toList_placeholder name, .inl rfl⟩

private theorem prefix_written (opening : '{' ∉ front) (percent : '%' ∉ front)
    (start : front <+: written (verbFor replaced) tokens) : front <+: written (verbFor []) tokens := by
  induction tokens generalizing front with
  | nil => exact start
  | cons token tokens ih =>
    cases front with
    | nil => exact List.nil_prefix
    | cons a front =>
      obtain ⟨apart, opening⟩ := List.ne_and_not_mem_of_not_mem_cons opening
      obtain ⟨apart', percent⟩ := List.ne_and_not_mem_of_not_mem_cons percent
      cases token with
      | char c =>
        obtain ⟨rfl, later⟩ := List.cons_prefix_cons.1 start
        exact List.cons_prefix_cons.2 ⟨rfl, ih opening percent later⟩
      | hole name =>
        obtain ⟨c, rest, image, mark⟩ := exists_verbFor replaced name
        have head : a :: front <+: verbFor replaced name ++ written (verbFor replaced) tokens := start
        rw [image] at head
        obtain ⟨rfl, -⟩ := List.cons_prefix_cons.1 head
        exact absurd mark (not_or.2 ⟨Ne.symm apart, Ne.symm apart'⟩)

private theorem replaceFrom_written (unmarked : ∀ name ∈ known, Unmarked name)
    (reads : Reads known text tokens) (mem : name ∈ known) :
    replaceFrom (placeholder name).toList verb 0 (written (verbFor replaced) tokens) =
      written (verbFor (name :: replaced)) tokens := by
  have first : (placeholder name).toList.head? = some '{' := by simp [toList_placeholder]
  induction reads with
  | nil => rfl
  | @char c rest tokens apart reads ih =>
    refine (Text.Search.replaceFrom_cons fun start => ?_).trans (congrArg _ ih)
    -- the placeholder would have started there in the format itself
    refine apart name mem ?_
    rw [toList_placeholder] at start ⊢
    obtain ⟨same, inner⟩ := List.cons_prefix_cons.1 start
    refine List.cons_prefix_cons.2 ⟨same, ?_⟩
    rw [reads.eq_written]
    obtain ⟨opening, -, percent⟩ := unmarked name mem
    exact prefix_written (by simp [opening]) (by simp [percent]) inner
  | @hole other rest tokens mem' reads ih =>
    have step (put : List Char) (kept : replaceFrom (placeholder name).toList verb 0
          (verbFor replaced other ++ written (verbFor replaced) tokens) =
        put ++ replaceFrom (placeholder name).toList verb 0
          (written (verbFor replaced) tokens))
        (image : verbFor (name :: replaced) other = put) :
        replaceFrom (placeholder name).toList verb 0
            (written (verbFor replaced) (.hole other :: tokens)) =
          written (verbFor (name :: replaced)) (.hole other :: tokens) := by
      refine kept.trans ?_
      rw [ih, ← image]
      rfl
    by_cases done : other ∈ replaced
    · have already : verbFor replaced other = verb := if_pos done
      refine step verb ?_ (if_pos (List.mem_cons_of_mem _ done))
      rw [already]
      exact Text.Search.replaceFrom_append first (by decide) _
    · have still : verbFor replaced other = (placeholder other).toList := if_neg done
      rw [still] at step
      by_cases same : other = name
      · subst same
        refine step verb (Text.Search.replaceFrom_sought ?_ _) (if_pos List.mem_cons_self)
        simp [toList_placeholder]
      · refine step _ ?_ (if_neg (by simp [same, done]))
        obtain ⟨opening, closing, -⟩ := unmarked other mem'
        rw [toList_placeholder other, List.cons_append, Text.Search.replaceFrom_cons]
        · exact congrArg _ (Text.Search.replaceFrom_append first (by simp [opening]) _)
        · rintro ⟨rest', whole⟩
          rw [← List.cons_append, ← toList_placeholder] at whole
          exact same
            (placeholder_inj (unmarked name mem).closing closing whole).1.symm

private theorem foldl_replace (replaced : List String) (unmarked : ∀ name ∈ known, Unmarked name)
    (reads : Reads known text tokens) {names : List String} (mem : ∀ name ∈ names, name ∈ known) :
    (names.foldl (fun text name => Text.Search.replace text (placeholder name) "%s")
      (String.ofList (written (verbFor replaced) tokens))).toList =
        written (verbFor (names.reverse ++ replaced)) tokens := by
  induction names generalizing replaced with
  | nil => exact String.toList_ofList
  | cons name names ih =>
    have next : Text.Search.replace (String.ofList (written (verbFor replaced) tokens))
        (placeholder name) "%s" = String.ofList (written (verbFor (name :: replaced)) tokens) := by
      have chars : (String.ofList (written (verbFor replaced) tokens)).toList =
          written (verbFor replaced) tokens := String.toList_ofList
      rw [Text.Search.replace, chars]
      exact congrArg String.ofList (replaceFrom_written unmarked reads (mem name List.mem_cons_self))
    rw [List.foldl_cons, next, ih _ fun n later => mem n (List.mem_cons_of_mem _ later)]
    simp

end Replace

/-- The names of the placeholders, `lower` being that of the resource. -/
def names (lower : String) : List String :=
  ["project", "location", lower]

theorem unmarked_names {lower : String} (unmarked : Unmarked lower) :
    ∀ name ∈ names lower, Unmarked name := by
  simp only [names, List.forall_mem_cons]
  exact ⟨⟨by decide, by decide, by decide⟩, ⟨by decide, by decide, by decide⟩, unmarked,
    List.forall_mem_nil _⟩

/-- The printer's format has a verb for each placeholder in the reading. -/
theorem printed_eq {format lower : String} (unmarked : Unmarked lower)
    (reads : Reads (names lower) format.toList tokens) :
    (printed format lower).toList = written (fun _ => verb) tokens := by
  have whole : format = String.ofList (written (verbFor []) tokens) := by
    rw [← reads.eq_written, String.ofList_toList]
  have all := foldl_replace [] (unmarked_names unmarked) reads fun _ mem => mem
  rw [← whole] at all
  refine all.trans (List.flatMap_congr fun token mem => ?_)
  cases token with
  | char c => rfl
  | hole name => exact if_pos (by simpa using reads.mem_known mem)

section Printed

variable {lower : String}

theorem printed_append_text (unmarked : Unmarked lower) {front : String} (plain : '{' ∉ front.toList)
    (rest : String) : printed (front ++ rest) lower = front ++ printed rest lower := by
  obtain ⟨tokens, reads⟩ := exists_reads (names lower) rest.toList
  have whole : Reads (names lower) (front ++ rest).toList (front.toList.map .char ++ tokens) := by
    rw [String.toList_append]
    exact reads.append_text plain
  have chars : written (fun _ => verb) (front.toList.map .char) = front.toList := by
    rw [written, List.flatMap_map]
    exact List.flatMap_singleton' _
  refine String.toList_inj.1 ?_
  rw [printed_eq unmarked whole, String.toList_append, printed_eq unmarked reads, written,
    List.flatMap_append]
  exact congrArg (· ++ _) chars

theorem printed_append_placeholder (unmarked : Unmarked lower) (known : name ∈ names lower)
    (rest : String) : printed (placeholder name ++ rest) lower = "%s" ++ printed rest lower := by
  obtain ⟨tokens, reads⟩ := exists_reads (names lower) rest.toList
  have whole : Reads (names lower) (placeholder name ++ rest).toList (.hole name :: tokens) := by
    rw [String.toList_append]
    exact .hole known reads
  refine String.toList_inj.1 ?_
  rw [printed_eq unmarked whole, String.toList_append, printed_eq unmarked reads]
  rfl

end Printed

section Segments

variable {format lower : String}

theorem isPlaceholder_placeholder (name : String) : isPlaceholder (placeholder name) = true := by
  refine List.isPrefixOf_iff_prefix.2 ?_
  rw [toList_placeholder]
  exact ⟨_, rfl⟩

theorem isPlaceholder_of_not_mem {segment : String} (plain : '{' ∉ segment.toList) :
    isPlaceholder segment = false := by
  refine Bool.eq_false_iff.2 fun start => plain ?_
  exact (List.isPrefixOf_iff_prefix.1 start).subset (by decide)

theorem collection?_eq_some_iff : collection? format = some name ↔
    ∃ before last, segments format = before ++ [name, last] ∧ name ≠ "" ∧
      isPlaceholder name = false := by
  have turned {parts : List String} {last : String} {more : List String}
      (back : parts.reverse = last :: name :: more) : parts = more.reverse ++ [name, last] := by
    rw [← List.reverse_reverse parts, back]
    simp
  constructor
  · intro found
    unfold collection? at found
    split at found
    · rename_i last other more back
      split at found
      · cases found
      · rename_i fit
        cases found
        rw [not_or, Bool.not_eq_true] at fit
        exact ⟨more.reverse, last, turned back, fit⟩
    · cases found
  · rintro ⟨before, last, parts, nonempty, literal⟩
    unfold collection?
    rw [parts]
    simp [nonempty, literal]

/-- The format ends in a collection and the placeholder of the resource. -/
def EndsIn (lower format : String) : Prop :=
  ∃ before collection, segments format = before ++ [collection, placeholder lower] ∧
    collection ≠ "" ∧ isPlaceholder collection = false

/-- With a collection it does so just when its last segment is that placeholder. -/
theorem endsIn_iff {collection last : String} {before : List String}
    (parts : segments format = before ++ [collection, last]) (nonempty : collection ≠ "")
    (literal : isPlaceholder collection = false) :
    EndsIn lower format ↔ last = placeholder lower := by
  constructor
  · rintro ⟨before', collection', parts', -, -⟩
    have same := congrArg List.getLast? (parts.symm.trans parts')
    simpa using same
  · rintro rfl
    exact ⟨before, collection, parts, nonempty, literal⟩

end Segments

end ConnectorKit.Scaffold.NameFormat
