import ConnectorKit.Proofs.Text.Template

/-!
Templates cut at the slots whose keys are bound. The cut is made of the template and the keys alone;
to put the values in is to fill it, so no value can open a slot or close one.
-/

set_option autoImplicit false
set_option relaxedAutoImplicit false

namespace ConnectorKit.Text.Template

variable {bindings : List (String × String)} {template key : String}

/-- The value is that of the first binding of the key. -/
def FirstBinding (bindings : List (String × String)) (key value : String) : Prop :=
  ∃ before after, bindings = before ++ (key, value) :: after ∧ ∀ b ∈ before, b.1 ≠ key

theorem lookup_eq_some_iff {value : String} :
    bindings.lookup key = some value ↔ FirstBinding bindings key value := by
  rw [List.lookup_eq_some_iff]
  simp [FirstBinding, ne_comm]

theorem FirstBinding.unique {value value' : String} (h : FirstBinding bindings key value)
    (h' : FirstBinding bindings key value') : value = value' :=
  Option.some.inj ((lookup_eq_some_iff.2 h).symm.trans (lookup_eq_some_iff.2 h'))

theorem lookup_eq_none (free : ∀ b ∈ bindings, b.1 ≠ key) : bindings.lookup key = none := by
  rw [List.lookup_eq_none_iff]
  simpa [ne_comm] using free

theorem fill_slot_of_bound {value : String} (bound : FirstBinding bindings key value) :
    Piece.fill bindings (.slot key.toList) = value.toList := by
  rw [Piece.fill, String.ofList_toList, lookup_eq_some_iff.2 bound]

theorem fill_slot_of_free (free : ∀ b ∈ bindings, b.1 ≠ key) :
    Piece.fill bindings (.slot key.toList) = (slot key).toList := by
  rw [Piece.fill, String.ofList_toList, lookup_eq_none free]
  simp [braced, slot]

private theorem flatMap_written :
    (∀ text, (pieces text).flatMap (Piece.fill []) = text) ∧
    ∀ key text, (slotPieces key text).flatMap (Piece.fill []) =
      '{' :: '{' :: (key.reverse ++ text) := by
  refine pieces.mutual_induct _ _ ?opening ?char ?done ?closing ?inside ?unended
  case opening =>
    intro rest ih
    rw [pieces, ih]
    rfl
  case char =>
    intro c rest opened ih
    rw [pieces.eq_2 c rest opened, List.flatMap_cons, ih]
    rfl
  case done => rfl
  case closing =>
    intro key rest ih
    rw [slotPieces, List.flatMap_cons, ih]
    simp [Piece.fill, braced]
  case inside =>
    intro key c rest closing ih
    rw [slotPieces.eq_2 key c rest closing, ih]
    simp
  case unended =>
    intro key
    rw [slotPieces, List.flatMap_map, List.append_nil]
    exact List.flatMap_singleton' _

theorem render_nil (template : String) : render template [] = template := by
  rw [render, flatMap_written.1, String.ofList_toList]

theorem exists_of_slot_mem {key : List Char} (mem : .slot key ∈ pieces template.toList) :
    ∃ front back, template = front ++ slot (String.ofList key) ++ back := by
  obtain ⟨before, after, cut⟩ := List.append_of_mem mem
  have whole := flatMap_written.1 template.toList
  rw [cut, List.flatMap_append, List.flatMap_cons] at whole
  refine ⟨String.ofList (before.flatMap (Piece.fill [])),
    String.ofList (after.flatMap (Piece.fill [])), ?_⟩
  rw [← String.toList_inj, ← whole]
  simp [Piece.fill, braced, slot]

theorem render_of_no_slot (none : ¬ ∃ front key back, template = front ++ slot key ++ back)
    (bindings : List (String × String)) : render template bindings = template := by
  conv_rhs => rw [← render_nil template]
  unfold render
  refine congrArg String.ofList (List.flatMap_congr fun piece mem => ?_)
  cases piece with
  | char c => rfl
  | slot key =>
    obtain ⟨front, back, written⟩ := exists_of_slot_mem mem
    exact absurd ⟨front, _, back, written⟩ none

/-- The slot stands where a template has its first opening, and ends where that is first closed. -/
structure Leads (front key : String) : Prop where
  unopened : ¬ ['{', '{'] <:+: front.toList ++ ['{']
  unclosed : ¬ ['}', '}'] <:+: key.toList ++ ['}']

private theorem render_leads {front : String} (leads : Leads front key) (back : String)
    (bindings : List (String × String)) : render (front ++ slot key ++ back) bindings =
      front ++ String.ofList (Piece.fill bindings (.slot key.toList)) ++ render back bindings := by
  have written : (front ++ slot key ++ back).toList =
      front.toList ++ '{' :: '{' :: (key.toList ++ '}' :: '}' :: back.toList) := by
    simp [slot]
  rw [render, written, pieces_append leads.unopened, pieces, slotPieces_append leads.unclosed,
    List.flatMap_append, List.flatMap_cons, List.flatMap_map, String.ofList_append,
    String.ofList_append, String.append_assoc]
  refine congrArg (· ++ _) ?_
  rw [← String.toList_inj, String.toList_ofList]
  exact List.flatMap_singleton' _

theorem render_first_slot {front value : String} (leads : Leads front key)
    (bound : FirstBinding bindings key value) (back : String) :
    render (front ++ slot key ++ back) bindings = front ++ value ++ render back bindings := by
  rw [render_leads leads, fill_slot_of_bound bound, String.ofList_toList]

theorem render_free_slot {front : String} (leads : Leads front key)
    (free : ∀ b ∈ bindings, b.1 ≠ key) (back : String) :
    render (front ++ slot key ++ back) bindings = front ++ slot key ++ render back bindings := by
  rw [render_leads leads, fill_slot_of_free free, String.ofList_toList]

/-- A text cut at slots: what stands before the first of them, and each by its key with what stands
behind it. -/
structure Cut where
  start : String
  slots : List (String × String)
  deriving DecidableEq, Repr

namespace Cut

variable {keys : List String} {value : String → String}

/-- The keys of the slots in their order. -/
def slotKeys (c : Cut) : List String :=
  c.slots.map Prod.fst

/-- What stands between the slots: one text more than there are slots. -/
def literals (c : Cut) : List String :=
  c.start :: c.slots.map Prod.snd

/-- The text with values in the place of the slots. -/
def fill (c : Cut) (value : String → String) : String :=
  c.start ++ String.join (c.slots.map fun (key, behind) => value key ++ behind)

/-- The cut with a text in front. -/
def push (text : String) (c : Cut) : Cut :=
  { c with start := text ++ c.start }

/-- The cut with a slot in front. -/
def lead (key : String) (c : Cut) : Cut :=
  ⟨"", (key, c.start) :: c.slots⟩

theorem fill_push (text : String) (c : Cut) (value : String → String) :
    (c.push text).fill value = text ++ c.fill value := by
  rw [fill, push, String.append_assoc]
  rfl

theorem fill_lead (key : String) (c : Cut) (value : String → String) :
    (c.lead key).fill value = value key ++ c.fill value := by
  rw [fill, lead, List.map_cons, String.empty_append, String.join_cons, fill, String.append_assoc]

theorem fill_congr {c : Cut} {value' : String → String}
    (same : ∀ key ∈ c.slotKeys, value key = value' key) : c.fill value = c.fill value' := by
  unfold fill
  refine congrArg (c.start ++ String.join ·) (List.map_congr_left fun (key, behind) mem => ?_)
  exact congrArg (· ++ behind) (same key (List.mem_map_of_mem mem))

/-- The pieces of a template cut at the slots with these keys; other slots are text. -/
def ofPieces (keys : List String) : List Piece → Cut
  | [] => ⟨"", []⟩
  | .char c :: pieces => (ofPieces keys pieces).push (String.singleton c)
  | .slot key :: pieces =>
    if String.ofList key ∈ keys then (ofPieces keys pieces).lead (String.ofList key)
    else (ofPieces keys pieces).push (slot (String.ofList key))

/-- The template cut at the slots with these keys. -/
def of (keys : List String) (template : String) : Cut :=
  ofPieces keys (pieces template.toList)

private theorem mem_of_mem_slotKeys_ofPieces :
    (ps : List Piece) → ∀ key ∈ (ofPieces keys ps).slotKeys, key ∈ keys
  | [], _, mem => absurd mem List.not_mem_nil
  | .char _ :: ps, key, mem => mem_of_mem_slotKeys_ofPieces ps key mem
  | .slot written :: ps, key, mem => by
    rw [ofPieces] at mem
    split at mem
    case isTrue known =>
      obtain rfl | mem := List.mem_cons.1 mem
      · exact known
      · exact mem_of_mem_slotKeys_ofPieces ps key mem
    case isFalse => exact mem_of_mem_slotKeys_ofPieces ps key mem

theorem mem_of_mem_slotKeys (mem : key ∈ (of keys template).slotKeys) : key ∈ keys :=
  mem_of_mem_slotKeys_ofPieces _ key mem

private theorem fill_ofPieces
    (bound : ∀ key ∈ keys, Piece.fill bindings (.slot key.toList) = (value key).toList)
    (free : ∀ key ∉ keys, Piece.fill bindings (.slot key.toList) = (slot key).toList)
    (ps : List Piece) :
    (ofPieces keys ps).fill value = String.ofList (ps.flatMap (Piece.fill bindings)) := by
  induction ps with
  | nil => rfl
  | cons piece ps ih =>
    rw [List.flatMap_cons, String.ofList_append, ← ih]
    cases piece with
    | char c =>
      rw [ofPieces, fill_push]
      rfl
    | slot key =>
      rw [← String.toList_ofList (l := key), ofPieces, String.ofList_toList]
      by_cases known : String.ofList key ∈ keys
      · rw [if_pos known, fill_lead, bound _ known, String.ofList_toList]
      · rw [if_neg known, fill_push, free _ known, String.ofList_toList]

theorem fill_slot (keys : List String) (template : String) :
    (of keys template).fill slot = template := by
  have as_written (key : String) : Piece.fill [] (.slot key.toList) = (slot key).toList :=
    fill_slot_of_free fun _ mem => absurd mem List.not_mem_nil
  conv_rhs => rw [← render_nil template]
  exact fill_ofPieces (fun key _ => as_written key) (fun key _ => as_written key) _

/-- Rendering fills the cut, which has nothing of the values. -/
theorem render_eq_fill (bound : ∀ key ∈ bindings.map Prod.fst, FirstBinding bindings key (value key)) :
    render template bindings = (of (bindings.map Prod.fst) template).fill value := by
  refine (fill_ofPieces (fun key mem => fill_slot_of_bound (bound key mem)) ?_ _).symm
  intro key unknown
  exact fill_slot_of_free fun b mem same => unknown (same ▸ List.mem_map_of_mem mem)

/-- What a template comes to under these keys can be seen from the cut, which is made before there
are values. -/
structure Shows (c : Cut) (keys : List String) (template : String) : Prop where
  /-- With the slots as they are written it is the template. -/
  written : c.fill slot = template
  keyed : ∀ key ∈ c.slotKeys, key ∈ keys
  /-- With the values of the first bindings it is what rendering gives. -/
  filled : ∀ bindings, bindings.map Prod.fst = keys → ∃ value,
    (∀ key ∈ keys, FirstBinding bindings key (value key)) ∧ render template bindings = c.fill value

theorem of_shows (keys : List String) (template : String) : (of keys template).Shows keys template where
  written := fill_slot keys template
  keyed _ := mem_of_mem_slotKeys
  filled := by
    rintro bindings rfl
    have bound : ∀ key ∈ bindings.map Prod.fst,
        FirstBinding bindings key ((bindings.lookup key).getD "") := by
      intro key mem
      cases found : bindings.lookup key with
      | none =>
        obtain ⟨b, inside, rfl⟩ := List.mem_map.1 mem
        have free := List.lookup_eq_none_iff.1 found b inside
        simp at free
      | some value => exact lookup_eq_some_iff.1 found
    exact ⟨_, bound, render_eq_fill bound⟩

end Cut

section Settled
open Cut

variable {keys : List String} {text : String}

/-- Whether a piece is a character, or a slot with one of the keys. -/
def Piece.isBound (keys : List String) : Piece → Bool
  | .char _ => true
  | .slot key => String.ofList key ∈ keys

/-- The text ends outside of slots, and has no slots but those with these keys. -/
@[mk_iff settled_iff]
structure Settled (keys : List String) (text : String) : Prop where
  closed : closes text.toList = true
  bound : (pieces text.toList).all (Piece.isBound keys) = true

theorem Settled.append {text' : String} (h : Settled keys text) (h' : Settled keys text') :
    Settled keys (text ++ text') where
  closed := by rw [String.toList_append, closes_append h.closed, h'.closed]
  bound := by
    rw [String.toList_append, pieces_append_of_closes h.closed, List.all_append, h.bound, h'.bound]
    rfl

private theorem closes_of_not_mem {chars : List Char} (plain : '{' ∉ chars) :
    closes chars = true := by
  induction chars with
  | nil => rfl
  | cons c chars ih =>
    rw [List.mem_cons, not_or] at plain
    rw [closes.eq_3 c chars (fun _ brace => absurd brace.symm plain.1)
      fun brace => absurd brace.symm plain.1]
    exact ih plain.2

theorem settled_row {chars : List Char} (plain : '{' ∉ chars) :
    Settled keys (String.ofList chars ++ "\n") := by
  have whole : (String.ofList chars ++ "\n").toList = chars ++ ['\n'] := by
    rw [String.toList_append, String.toList_ofList]
    rfl
  have plain : '{' ∉ chars ++ ['\n'] := by simpa using plain
  rw [settled_iff, whole]
  refine ⟨closes_of_not_mem plain, ?_⟩
  rw [← List.append_nil (chars ++ _), pieces_append_of_not_mem plain, pieces, List.append_nil,
    List.all_map]
  exact List.all_eq_true.2 fun _ _ => rfl

theorem settled_ofRows {rows : List String} (last : rows.getLast? = some "")
    (each : ∀ row ∈ rows, Settled keys (row ++ "\n")) : Settled keys (Line.ofRows rows) := by
  induction rows with
  | nil => cases last
  | cons row rows ih =>
    obtain ⟨first, later⟩ := List.forall_mem_cons.1 each
    cases rows with
    | nil =>
      obtain rfl : row = "" := Option.some.inj last
      exact ⟨rfl, rfl⟩
    | cons next rows =>
      rw [Line.ofRows_cons row (List.cons_ne_nil next rows)]
      exact first.append (ih (by simpa using last) later)

private theorem head?_of_slotPieces {c : Char} (text : List Char) :
    ∀ key, (slotPieces key text).head? = some (.char c) → c = '{' := by
  induction text with
  | nil =>
    intro key first
    simpa [slotPieces, eq_comm] using first
  | cons d rest ih =>
    intro key first
    by_cases closing : ∃ after, d = '}' ∧ rest = '}' :: after
    · obtain ⟨after, rfl, rfl⟩ := closing
      simp [slotPieces] at first
    · rw [slotPieces.eq_2 key d rest fun after brace next => closing ⟨after, brace, next⟩] at first
      exact ih _ first

private theorem head?_of_pieces {c : Char} {text : List Char}
    (first : (pieces text).head? = some (.char c)) : text.head? = some c := by
  cases text with
  | nil => simp [pieces] at first
  | cons d rest =>
    by_cases opened : ∃ after, d = '{' ∧ rest = '{' :: after
    · obtain ⟨after, rfl, rfl⟩ := opened
      rw [pieces] at first
      rw [head?_of_slotPieces after _ first, List.head?_cons]
    · rw [pieces.eq_2 d rest fun after brace next => opened ⟨after, brace, next⟩] at first
      simpa using first

private theorem unopened_pieces :
    (∀ text, closes text = true → ¬ [.char '{', .char '{'] <:+: pieces text) ∧
    ∀ text, closesSlot text = true →
      ∀ key, ¬ [.char '{', .char '{'] <:+: slotPieces key text := by
  refine closes.mutual_induct _ _ ?opening ?lone ?char ?done ?closing ?inside ?unended
  case opening =>
    intro rest ih closed
    rw [closes] at closed
    rw [pieces]
    exact ih closed []
  case lone =>
    intro closed
    cases closed
  case char =>
    intro c rest opened last ih closed
    rw [closes.eq_3 c rest opened last] at closed
    rw [pieces.eq_2 c rest opened, List.infix_cons_iff, List.cons_prefix_cons]
    rintro (⟨brace, next⟩ | later)
    · obtain ⟨after, next⟩ := next
      have second : rest.head? = some '{' := head?_of_pieces (by rw [← next]; rfl)
      obtain ⟨after, rfl⟩ := List.head?_eq_some_iff.1 second
      exact opened after (Piece.char.inj brace).symm rfl
    · exact ih closed later
  case done => simp [pieces]
  case closing =>
    intro rest ih closed key
    rw [closesSlot] at closed
    rw [slotPieces, List.infix_cons_iff, List.cons_prefix_cons]
    rintro (⟨brace, -⟩ | later)
    · cases brace
    · exact ih closed later
  case inside =>
    intro c rest closing ih closed key
    rw [closesSlot.eq_2 c rest closing] at closed
    rw [slotPieces.eq_2 key c rest closing]
    exact ih closed (c :: key)
  case unended =>
    intro closed
    cases closed

private theorem unopened_ofPieces {ps : List Piece} (bound : ps.all (Piece.isBound keys) = true)
    (unopened : ¬ [.char '{', .char '{'] <:+: ps) :
    ((ofPieces keys ps).start.toList.head? = some '{' → ps.head? = some (.char '{')) ∧
    ∀ literal ∈ (ofPieces keys ps).literals, ¬ ['{', '{'] <:+: literal.toList := by
  induction ps with
  | nil => simp [ofPieces, literals]
  | cons piece ps ih =>
    rw [List.all_cons, Bool.and_eq_true] at bound
    rw [List.infix_cons_iff, not_or] at unopened
    obtain ⟨first, each⟩ := ih bound.2 unopened.2
    obtain ⟨own, later⟩ := List.forall_mem_cons.1 each
    cases piece with
    | char c =>
      have start : ((ofPieces keys (.char c :: ps)).start).toList =
          c :: (ofPieces keys ps).start.toList := by
        rw [ofPieces, push, String.toList_append, String.toList_singleton]
        rfl
      refine ⟨fun brace => ?_, List.forall_mem_cons.2 ⟨?_, later⟩⟩
      · rw [start, List.head?_cons] at brace
        rw [List.head?_cons, Option.some.inj brace]
      · rw [start, List.infix_cons_iff, List.cons_prefix_cons]
        rintro (⟨rfl, after, next⟩ | inner)
        · obtain ⟨rest, rfl⟩ := List.head?_eq_some_iff.1 (first (by rw [← next]; rfl))
          exact unopened.1 ⟨rest, rfl⟩
        · exact own inner
    | slot key =>
      have known : String.ofList key ∈ keys := of_decide_eq_true bound.1
      rw [ofPieces, if_pos known]
      constructor
      · intro brace
        simp [lead] at brace
      · refine List.forall_mem_cons.2 ⟨fun inner => ?_, each⟩
        simp [lead] at inner

theorem Settled.unopened (settled : Settled keys template) :
    ∀ literal ∈ (Cut.of keys template).literals, ¬ ['{', '{'] <:+: literal.toList :=
  (unopened_ofPieces settled.bound (unopened_pieces.1 _ settled.closed)).2

end Settled

end ConnectorKit.Text.Template
