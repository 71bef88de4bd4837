import ConnectorKit.Proofs.Text.Line
import ConnectorKit.Text.Template
import Mathlib.Data.List.Forall2

/-!
What comes out of a template, read from its start: text without braces as it is, and a bound slot as
its value. What comes after does not change what came before, so a template can be taken row by row.
-/

set_option autoImplicit false
set_option relaxedAutoImplicit false

namespace ConnectorKit.Text.Template

variable {bindings : List (String × String)} {written written' result result' key value : String}

section Pieces

private theorem pieces_cons {c : Char} {rest : List Char}
    (apart : ∀ after, c = '{' → rest = '{' :: after → False) :
    pieces (c :: rest) = .char c :: pieces rest := by
  rw [pieces]
  exact apart

theorem pieces_append {front rest : List Char}
    (unopened : ¬ ['{', '{'] <:+: front ++ rest.take 1) :
    pieces (front ++ rest) = front.map .char ++ pieces rest := by
  induction front with
  | nil => rfl
  | cons c front ih =>
    have apart : ∀ after, c = '{' → front ++ rest = '{' :: after → False := by
      rintro after rfl next
      refine unopened (List.IsPrefix.isInfix ?_)
      cases front with
      | nil =>
        rw [List.nil_append] at next
        simp [next]
      | cons d front => simp [(List.cons.inj next).1]
    have later : ¬ ['{', '{'] <:+: front ++ rest.take 1 :=
      fun inner => unopened (List.infix_cons_iff.2 (.inr inner))
    rw [List.cons_append, pieces_cons apart, ih later]
    rfl

theorem pieces_append_of_not_mem {front : List Char} (plain : '{' ∉ front)
    (rest : List Char) : pieces (front ++ rest) = front.map .char ++ pieces rest := by
  refine pieces_append fun opened => ?_
  have inside := (Search.infix_of_head rfl plain opened).length_le
  have one := List.length_take_le 1 rest
  simp only [List.length_cons, List.length_nil] at inside
  omega

theorem slotPieces_append {key : List Char} (unclosed : ¬ ['}', '}'] <:+: key ++ ['}'])
    (before rest : List Char) :
    slotPieces before (key ++ '}' :: '}' :: rest) = .slot (before.reverse ++ key) :: pieces rest := by
  induction key generalizing before with
  | nil =>
    rw [List.nil_append, slotPieces, List.append_nil]
  | cons c key ih =>
    have apart : ∀ after, c = '}' → key ++ '}' :: '}' :: rest = '}' :: after → False := by
      rintro after rfl next
      refine unclosed (List.IsPrefix.isInfix ?_)
      cases key with
      | nil => simp
      | cons d key => simp [(List.cons.inj next).1]
    have step : slotPieces before (c :: (key ++ '}' :: '}' :: rest)) =
        slotPieces (c :: before) (key ++ '}' :: '}' :: rest) := by
      rw [slotPieces]
      exact apart
    have later : ¬ ['}', '}'] <:+: key ++ ['}'] :=
      fun inner => unclosed (List.infix_cons_iff.2 (.inr inner))
    rw [List.cons_append, step, ih later]
    simp

private theorem slotPieces_append_of_not_mem {key : List Char} (plain : '}' ∉ key)
    (before rest : List Char) : slotPieces before (key ++ '}' :: '}' :: rest) =
      .slot (before.reverse ++ key) :: pieces rest := by
  refine slotPieces_append (fun closed => ?_) before rest
  have inside := (Search.infix_of_head rfl plain closed).length_le
  simp at inside

end Pieces

/-- The text comes out as the result, whatever comes after it. -/
def Renders (bindings : List (String × String)) (written result : String) : Prop :=
  ∀ more, render (written ++ more) bindings = result ++ render more bindings

namespace Renders

theorem append (h : Renders bindings written result) (h' : Renders bindings written' result') :
    Renders bindings (written ++ written') (result ++ result') := by
  intro more
  rw [String.append_assoc, h, h', String.append_assoc]

private theorem of_pieces (front : List Piece)
    (read : ∀ rest, pieces (written.toList ++ rest) = front ++ pieces rest)
    (filled : front.flatMap (Piece.fill bindings) = result.toList) :
    Renders bindings written result := by
  intro more
  unfold render
  rw [String.toList_append, read, List.flatMap_append, filled, String.ofList_append,
    String.ofList_toList]

theorem text (plain : '{' ∉ written.toList) : Renders bindings written written := by
  refine of_pieces (written.toList.map .char) (pieces_append_of_not_mem plain) ?_
  rw [List.flatMap_map]
  exact List.flatMap_singleton' _

/-- Text that is written out is looked at by its characters, as its bytes take long to read. -/
theorem literal {chars : List Char} (plain : '{' ∉ chars) :
    Renders bindings (String.ofList chars) (String.ofList chars) :=
  .text (by rwa [String.toList_ofList])

theorem append_literal (h : Renders bindings written result) {chars : List Char}
    (plain : '{' ∉ chars) :
    Renders bindings (written ++ String.ofList chars) (result ++ String.ofList chars) :=
  h.append (.literal plain)

theorem row (h : Renders bindings written result) :
    Renders bindings (written ++ "\n") (result ++ "\n") :=
  h.append_literal (by decide)

theorem slot (plain : '}' ∉ key.toList) (bound : bindings.lookup key = some value) :
    Renders bindings (Template.slot key) value := by
  refine of_pieces [.slot key.toList] (fun rest => ?_) ?_
  · have opened : (Template.slot key).toList ++ rest =
        '{' :: '{' :: (key.toList ++ '}' :: '}' :: rest) := by
      simp [Template.slot]
    rw [opened, pieces, slotPieces_append_of_not_mem plain]
    rfl
  · rw [List.flatMap_singleton, Piece.fill, String.ofList_toList, bound]

theorem brace : Renders bindings "\x7b\n" "\x7b\n" := by
  refine of_pieces [.char '{', .char '\n'] (fun rest => ?_) rfl
  have opened : ("\x7b\n" : String).toList ++ rest = '{' :: '\n' :: rest := rfl
  have apart (after : List Char) : '{' = '{' → '\n' :: rest = '{' :: after → False :=
    fun _ next => absurd (List.cons.inj next).1 (by decide)
  rw [opened, pieces_cons apart, pieces_cons fun _ brace _ => absurd brace (by decide)]
  rfl

end Renders

section Closed

mutual

/-- Whether a text ends outside of slots, and not where the next character could open one. -/
def closes : List Char → Bool
  | '{' :: '{' :: rest => closesSlot rest
  | ['{'] => false
  | _ :: rest => closes rest
  | [] => true

/-- The same of a text after an opening. -/
def closesSlot : List Char → Bool
  | '}' :: '}' :: rest => closes rest
  | _ :: rest => closesSlot rest
  | [] => false

end

private theorem cut_after_closed (more : List Char) :
    (∀ text, closes text = true →
      pieces (text ++ more) = pieces text ++ pieces more ∧ closes (text ++ more) = closes more) ∧
    ∀ text, closesSlot text = true →
      (∀ key, slotPieces key (text ++ more) = slotPieces key text ++ pieces more) ∧
        closesSlot (text ++ more) = closes more := by
  refine closes.mutual_induct _ _ ?opening ?lone ?char ?done ?closing ?inside ?unended
  case opening =>
    intro rest ih closed
    simp only [closes] at closed
    simp only [List.cons_append, pieces, closes, ih closed, and_self]
  case lone =>
    intro closed
    cases closed
  case char =>
    intro c rest opened last ih closed
    rw [closes.eq_3 c rest opened last] at closed
    have apart : ∀ after, c = '{' → rest ++ more = '{' :: after → False := by
      intro after brace next
      cases rest with
      | nil => exact last brace rfl
      | cons d rest => exact opened rest brace (by rw [(List.cons.inj next).1])
    have open_end : c = '{' → rest ++ more = [] → False :=
      fun brace none => last brace (List.append_eq_nil_iff.1 none).1
    rw [List.cons_append, pieces.eq_2 c _ apart, pieces.eq_2 c _ opened, (ih closed).1,
      closes.eq_3 c _ apart open_end]
    exact ⟨rfl, (ih closed).2⟩
  case done =>
    intro _
    exact ⟨rfl, rfl⟩
  case closing =>
    intro rest ih closed
    simp only [closesSlot] at closed
    simp only [List.cons_append, slotPieces, closesSlot, ih closed, implies_true, and_self]
  case inside =>
    intro c rest closing ih closed
    rw [closesSlot.eq_2 c rest closing] at closed
    have apart : ∀ after, c = '}' → rest ++ more = '}' :: after → False := by
      intro after brace next
      cases rest with
      | nil => cases closed
      | cons d rest => exact closing rest brace (by rw [(List.cons.inj next).1])
    refine ⟨fun key => ?_, ?_⟩
    · rw [List.cons_append, slotPieces.eq_2 key c _ apart, slotPieces.eq_2 key c _ closing,
        (ih closed).1]
    · rw [List.cons_append, closesSlot.eq_2 c _ apart, (ih closed).2]
  case unended =>
    intro closed
    cases closed

/-- The pieces of a closed text are found whatever comes behind it. -/
theorem pieces_append_of_closes {text : List Char} (closed : closes text = true)
    (more : List Char) : pieces (text ++ more) = pieces text ++ pieces more :=
  ((cut_after_closed more).1 text closed).1

theorem closes_append {text : List Char} (closed : closes text = true) (more : List Char) :
    closes (text ++ more) = closes more :=
  ((cut_after_closed more).1 text closed).2

theorem Renders.of_closes (closed : closes written.toList = true) :
    Renders bindings written (render written bindings) := by
  intro more
  unfold render
  rw [String.toList_append, pieces_append_of_closes closed, List.flatMap_append,
    String.ofList_append]

theorem Renders.braced_row {chars : List Char} (closed : closes (chars ++ ['\n']) = true)
    (alone : pieces (chars ++ ['\n']) = (chars ++ ['\n']).map .char) :
    Renders bindings (String.ofList chars ++ "\n") (String.ofList chars ++ "\n") := by
  have whole : (String.ofList chars ++ "\n").toList = chars ++ ['\n'] := by
    rw [String.toList_append, String.toList_ofList]
    rfl
  have same : render (String.ofList chars ++ "\n") bindings = String.ofList chars ++ "\n" := by
    rw [render, whole, alone, List.flatMap_map, ← String.toList_inj, whole, String.toList_ofList]
    exact List.flatMap_singleton' _
  have own : Renders bindings (String.ofList chars ++ "\n")
      (render (String.ofList chars ++ "\n") bindings) := .of_closes (whole ▸ closed)
  rwa [same] at own

theorem Renders.append_row (h : Renders bindings written result) {more : String}
    (behind : Renders bindings (more ++ "\n") (more ++ "\n")) :
    Renders bindings (written ++ more ++ "\n") (result ++ more ++ "\n") := by
  rw [String.append_assoc, String.append_assoc]
  exact h.append behind

end Closed

/-- The rows come out as the others, with a line feed after each. -/
abbrev RowsRender (bindings : List (String × String)) (rows rows' : List String) : Prop :=
  List.Forall₂ (fun row row' => Renders bindings (row ++ "\n") (row' ++ "\n")) rows rows'

theorem rowsRender_of_plain {rows : List String} (plain : ∀ row ∈ rows, '{' ∉ row.toList) :
    RowsRender bindings rows rows :=
  List.forall₂_same.2 fun row mem => (Renders.text (plain row mem)).row

theorem render_ofRows {rows rows' rest : List String} (each : RowsRender bindings rows rows')
    (more : rest ≠ []) : render (Line.ofRows (rows ++ rest)) bindings =
      Line.ofRows (rows' ++ [render (Line.ofRows rest) bindings]) := by
  induction each with
  | nil => simp [Line.ofRows]
  | cons first later ih =>
    rw [List.cons_append, Line.ofRows_cons _ (by simp [more]), first, ih, List.cons_append,
      Line.ofRows_cons _ (by simp)]

private theorem render_ofRows_of_closes {front rest : List String}
    (closed : ∀ row ∈ front, closes (row ++ "\n").toList = true) (more : rest ≠ [])
    (bindings : List (String × String)) : ∃ before,
      render (Line.ofRows (front ++ rest)) bindings =
        before ++ render (Line.ofRows rest) bindings := by
  induction front with
  | nil => exact ⟨"", (String.empty_append).symm⟩
  | cons row front ih =>
    obtain ⟨first, later⟩ := List.forall_mem_cons.1 closed
    obtain ⟨before, same⟩ := ih later
    refine ⟨render (row ++ "\n") bindings ++ before, ?_⟩
    rw [List.cons_append, Line.ofRows_cons _ (by simp [more]), Renders.of_closes first, same,
      String.append_assoc]

theorem render_ofRows_behind {rows middle middle' rest : List String} {n : Nat}
    (closed : ∀ row ∈ rows.take n, closes (row ++ "\n").toList = true)
    (split : rows.drop n = middle ++ rest) (each : RowsRender bindings middle middle')
    (more : rest ≠ []) : ∃ before, render (Line.ofRows rows) bindings =
      before ++ Line.ofRows (middle' ++ [render (Line.ofRows rest) bindings]) := by
  have behind : middle ++ rest ≠ [] := List.append_ne_nil_of_right_ne_nil _ more
  obtain ⟨before, same⟩ := render_ofRows_of_closes closed behind bindings
  rw [← split, List.take_append_drop, split, render_ofRows each more] at same
  exact ⟨before, same⟩

end ConnectorKit.Text.Template
