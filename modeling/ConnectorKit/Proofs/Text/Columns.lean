import ConnectorKit.Proofs.Text.Blank
import ConnectorKit.Proofs.Text.Line
import ConnectorKit.Text.Columns
import Mathlib.Algebra.Ring.Nat
import Mathlib.Data.List.Forall2
import Mathlib.Order.Bounds.Basic

/-!
Where the cells of a table stand. The widths are the greatest lengths of the columns, header
included, so every cell fits in its column and the columns begin at the same places in all rows;
what is dropped at the end of a row is blank.
-/

set_option autoImplicit false
set_option relaxedAutoImplicit false

namespace ConnectorKit.Text.Columns

open Blank (isBlank isBlankText trimEnd trimEndChars)

variable {ws : List Nat} {w i : Nat} {cell : String} {headers row : List String}
  {rows table : List (List String)}

section Widths

/-- The lengths of the cells in a column. -/
def lengths (table : List (List String)) (i : Nat) : Set Nat :=
  {n | ∃ row ∈ table, ∃ cell, row[i]? = some cell ∧ n = cell.length}

theorem length_widen (ws : List Nat) (row : List String) : (widen ws row).length = ws.length := by
  induction ws generalizing row with
  | nil => cases row <;> rfl
  | cons w ws ih =>
    cases row with
    | nil => rfl
    | cons cell row => rw [widen, List.length_cons, List.length_cons, ih]

theorem getElem?_widen (ws : List Nat) (row : List String) (i : Nat) : (widen ws row)[i]? =
    ws[i]?.map fun w => row[i]?.elim w fun cell => max w cell.length := by
  induction ws generalizing row i with
  | nil => cases row <;> rfl
  | cons w ws ih =>
    cases row with
    | nil => simp [widen]
    | cons cell row =>
      cases i with
      | zero => rfl
      | succ i => simpa [widen] using ih row i

theorem length_widths (headers : List String) (rows : List (List String)) :
    (widths headers rows).length = headers.length := by
  induction rows using List.reverseRecOn with
  | nil => simp [widths]
  | append_singleton rows row ih =>
    rw [widths, List.foldl_concat, length_widen]
    exact ih

private theorem lengths_concat (table : List (List String)) (row : List String) (i : Nat) :
    lengths (table ++ [row]) i =
      lengths table i ∪ {n | ∃ cell, row[i]? = some cell ∧ n = cell.length} := by
  ext n
  simp [lengths, or_and_right, exists_or]

theorem isGreatest_widths (width : (widths headers rows)[i]? = some w) :
    IsGreatest (lengths (headers :: rows) i) w := by
  induction rows using List.reverseRecOn generalizing w with
  | nil =>
    rw [widths, List.foldl_nil, List.getElem?_map] at width
    obtain ⟨cell, stands, rfl⟩ := Option.map_eq_some_iff.1 width
    refine ⟨⟨headers, List.mem_cons_self, cell, stands, rfl⟩, ?_⟩
    rintro n ⟨row, mem, cell', stands', rfl⟩
    rw [List.mem_singleton.1 mem, stands] at stands'
    rw [Option.some.inj stands']
  | append_singleton rows row ih =>
    have grown : widths headers (rows ++ [row]) = widen (widths headers rows) row := by
      rw [widths, List.foldl_concat, widths]
    rw [grown, getElem?_widen] at width
    obtain ⟨before, width', rfl⟩ := Option.map_eq_some_iff.1 width
    rw [← List.cons_append, lengths_concat]
    cases row[i]? with
    | none => simpa using ih width'
    | some cell => simpa [max_comm] using (ih width').insert cell.length

end Widths

section Places

/-- The row has no more cells than there are widths, and each fits into its own. -/
inductive Fits : List Nat → List String → Prop
  | done {ws : List Nat} : Fits ws []
  | cell {w : Nat} {ws : List Nat} {cell : String} {row : List String} :
      cell.length ≤ w → Fits ws row → Fits (w :: ws) (cell :: row)

theorem Fits.of_getElem? (narrow : row.length ≤ ws.length)
    (room : ∀ (i w : Nat) (cell : String), ws[i]? = some w → row[i]? = some cell →
      cell.length ≤ w) : Fits ws row := by
  induction row generalizing ws with
  | nil => exact .done
  | cons cell row ih =>
    cases ws with
    | nil => cases narrow
    | cons w ws =>
      refine .cell (room 0 w cell rfl rfl) (ih (Nat.le_of_succ_le_succ narrow) fun i => ?_)
      exact fun w cell width stands => room (i + 1) w cell width stands

theorem fits_widths (mem : row ∈ headers :: rows) (narrow : row.length ≤ headers.length) :
    Fits (widths headers rows) row := by
  refine .of_getElem? (by rwa [length_widths]) fun i w cell width stands => ?_
  exact (isGreatest_widths width).2 ⟨row, mem, cell, stands, rfl⟩

/-- Where a column begins. -/
def offset (ws : List Nat) (i : Nat) : Nat :=
  ((ws.take i).map (· + 2)).sum

theorem joinCells_cons (cell : List Char) {cells : List (List Char)} (more : cells ≠ []) :
    joinCells (cell :: cells) = cell ++ ' ' :: ' ' :: joinCells cells := by
  obtain ⟨next, cells, rfl⟩ := List.exists_cons_of_ne_nil more
  rw [joinCells, joinCells, List.intercalate_cons_cons, List.append_assoc]
  rfl

theorem exists_joinCells_cons (cell : List Char) (cells : List (List Char)) :
    ∃ after, joinCells (cell :: cells) = cell ++ after := by
  by_cases alone : cells = []
  · subst alone
    exact ⟨[], by simp [joinCells]⟩
  · exact ⟨_, joinCells_cons cell alone⟩

theorem length_pad (short : cell.length ≤ w) : (pad w cell).length = w := by
  rw [pad, List.length_append, List.length_replicate, String.length_toList]
  omega

namespace Fits

theorem padAll_eq (fits : Fits ws row) : padAll ws row = List.zipWith pad ws row := by
  induction fits with
  | @done ws => cases ws <;> rfl
  | cell _ _ ih => rw [padAll, ih, List.zipWith_cons_cons]

theorem padAll_ne_nil (fits : Fits ws row) (more : row ≠ []) : padAll ws row ≠ [] := by
  cases fits with
  | done => exact absurd rfl more
  | cell _ _ => exact List.cons_ne_nil _ _

theorem place (fits : Fits ws row) (stands : row[i]? = some cell) : ∃ before after,
    joinCells (padAll ws row) = before ++ (cell.toList ++ after) ∧ before.length = offset ws i := by
  induction fits generalizing i with
  | done => cases stands
  | @cell w ws first row short fits ih =>
    cases i with
    | zero =>
      cases stands
      obtain ⟨after, whole⟩ := exists_joinCells_cons (pad w cell) (padAll ws row)
      exact ⟨[], _, by rw [padAll, whole, pad, List.append_assoc]; rfl, rfl⟩
    | succ i =>
      obtain ⟨before, after, whole, length⟩ := ih stands
      have more : row ≠ [] := by
        rintro rfl
        cases stands
      refine ⟨pad w first ++ ' ' :: ' ' :: before, after, ?_, ?_⟩
      · rw [padAll, joinCells_cons _ (fits.padAll_ne_nil more), whole]
        simp
      · rw [List.length_append, length_pad short, List.length_cons, List.length_cons, length]
        simp [offset]
        omega

theorem exists_of_mem_padAll {padded : List Char} (fits : Fits ws row)
    (mem : padded ∈ padAll ws row) : ∃ w, ∃ cell ∈ row, padded = pad w cell := by
  induction fits with
  | @done ws => cases ws <;> cases mem
  | cell _ _ ih =>
    rcases List.mem_cons.1 mem with rfl | later
    · exact ⟨_, _, List.mem_cons_self, rfl⟩
    · obtain ⟨w, cell, inside, same⟩ := ih later
      exact ⟨w, cell, List.mem_cons_of_mem _ inside, same⟩

theorem filter_joinCells (fits : Fits ws row) :
    (joinCells (padAll ws row)).filter (fun c => !isBlank c) =
      row.flatMap fun cell => cell.toList.filter fun c => !isBlank c := by
  have padding (n : Nat) : (List.replicate n ' ').filter (fun c => !isBlank c) = [] := by
    rw [List.filter_replicate, if_neg (by decide)]
  induction fits with
  | @done ws => cases ws <;> rfl
  | @cell w ws cell row _ fits ih =>
    rw [padAll, List.flatMap_cons, ← ih]
    by_cases alone : row = []
    · subst alone
      have none : padAll ws [] = [] := by cases ws <;> rfl
      rw [none]
      simp [joinCells, pad, padding]
    · have gap : [' ', ' '].filter (fun c => !isBlank c) = [] := rfl
      rw [joinCells_cons _ (fits.padAll_ne_nil alone), pad, List.filter_append, List.filter_append,
        padding, List.append_nil]
      rfl

end Fits

/-- How a row is written: its cells padded to the widths with two blanks between them, less blanks at
the end. A cell that is not blank begins where its column begins, and none of its characters is lost. -/
structure Written (ws : List Nat) (row : List String) (written : String) : Prop where
  padded : ∃ tail, written ++ tail =
      "  ".intercalate (List.zipWith (fun w cell => String.ofList (pad w cell)) ws row) ∧
    ∀ c ∈ tail.toList, isBlank c = true
  ended : ∀ c, written.toList.getLast? = some c → isBlank c = false
  begins : ∀ i cell, row[i]? = some cell → isBlankText cell = false →
    ∃ before after, written = before ++ trimEnd cell ++ after ∧ before.length = offset ws i
  kept : written.toList.filter (fun c => !isBlank c) =
    row.flatMap fun cell => cell.toList.filter fun c => !isBlank c

theorem ofList_joinCells (cells : List (List Char)) :
    String.ofList (joinCells cells) = "  ".intercalate (cells.map String.ofList) := by
  have gap : ("  " : String).toList = [' ', ' '] := rfl
  rw [← String.toList_inj, String.toList_ofList, String.toList_intercalate, gap, List.map_map,
    joinCells]
  simp [Function.comp_def]

private theorem trimEndChars_around (inked : isBlankText cell = false)
    (front back : List Char) : ∃ after,
    trimEndChars (front ++ (cell.toList ++ back)) = front ++ (trimEndChars cell.toList ++ after) := by
  obtain ⟨tail, cut, -⟩ := Blank.exists_trimEndChars_append cell.toList
  obtain ⟨d, mem, inked⟩ : ∃ d ∈ cell.toList, isBlank d = false := by
    simpa [isBlankText] using inked
  obtain ⟨c, last⟩ := Blank.exists_getLast?_trimEndChars mem inked
  have last' : (front ++ trimEndChars cell.toList).getLast? = some c := by
    simp [List.getLast?_append, last]
  refine ⟨trimEndChars (tail ++ back), ?_⟩
  have whole : front ++ (cell.toList ++ back) =
      front ++ trimEndChars cell.toList ++ (tail ++ back) := by
    conv_lhs => rw [← cut]
    simp only [List.append_assoc]
  rw [whole, Blank.trimEndChars_append last' (Blank.isBlank_getLast?_trimEndChars last),
    List.append_assoc]

theorem written_line (fits : Fits ws row) : Written ws row (String.ofList (line ws row)) := by
  obtain ⟨tail, whole, blank⟩ := Blank.exists_trimEndChars_append (joinCells (padAll ws row))
  have own : line ws row ++ tail = joinCells (padAll ws row) := whole
  refine ⟨⟨String.ofList tail, ?_, ?_⟩, ?_, ?_, ?_⟩
  · rw [← String.ofList_append, own, ofList_joinCells, fits.padAll_eq, List.map_zipWith]
  · rwa [String.toList_ofList]
  · intro c last
    rw [String.toList_ofList] at last
    exact Blank.isBlank_getLast?_trimEndChars last
  · intro i cell stands inked
    obtain ⟨before, back, place, length⟩ := fits.place stands
    obtain ⟨after, kept⟩ := trimEndChars_around inked before back
    refine ⟨String.ofList before, String.ofList after, ?_, by simpa using length⟩
    rw [line, place, kept, trimEnd, String.ofList_append, String.ofList_append,
      String.append_assoc]
  · rw [← fits.filter_joinCells, ← own, String.toList_ofList, List.filter_append]
    have none : tail.filter (fun c => !isBlank c) = [] := by
      simpa using blank
    rw [none, List.append_nil]

end Places

section Lines

private theorem mem_joinCells {c : Char} {cells : List (List Char)} (mem : c ∈ joinCells cells) :
    c = ' ' ∨ ∃ cell ∈ cells, c ∈ cell := by
  induction cells with
  | nil => cases mem
  | cons first cells ih =>
    by_cases alone : cells = []
    · subst alone
      exact .inr ⟨first, List.mem_cons_self, by simpa [joinCells] using mem⟩
    · rw [joinCells_cons _ alone, List.mem_append, List.mem_cons, List.mem_cons] at mem
      rcases mem with own | rfl | rfl | later
      · exact .inr ⟨first, List.mem_cons_self, own⟩
      · exact .inl rfl
      · exact .inl rfl
      · exact (ih later).imp_right fun ⟨cell, inside, mem⟩ =>
          ⟨cell, List.mem_cons_of_mem _ inside, mem⟩

private theorem not_mem_line (fits : Fits ws row) (flat : ∀ cell ∈ row, '\n' ∉ cell.toList) :
    '\n' ∉ line ws row := by
  obtain ⟨tail, whole, -⟩ := Blank.exists_trimEndChars_append (joinCells (padAll ws row))
  have own : line ws row ++ tail = joinCells (padAll ws row) := whole
  intro mem
  have inside : '\n' ∈ joinCells (padAll ws row) := own ▸ List.mem_append_left tail mem
  rcases mem_joinCells inside with blank | ⟨padded, among, mem⟩
  · cases blank
  · obtain ⟨w, cell, stands, rfl⟩ := fits.exists_of_mem_padAll among
    rcases List.mem_append.1 mem with own | padding
    · exact flat cell stands own
    · cases List.eq_of_mem_replicate padding

private theorem not_mem_rule (ws : List Nat) : '\n' ∉ rule ws := by
  intro mem
  rcases mem_joinCells mem with blank | ⟨run, among, mem⟩
  · cases blank
  · obtain ⟨w, -, rfl⟩ := List.mem_map.1 among
    cases List.eq_of_mem_replicate mem

private theorem ofList_flatMap (lines : List (List Char)) :
    String.ofList (lines.flatMap (· ++ ['\n'])) =
      Line.ofRows (lines.map String.ofList ++ [""]) := by
  induction lines with
  | nil => rfl
  | cons line lines ih =>
    rw [List.flatMap_cons, String.ofList_append, ih, List.map_cons, List.cons_append,
      Line.ofRows_cons _ (by simp), String.ofList_append]

/-- A table without line feeds in its cells, and without cells beyond its header, is the header, a
rule and one line for each row. The widths are the greatest lengths of the columns, and the rule shows
them; each of the other lines is its cells padded to the widths, less blanks at the end, so each cell
that is not blank begins where its column begins. -/
theorem render_lines_up (narrow : ∀ row ∈ rows, row.length ≤ headers.length)
    (flat : ∀ row ∈ headers :: rows, ∀ cell ∈ row, '\n' ∉ cell.toList) :
    let ws := widths headers rows
    ws.length = headers.length ∧
    (∀ (i w : Nat), ws[i]? = some w → IsGreatest (lengths (headers :: rows) i) w) ∧
    ∃ head body, Line.rows (render headers rows) =
        head :: "  ".intercalate (ws.map fun w => String.ofList (List.replicate w '-')) ::
          (body ++ [""]) ∧
      Written ws headers head ∧ List.Forall₂ (Written ws) rows body := by
  dsimp only
  have fits (row : List String) (mem : row ∈ headers :: rows) : Fits (widths headers rows) row := by
    refine fits_widths mem ?_
    rcases List.mem_cons.1 mem with rfl | later
    · exact le_rfl
    · exact narrow row later
  generalize whole : widths headers rows = ws at fits
  have own (row : List String) (mem : row ∈ headers :: rows) : '\n' ∉ line ws row :=
    not_mem_line (fits row mem) (flat row mem)
  have bare : ∀ text ∈ (lines headers rows).map String.ofList ++ [""], '\n' ∉ text.toList := by
    simp only [lines, whole, List.map_cons, List.map_map, List.forall_mem_append,
      List.forall_mem_cons, List.forall_mem_map, String.toList_ofList, Function.comp_apply]
    exact ⟨⟨own headers List.mem_cons_self, not_mem_rule ws,
      fun row mem => own row (List.mem_cons_of_mem _ mem)⟩, nofun, nofun⟩
  refine ⟨whole ▸ length_widths headers rows, fun i w => whole ▸ isGreatest_widths,
    String.ofList (line ws headers), rows.map fun row => String.ofList (line ws row), ?_,
    written_line (fits headers List.mem_cons_self), ?_⟩
  · rw [render, ofList_flatMap, Line.rows_ofRows (by simp), Line.flatMap_rows_of_not_mem bare, lines,
      whole]
    simp only [List.map_cons, List.map_map, rule, ofList_joinCells, List.cons_append]
    rfl
  · refine List.forall₂_map_right_iff.2 (List.forall₂_same.2 fun row mem => ?_)
    exact written_line (fits row (List.mem_cons_of_mem _ mem))

/-- Phases of a migration and how far they are. -/
def phases : List (List String) :=
  [["1", "completed"], ["2", "not_started"], ["3"]]

/-- The second column begins under its header. -/
theorem render_lines_up_phases :
    (∀ row ∈ phases, row.length ≤ ["PHASE", "STATUS"].length) ∧
    (∀ row ∈ ["PHASE", "STATUS"] :: phases, ∀ cell ∈ row, '\n' ∉ cell.toList) ∧
    Line.rows (render ["PHASE", "STATUS"] phases) =
      ["PHASE  STATUS", "-----  -----------", "1      completed", "2      not_started", "3", ""] ∧
    ∃ head body, Line.rows (render ["PHASE", "STATUS"] phases) =
        head :: "-----  -----------" :: (body ++ [""]) ∧
      Written [5, 11] ["PHASE", "STATUS"] head ∧ List.Forall₂ (Written [5, 11]) phases body := by
  have narrow : ∀ row ∈ phases, row.length ≤ ["PHASE", "STATUS"].length := by decide
  have flat : ∀ row ∈ ["PHASE", "STATUS"] :: phases, ∀ cell ∈ row, '\n' ∉ cell.toList := by
    decide
  obtain ⟨-, -, head, body, whole, first, others⟩ := render_lines_up narrow flat
  have widths : widths ["PHASE", "STATUS"] phases = [5, 11] := by decide +kernel
  rw [widths] at whole first others
  exact ⟨narrow, flat, by decide +kernel, head, body, whole, first, others⟩

end Lines

end ConnectorKit.Text.Columns
