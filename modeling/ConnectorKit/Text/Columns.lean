import ConnectorKit.Text.Blank

/-!
Plain text tables: left-aligned columns with two blanks between them, a rule under the header.
Widths count characters.
-/

set_option autoImplicit false
set_option relaxedAutoImplicit false

namespace ConnectorKit.Text.Columns

/-- The widths grown so that each cell of the row fits; cells beyond the widths are not counted. -/
def widen : List Nat → List String → List Nat
  | w :: widths, cell :: row => max w cell.length :: widen widths row
  | widths, _ => widths

/-- The width of each column: its longest cell, header included. -/
def widths (headers : List String) (rows : List (List String)) : List Nat :=
  rows.foldl widen (headers.map String.length)

/-- The cell with blanks on the right up to the width. -/
def pad (width : Nat) (cell : String) : List Char :=
  cell.toList ++ List.replicate (width - cell.length) ' '

def padAll : List Nat → List String → List (List Char)
  | w :: widths, cell :: row => pad w cell :: padAll widths row
  | [], row => row.map String.toList
  | _, [] => []

def joinCells (cells : List (List Char)) : List Char :=
  [' ', ' '].intercalate cells

/-- One line of the table; blanks at its end are dropped. -/
def line (widths : List Nat) (row : List String) : List Char :=
  Blank.trimEndChars (joinCells (padAll widths row))

def rule (widths : List Nat) : List Char :=
  joinCells (widths.map (List.replicate · '-'))

def lines (headers : List String) (rows : List (List String)) : List (List Char) :=
  let ws := widths headers rows
  line ws headers :: rule ws :: rows.map (line ws)

/-- The table as text, each line with its line feed. -/
def render (headers : List String) (rows : List (List String)) : String :=
  String.ofList ((lines headers rows).flatMap (· ++ ['\n']))

end ConnectorKit.Text.Columns
