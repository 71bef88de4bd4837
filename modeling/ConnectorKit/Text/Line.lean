import ConnectorKit.Text.Search

/-!
Lines of a text. A line ends before a line feed, and a carriage return directly before that line
feed belongs to the end of the line; a carriage return without a line feed is text.
-/

set_option autoImplicit false
set_option relaxedAutoImplicit false

namespace ConnectorKit.Text.Line

def dropReturn (line : List Char) : List Char :=
  if line.getLast? = some '\r' then line.dropLast else line

def firstChars (text : List Char) : List Char :=
  match text.dropWhile (· ≠ '\n') with
  | [] => text
  | _ :: _ => dropReturn (text.takeWhile (· ≠ '\n'))

/-- The first line of a text, without its end. -/
def first (text : String) : String :=
  String.ofList (firstChars text.toList)

/-- The runs between line feeds, carriage returns kept. -/
def rows (text : String) : List String :=
  Search.split '\n' text

/-- Rows put back into one text. -/
def ofRows (rows : List String) : String :=
  "\n".intercalate rows

end ConnectorKit.Text.Line
