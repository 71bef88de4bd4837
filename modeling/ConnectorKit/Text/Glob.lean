/-!
File-name patterns. `*` stands for any run of characters other than the line feed, every other
character for itself, and a pattern has to cover the whole name. A row tells for each end part of
a name whether the pattern covers it, so the work is one row for each character of the pattern.
-/

set_option autoImplicit false
set_option relaxedAutoImplicit false

namespace ConnectorKit.Text.Glob

/-- The row of the empty pattern: it covers the empty end part only. -/
def emptyRow (name : List Char) : List Bool :=
  List.replicate name.length false ++ [true]

/-- The row of a pattern that starts with the character `p`, from the row of its rest. -/
def charRow (p : Char) : List Char → List Bool → List Bool
  | c :: name, _ :: row => (p == c && row.headD false) :: charRow p name row
  | _, _ => [false]

/-- The row of a pattern that starts with a star, from the row of its rest. -/
def starRow : List Char → List Bool → List Bool
  | c :: name, covered :: row =>
    let later := starRow name row
    (covered || (c != '\n' && later.headD false)) :: later
  | _, row => row

def row (pattern name : List Char) : List Bool :=
  pattern.foldr
    (fun p below => if p = '*' then starRow name below else charRow p name below)
    (emptyRow name)

/-- Whether the pattern covers the name. -/
def covers (pattern name : String) : Bool :=
  (row pattern.toList name.toList).headD false

/-- The length up to which no engine refuses a pattern. -/
def shortLimit : Nat := 1024

/-- What patterns are compiled by. It may refuse a pattern that is too large for it, with words of
its own; a pattern that it takes is matched as `covers` tells. -/
structure Engine where
  complaint? : String → Option String
  takes_short (pattern : String) : pattern.utf8ByteSize ≤ shortLimit → complaint? pattern = none

/-- An engine without a limit. -/
def Engine.unlimited : Engine :=
  ⟨fun _ => none, fun _ _ => rfl⟩

end ConnectorKit.Text.Glob
