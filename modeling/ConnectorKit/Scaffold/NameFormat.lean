import ConnectorKit.Text.Search

/-!
Formats of resource names: segments between slashes, with placeholders in braces for the project,
the location and the resource itself.
-/

set_option autoImplicit false
set_option relaxedAutoImplicit false

namespace ConnectorKit.Scaffold.NameFormat

def segments (format : String) : List String :=
  Text.Search.split '/' format

/-- Whether the names have a location. -/
def isLocated (format : String) : Bool :=
  (segments format).contains "locations"

def placeholder (name : String) : String :=
  "\x7b" ++ name ++ "\x7d"

/-- The format with a verb for the printer in the place of each placeholder. -/
def printed (format lower : String) : String :=
  ["project", "location", lower].foldl
    (fun text name => Text.Search.replace text (placeholder name) "%s") format

def isPlaceholder (segment : String) : Bool :=
  Text.Search.startsWith segment "\x7b"

/-- The segment before the last one, unless it is empty or a placeholder. -/
def collection? (format : String) : Option String :=
  match (segments format).reverse with
  | _ :: name :: _ => if name = "" ∨ isPlaceholder name then none else some name
  | _ => none

/-- The checks of the literal segments, the first of which stands at the position. -/
def literalChecks (position : Nat) : List String → List String
  | [] => []
  | segment :: rest =>
    (if isPlaceholder segment then []
     else ["tokens[" ++ toString position ++ "] == \"" ++ segment ++ "\""]) ++
      literalChecks (position + 1) rest

/-- The condition that tokens have the length and the literal segments of the format. -/
def tokenCheck (format : String) : String :=
  let parts := segments format
  " && ".intercalate
    (("len(tokens) == " ++ toString parts.length) :: literalChecks 0 parts)

end ConnectorKit.Scaffold.NameFormat
