import ConnectorKit.Text.Search

/-!
Paths as text. A path is absolute when it starts with a slash; its components are the names between
slashes, where a dot counts only at the start of a relative path. Nothing here looks at files.
-/

set_option autoImplicit false
set_option relaxedAutoImplicit false

namespace ConnectorKit.Disk.Path

inductive Component where
  | top
  | here
  | up
  | name (n : String)
  deriving DecidableEq, Repr

def isAbsolute (path : String) : Bool :=
  path.toList.head? = some '/'

def component? (part : String) : Option Component :=
  if part = "" ∨ part = "." then none
  else if part = ".." then some .up
  else some (.name part)

/-- The components of a path. -/
def components (path : String) : List Component :=
  let parts := Text.Search.split '/' path
  let start := if isAbsolute path then [.top] else if parts.head? = some "." then [.here] else []
  start ++ parts.filterMap component?

def Component.text : Component → String
  | .top => "/"
  | .here => "."
  | .up => ".."
  | .name n => n

/-- `rest` seen from `base`; an absolute `rest` is taken as it is. -/
def join (base rest : String) : String :=
  if isAbsolute rest then rest
  else if base = "" ∨ base.toList.getLast? = some '/' then base ++ rest
  else base ++ "/" ++ rest

/-- The part that a path starts with other than by a name: the empty one before the first slash of an
absolute path, or a dot. -/
def lead (path : String) : List String :=
  if isAbsolute path then [""]
  else if (Text.Search.split '/' path).head? = some "." then ["."]
  else []

/-- Parts with slashes between them; the empty part alone is the top. -/
def ofParts (parts : List String) : String :=
  if parts = [""] then "/" else "/".intercalate parts

/-- The paths that end in a component, from the parts behind the lead in reversed order. What stands
between two components stays as it is. -/
def climb (lead : List String) : List String → List String
  | [] => if lead = [] then [] else [ofParts lead]
  | part :: rest =>
    if (component? part).isSome then ofParts (lead ++ (part :: rest).reverse) :: climb lead rest
    else climb lead rest

/-- The path without what follows its last component, then the directory above it, and so on to the
top or the start. -/
def ascent (path : String) : List String :=
  climb (lead path) ((Text.Search.split '/' path).drop (lead path).length).reverse

/-- The directory that the last component is in, then those above that one. What is in no directory of
its own is in the current one. -/
def above (path : String) : List String :=
  match ascent path with
  | [] | [_] => ["."]
  | _ :: directories => directories

/-- What is left of a path below a base, component by component. -/
def below? (base path : List Component) : Option (List Component) :=
  match base, path with
  | [], rest => some rest
  | b :: base, c :: path => if b = c then below? base path else none
  | _ :: _, [] => none

end ConnectorKit.Disk.Path
