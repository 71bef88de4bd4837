import ConnectorKit.Disk.Search
import ConnectorKit.Shell.Pattern

/-!
The paths that a pattern covers. Each part between slashes is a pattern for the names in one
directory; a name that starts with a dot is covered only where the pattern starts with one.
-/

set_option autoImplicit false
set_option relaxedAutoImplicit false

namespace ConnectorKit.Shell.Paths

/-- The parts of a pattern between slashes. -/
def parts : List Marked → List (List Marked)
  | [] => [[]]
  | ('/', _) :: rest => [] :: parts rest
  | m :: rest =>
    match parts rest with
    | first :: others => (m :: first) :: others
    | [] => [[m]]

/-- Whether something, be it a link that leads nowhere, stands at the path. -/
def stands (d : Disk) (path : Octets) : Bool :=
  d.holds (Octets.text path) ||
    match d.slot (Octets.text path) with
    | .ok (.name dir n false) => (d.tree.lookup? (dir ++ [n])).isSome
    | _ => false

/-- The names in the directory that a path leads to. -/
def names (d : Disk) (directory : Octets) : List Octets :=
  match d.searchStart? (if directory.isEmpty then "." else Octets.text directory) with
  | none => []
  | some r =>
    [".".toList, "..".toList] ++ (d.tree.below r).filterMap fun
      | ([n], _) => some (Octets.ofText n)
      | _ => none

/-- Whether glyphs cover a name. -/
def coversName (glyphs : List Glyph) (name : Octets) : Bool :=
  (name.head? ≠ some '.' || glyphs.head? = some (.char '.')) && Glyph.covers glyphs name

/-- The paths that start with `lead` and go on as the parts say. -/
def expand (d : Disk) (lead : Octets) : List (List Marked) → List Octets
  | [] => []
  | [part] =>
    let glyphs := Glyph.ofMarked part
    match glyphs.mapM Glyph.char? with
    | some name => if stands d (lead ++ name) then [lead ++ name] else []
    | none => ((names d lead).filter (coversName glyphs)).map (lead ++ ·)
  | part :: rest =>
    let glyphs := Glyph.ofMarked part
    match glyphs.mapM Glyph.char? with
    | some name => expand d (lead ++ name ++ ['/']) rest
    | none =>
      ((names d lead).filter (coversName glyphs)).flatMap fun name =>
        expand d (lead ++ name ++ ['/']) rest

private def comesFirst (a b : Octets) : Bool :=
  !decide (b < a)

/-- The paths that a pattern covers, in order; none where no part is more than a name. -/
def covered (d : Disk) (pattern : List Marked) : List Octets :=
  if ((parts pattern).flatMap Glyph.ofMarked).all fun g => g.char?.isSome then []
  else (expand d [] (parts pattern)).mergeSort comesFirst

end ConnectorKit.Shell.Paths
