import ConnectorKit.Layout.Template
import ConnectorKit.Text.Case

/-!
The service, the version and the resource that the path of a types file tells.
-/

set_option autoImplicit false
set_option relaxedAutoImplicit false

namespace ConnectorKit.Layout

structure TypesFile where
  service : String
  version : String
  file : String
  deriving DecidableEq, Repr

namespace TypesFile

/-- Reads a path by a layout; service and version are taken in lower case. -/
def ofPath (l : Layout) (path : String) : Except Failure TypesFile := do
  let captures ← l.capture path
  return {
    service := Text.Case.lower (captured captures "service")
    version := Text.Case.lower (captured captures "version")
    file := captured captures "file" }

/-- The file's own name without the ending that marks it as a types file. -/
def stem (t : TypesFile) : String :=
  let name := (Text.Search.split '/' t.file).getLastD ""
  match Text.Search.before? "_types.go" name, Text.Search.before? "types.go" name with
  | some stem, _ => stem
  | none, some stem => stem
  | none, none => name

end TypesFile

end ConnectorKit.Layout
