import ConnectorKit.Controller.Classification

/-!
Where the files of a resource with a direct controller stand. The types file is searched, the others
are told from it; a resource without a types file is a failure here.
-/

set_option autoImplicit false
set_option relaxedAutoImplicit false

namespace ConnectorKit.Controller

structure Location where
  resource : String
  service : String
  version : String
  typesFile : String
  controllerFile : String
  mapperFile : String
  fixtures : String
  /-- Which of them are there, by key. -/
  present : List (String × Bool)
  deriving DecidableEq, Repr

/-- Finds the types file of a resource below `apis` and derives the others. -/
def locate (engine : Text.Glob.Engine) (d : Disk) (root resource : String) :
    Except Failure Location := do
  let pattern := Layout.legacyTypesPattern (Text.Case.lower resource)
  match (← matching engine d root Layout.apisDirectory pattern).head? with
  | none => .error (.resourceNotFound resource (Layout.apisDirectory ++ "/**/" ++ pattern))
  | some typesFile =>
    let file ← Layout.TypesFile.ofPath Layout.directTypes typesFile
    let name := file.stem
    let controllerFile := Layout.controllerFile file.service name
    let mapperFile := Layout.mapperFile file.service
    let fixtures := Layout.fixturesOf file.service file.version name
    return {
      resource := name
      service := file.service
      version := file.version
      typesFile := typesFile
      controllerFile := controllerFile
      mapperFile := mapperFile
      fixtures := fixtures
      present := [
        ("controller", d.stands root controllerFile),
        ("mapper", d.stands root mapperFile),
        ("test_fixtures", d.stands root fixtures),
        ("types", d.stands root typesFile)] }

end ConnectorKit.Controller
