/-!
Where the files of a resource stand in the repository. All paths are seen from its root.
-/

set_option autoImplicit false
set_option relaxedAutoImplicit false

namespace ConnectorKit.Layout

def apisDirectory : String := "apis"

def legacyDirectory : String := "pkg/clients/generated"

def protoDirectory : String := "mockgcp/third_party/googleapis"

def controllerDirectory : String := "pkg/controller/direct"

def fixturesDirectory : String := "pkg/test/resourcefixture/testdata/basic"

def mockDirectory : String := "mockgcp"

/-- The script that generates the mappers, as it is called. -/
def mapperScript : String := "./dev/tasks/generate-mapper"

/-- The same script seen from the root of the repository. -/
def mapperScriptPath : String := "dev/tasks/generate-mapper"

def createFixture : String := "create.yaml"

def updateFixture : String := "update.yaml"

/-- Names of direct types files of a resource, in lower case. -/
def directTypesPattern (lower : String) : String :=
  "*" ++ lower ++ "*_types.go"

/-- Names of legacy types files of a resource, in lower case; no underscore is asked for. -/
def legacyTypesPattern (lower : String) : String :=
  "*" ++ lower ++ "*types.go"

def typesFile (service version lower : String) : String :=
  apisDirectory ++ "/" ++ service ++ "/" ++ version ++ "/" ++ lower ++ "_types.go"

def identityFile (service version lower : String) : String :=
  apisDirectory ++ "/" ++ service ++ "/" ++ version ++ "/" ++ lower ++ "_identity.go"

def controllerFile (service lower : String) : String :=
  controllerDirectory ++ "/" ++ service ++ "/" ++ lower ++ "_controller.go"

def mapperFile (service : String) : String :=
  controllerDirectory ++ "/" ++ service ++ "/mapper.generated.go"

def mockFile (service lower : String) : String :=
  mockDirectory ++ "/mock" ++ service ++ "/" ++ lower ++ ".go"

def fixturesOf (service version lower : String) : String :=
  fixturesDirectory ++ "/" ++ service ++ "/" ++ version ++ "/" ++ lower

def fixtureFile (service version lower name : String) : String :=
  fixturesOf service version lower ++ "/" ++ name

/-- Where protos are expected when none were found. -/
def defaultProto (service : String) : String :=
  protoDirectory ++ "/google/cloud/" ++ service ++ "/v1/*.proto"

end ConnectorKit.Layout
