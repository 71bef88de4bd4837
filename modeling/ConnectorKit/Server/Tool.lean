import ConnectorKit.Json.Value

/-!
The tools of the server: their names, what they do in a sentence, and the schema of their arguments.
-/

set_option autoImplicit false
set_option relaxedAutoImplicit false

namespace ConnectorKit.Server

open Json (Value)

inductive Tool where
  | findResource
  | detectController
  | migrationStatus
  | planMigration
  | addField
  | generateMapper
  | scaffoldTypes
  | scaffoldIdentity
  | scaffoldController
  | scaffoldMock
  | scaffoldFixtures
  | gitStatus
  | gitCommit
  deriving DecidableEq, Repr

namespace Tool

/-- The tools in the order they are listed. -/
def all : List Tool :=
  [.findResource, .detectController, .migrationStatus, .planMigration, .addField, .generateMapper,
   .scaffoldTypes, .scaffoldIdentity, .scaffoldController, .scaffoldMock, .scaffoldFixtures,
   .gitStatus, .gitCommit]

def name : Tool → String
  | .findResource => "kcc_find_resource"
  | .detectController => "kcc_detect_controller_type"
  | .migrationStatus => "kcc_migration_status"
  | .planMigration => "kcc_plan_migration"
  | .addField => "kcc_add_field"
  | .generateMapper => "kcc_generate_mapper"
  | .scaffoldTypes => "kcc_scaffold_types"
  | .scaffoldIdentity => "kcc_scaffold_identity"
  | .scaffoldController => "kcc_scaffold_controller"
  | .scaffoldMock => "kcc_scaffold_mockgcp"
  | .scaffoldFixtures => "kcc_scaffold_fixtures"
  | .gitStatus => "kcc_git_status"
  | .gitCommit => "kcc_git_commit"

def named? (name : String) : Option Tool :=
  all.find? (·.name = name)

def description : Tool → String
  | .findResource =>
    "Find all files related to a KCC resource (types, controller, mapper, fixtures)"
  | .detectController =>
    "Detect whether a resource uses a direct or legacy controller and whether migration is needed"
  | .migrationStatus => "Report per-phase progress of a legacy-to-direct controller migration"
  | .planMigration =>
    "Generate the seven-phase plan for migrating a legacy resource to a direct controller"
  | .addField =>
    "Add a field with its +kcc:proto annotation to a direct resource's types file"
  | .generateMapper =>
    "Regenerate KRM/proto mapper functions with ./dev/tasks/generate-mapper"
  | .scaffoldTypes => "Create the API types file for a direct resource (fails if it exists)"
  | .scaffoldIdentity =>
    "Create the identity handler for a direct resource (fails if it exists)"
  | .scaffoldController => "Create the direct controller for a resource (fails if it exists)"
  | .scaffoldMock =>
    "Create the MockGCP server implementation for a resource (fails if it exists)"
  | .scaffoldFixtures =>
    "Create create.yaml and update.yaml test fixtures for a resource (fails if either exists)"
  | .gitStatus => "Show git status of the KCC repository and the configured author"
  | .gitCommit =>
    "Commit changes as the configured author after policy checks " ++
      "(no AI attribution, conventional format)"

/-- An argument of a tool. -/
structure Argument where
  name : String
  type : String
  description : String
  required : Bool
  /-- What else the schema says of it. -/
  details : List (String × Value)

private def needed (name description : String) : Argument :=
  ⟨name, "string", description, true, []⟩

private def possible (name description : String) : Argument :=
  ⟨name, "string", description, false, []⟩

private def resourceLike (example_ : String) : List Argument :=
  [needed "resource" ("Resource name (e.g. " ++ example_ ++ ")")]

private def bareResource : Argument :=
  needed "resource" "Resource name without service prefix (e.g. URLMap)"

private def service : Argument :=
  needed "service" "Service name (e.g. compute)"

private def version : Argument :=
  needed "version" "API version (e.g. v1beta1)"

private def protoPackage : Argument :=
  needed "proto_package" "Proto package (e.g. google.cloud.compute.v1)"

private def protoMessage : Argument :=
  needed "proto_message" "Proto message name (e.g. UrlMap)"

private def nameFormat : Argument :=
  needed "resource_name_format"
    ("GCP resource name format (e.g. projects/\x7bproject\x7d/locations/\x7blocation\x7d/" ++
      "urlMaps/\x7burlmap\x7d)")

def arguments : Tool → List Argument
  | .findResource | .migrationStatus | .planMigration | .generateMapper =>
    resourceLike "ComputeURLMap"
  | .detectController => resourceLike "ComputeURLMap, NetworkServicesEdgeCacheService"
  | .addField =>
    resourceLike "ComputeURLMap" ++
    [needed "field_name" "Go field name (e.g. DefaultCustomErrorResponsePolicy)",
     ⟨"field_type", "string", "Field type", true,
       [("enum", .strings ["string", "int64", "bool", "object", "array"])]⟩,
     needed "proto_path"
       ("Full proto path (e.g. google.cloud.compute.v1.UrlMap." ++
         "default_custom_error_response_policy)"),
     possible "parent_type" "Struct to add the field to (default: <resource>Spec)",
     possible "description" "Field description comment",
     possible "json_name" "JSON tag name (default: camelCase of field_name)",
     possible "types_file" "Repository-relative types file (default: located from resource)"]
  | .scaffoldTypes =>
    [bareResource, service, version, protoPackage, protoMessage,
     possible "description" "Resource description"]
  | .scaffoldIdentity => [bareResource, service, version, nameFormat]
  | .scaffoldController => [bareResource, service, version, protoPackage, protoMessage]
  | .scaffoldMock =>
    [bareResource, service,
     needed "proto_package"
       ("Go import path of the proto package " ++
         "(e.g. cloud.google.com/go/compute/apiv1/computepb)"),
     protoMessage, nameFormat]
  | .scaffoldFixtures => [bareResource, service, version]
  | .gitStatus => []
  | .gitCommit =>
    [needed "message"
       "Commit message in conventional format (e.g. \"feat: add field to ComputeURLMap\")",
     ⟨"files", "array", "Repository-relative files to stage (default: all changes)", false,
       [("items", .object [("type", .string "string")])]⟩]

def Argument.schema (a : Argument) : String × Value :=
  (a.name, .object
    ([("type", .string a.type), ("description", .string a.description)] ++ a.details))

/-- The schema of the arguments; a tool without arguments requires none in words. -/
def schema (t : Tool) : Value :=
  let properties := ("properties", Value.object (t.arguments.map Argument.schema))
  let required := (t.arguments.filter (·.required)).map (·.name)
  .object ([("type", .string "object"), properties] ++
    if required.isEmpty then [] else [("required", .strings required)])

/-- How a tool is listed. -/
def listing (t : Tool) : Value :=
  .object [
    ("name", .string t.name),
    ("description", .string t.description),
    ("inputSchema", t.schema)]

end Tool

end ConnectorKit.Server
