import ConnectorKit.Controller.Location
import ConnectorKit.Json.Value
import ConnectorKit.Migration.Plan
import ConnectorKit.Migration.Progress

/-!
Reports as JSON values, the members in the order they are printed.
-/

set_option autoImplicit false
set_option relaxedAutoImplicit false

namespace ConnectorKit.Report

open Json (Value)

def presence (present : List (String × Bool)) : Value :=
  .object (present.map fun (key, b) => (key, .bool b))

def texts (members : List (String × String)) : Value :=
  .object (members.map fun (key, text) => (key, .string text))

def optional (text : Option String) : Value :=
  Value.ofOption .string text

def classification (c : Controller.Classification) : Value :=
  .object ([
    ("resource", .string c.resource),
    ("type", .string c.style.text),
    ("location", optional c.location),
    ("migration_needed", .bool c.migrationNeeded),
    ("has_direct_types", .bool c.hasDirectTypes),
    ("has_legacy_types", .bool c.hasLegacyTypes),
    ("has_proto", .bool c.hasProto),
    ("proto_location", optional c.protoLocation),
    ("service", optional c.service),
    ("version", optional c.version)] ++
    (c.layoutError.map fun reason => ("layout_error", Value.string reason)).toList)

def location (l : Controller.Location) : Value :=
  .object [
    ("resource", .string l.resource),
    ("service", .string l.service),
    ("version", .string l.version),
    ("types_file", .string l.typesFile),
    ("controller_file", .string l.controllerFile),
    ("mapper_file", .string l.mapperFile),
    ("test_fixtures_dir", .string l.fixtures),
    ("files_exist", presence l.present)]

def phase (p : Migration.PhaseStatus) : Value :=
  .object [
    ("number", .ofNat p.number),
    ("name", .string p.name),
    ("status", .string p.completion.text),
    ("files_exist", presence p.present)]

def progress (p : Migration.Progress) : Value :=
  .object [
    ("resource", .string p.resource),
    ("service", optional p.service),
    ("version", optional p.version),
    ("overall_progress", .string p.overall),
    ("current_phase", phase p.current),
    ("phases", .array (p.phases.map phase)),
    ("next_action", .string p.nextAction),
    ("can_add_fields", .bool p.canAddFields),
    ("core_phases_complete", .bool p.coreComplete)]

def plannedPhase (p : Migration.PlannedPhase) : Value :=
  .object [
    ("phase", .ofNat p.number),
    ("name", .string p.name),
    ("description", .string p.description),
    ("tasks", .strings p.tasks),
    ("estimated_time", .string p.time)]

def protoSource (p : Migration.ProtoSource) : Value :=
  .object [
    ("service", .string p.service),
    ("version", .string p.version),
    ("proto_package", .string p.package),
    ("proto_message", .string p.message)]

def plan (p : Migration.Plan) : Value :=
  .object [
    ("resource", .string p.resource),
    ("current_type", .string p.style.text),
    ("needs_migration", .bool p.needsMigration),
    ("has_proto", .bool p.hasProto),
    ("phases", .array (p.phases.map plannedPhase)),
    ("target_files", texts p.targets),
    ("proto_info", protoSource p.proto),
    ("next_action", .string p.nextAction)]

end ConnectorKit.Report
