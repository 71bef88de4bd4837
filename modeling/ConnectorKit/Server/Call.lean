import ConnectorKit.Commit.Gate
import ConnectorKit.Field.Insertion
import ConnectorKit.Json.Record
import ConnectorKit.Migration.Mapper
import ConnectorKit.Report
import ConnectorKit.Scaffold.Controller
import ConnectorKit.Scaffold.Fixtures
import ConnectorKit.Scaffold.Identity
import ConnectorKit.Scaffold.Mock
import ConnectorKit.Scaffold.Types
import ConnectorKit.Server.Tool
import ConnectorKit.Server.Workplace

/-!
Calling a tool: its arguments are read as a record of its own, then it does its work on the world
and answers with a text. Reports are printed over several lines, their members sorted by key.
-/

set_option autoImplicit false
set_option relaxedAutoImplicit false

namespace ConnectorKit.Server

open Json (Value Mismatch Decoder)

/-- Why a tool refuses. -/
inductive Refusal where
  | arguments (m : Mismatch)
  | failed (f : Failure)

def Refusal.message : Refusal → String
  | .arguments m => "invalid arguments: " ++ m.message
  | .failed f => f.message

/-- The arguments of `kcc_git_commit`. -/
structure CommitRequest where
  message : String
  files : List String
  deriving DecidableEq, Repr

namespace Arguments

def resource : Decoder String :=
  .text "resource"

def field : Decoder Field.Request :=
  Field.Request.mk <$> .text "resource" <*> .text "field_name" <*> .text "field_type" <*>
    .text "proto_path" <*> .optionalText "parent_type" <*> .optionalText "description" <*>
    .optionalText "json_name" <*> .optionalText "types_file"

def types : Decoder Scaffold.TypesRequest :=
  Scaffold.TypesRequest.mk <$> .text "resource" <*> .text "service" <*> .text "version" <*>
    .text "proto_package" <*> .text "proto_message" <*> .optionalText "description"

def identity : Decoder Scaffold.IdentityRequest :=
  Scaffold.IdentityRequest.mk <$> .text "resource" <*> .text "service" <*> .text "version" <*>
    .text "resource_name_format"

def controller : Decoder Scaffold.ControllerRequest :=
  Scaffold.ControllerRequest.mk <$> .text "resource" <*> .text "service" <*> .text "version" <*>
    .text "proto_package" <*> .text "proto_message"

def mock : Decoder Scaffold.MockRequest :=
  Scaffold.MockRequest.mk <$> .text "resource" <*> .text "service" <*> .text "proto_package" <*>
    .text "proto_message" <*> .text "resource_name_format"

def fixtures : Decoder Scaffold.FixturesRequest :=
  Scaffold.FixturesRequest.mk <$> .text "resource" <*> .text "service" <*> .text "version"

def commit : Decoder CommitRequest :=
  CommitRequest.mk <$> .text "message" <*> .texts "files"

end Arguments

/-- Reads arguments; absent ones count as an empty object. -/
def readArguments {α : Type} (d : Decoder α) (record : String) (arguments : Value) :
    Except Mismatch α :=
  match arguments with
  | .null => d.read record (.object [])
  | arguments => d.read record arguments

/-- A report as the text of an answer. -/
def reportText (v : Value) : String :=
  Json.Writer.pretty v.sortKeys

variable {γ : Type}

/-- The status of the repository, with the configured author. -/
def showStatus (p : Workplace γ) : Action (World γ) String := do
  let status ← p.git.ask .status
  let body :=
    if Text.Blank.isBlankText status then "Working tree clean" else Text.Blank.trimEnd status
  return "Repository: " ++ p.root ++ "\nAuthor: " ++ p.settings.author.text ++ "\n\n" ++ body

/-- Commits, and confirms it. The message is checked at once, so that a refused one never needs
version control, and again on the way to the commit. -/
def commit (p : Workplace γ) (r : CommitRequest) : Action (World γ) String := do
  Action.ofExcept (Commit.checkMessage p.settings.conventional r.message)
  Commit.create p.git p.settings.author p.settings.conventional p.root r.message r.files
  let staged := if r.files.isEmpty then "all changes" else ", ".intercalate r.files
  return "Committed as " ++ p.settings.author.text ++ "\nStaged: " ++ staged ++
    "\nMessage: " ++ Text.Line.first r.message

/-- A report that is read off the disk. -/
def report {α : Type} (read : Disk → Except Failure α) (write : α → Value) :
    Action (World γ) String := do
  return reportText (write (← World.inspect read))

/-- What a tool does with its arguments, once they are read. -/
def Tool.action (t : Tool) (p : Workplace γ) (arguments : Value) :
    Except Mismatch (Action (World γ) String) :=
  match t with
  | .findResource => do
    let resource ← readArguments Arguments.resource "ResourceArgs" arguments
    return report (fun d => Controller.locate p.engine d p.root resource) Report.location
  | .detectController => do
    let resource ← readArguments Arguments.resource "ResourceArgs" arguments
    return report (fun d => Controller.classify p.engine d p.root resource) Report.classification
  | .migrationStatus => do
    let resource ← readArguments Arguments.resource "ResourceArgs" arguments
    return report (fun d => Migration.status p.engine d p.root resource) Report.progress
  | .planMigration => do
    let resource ← readArguments Arguments.resource "ResourceArgs" arguments
    return report (fun d => Migration.plan p.engine d p.root resource) Report.plan
  | .addField => do
    let r ← readArguments Arguments.field "AddFieldParams" arguments
    return World.onDisk (Field.add p.engine p.root r)
  | .generateMapper => do
    let resource ← readArguments Arguments.resource "ResourceArgs" arguments
    return World.onDisk (Migration.generateMapper p.run p.environment p.root resource)
  | .scaffoldTypes => do
    let r ← readArguments Arguments.types "TypesParams" arguments
    return World.onDisk (Scaffold.types p.root p.year r)
  | .scaffoldIdentity => do
    let r ← readArguments Arguments.identity "IdentityParams" arguments
    return World.onDisk (Scaffold.identity p.root p.year r)
  | .scaffoldController => do
    let r ← readArguments Arguments.controller "ControllerParams" arguments
    return World.onDisk (Scaffold.controller p.root p.year r)
  | .scaffoldMock => do
    let r ← readArguments Arguments.mock "MockGcpParams" arguments
    return World.onDisk (Scaffold.mock p.root p.year r)
  | .scaffoldFixtures => do
    let r ← readArguments Arguments.fixtures "FixturesParams" arguments
    return World.onDisk (Scaffold.fixtures p.root r)
  | .gitStatus => .ok (showStatus p)
  | .gitCommit => do
    let r ← readArguments Arguments.commit "CommitArgs" arguments
    return commit p r

/-- Calls a tool. -/
def Tool.call (t : Tool) (p : Workplace γ) (arguments : Value) (w : World γ) :
    Except Refusal String × World γ :=
  match t.action p arguments with
  | .error mismatch => (.error (.arguments mismatch), w)
  | .ok act =>
    let (outcome, w) := act.perform w
    (outcome.mapError .failed, w)

end ConnectorKit.Server
