import ConnectorKit.Controller.Location
import ConnectorKit.Disk.Write
import ConnectorKit.Field.Kind
import ConnectorKit.Text.Blank
import ConnectorKit.Text.Line

/-!
Adding a field to a struct of a types file. The new lines stand after the last field of the struct
that has a tag, or before its closing brace if none has.
-/

set_option autoImplicit false
set_option relaxedAutoImplicit false

namespace ConnectorKit.Field

/-- A field to be added; what is not given is derived from resource and field name. -/
structure Request where
  resource : String
  fieldName : String
  fieldType : String
  protoPath : String
  parentType : Option String
  description : Option String
  jsonName : Option String
  typesFile : Option String
  deriving DecidableEq, Repr

/-- The lines that declare a field, without a line feed at their end. -/
def block (fieldName declaredType jsonName protoPath : String) (description : Option String) :
    String :=
  let comment := match description with
    | some text => if text = "" then [] else ["\t// " ++ text]
    | none => []
  Text.Line.ofRows (comment ++
    ["\t// +kcc:proto=" ++ protoPath,
     "\t" ++ fieldName ++ " " ++ declaredType ++ " `json:\"" ++ jsonName ++ ",omitempty\"`"])

/-- How the struct of a type starts. -/
def header (parent : String) : String :=
  "type " ++ parent ++ " struct \x7b"

def isClosing (row : String) : Bool :=
  Text.Blank.trim row = "\x7d"

def hasTag (row : String) : Bool :=
  Text.Search.contains row "`json:"

/-- Where a field goes in the rows after a header, `position` being the place of the first of them
and `afterField` the place after the last field seen. -/
def placeAfter (position : Nat) (afterField : Option Nat) : List String → Option Nat
  | [] => none
  | row :: rows =>
    let afterField := if hasTag row then some (position + 1) else afterField
    if isClosing row then some (afterField.getD position)
    else placeAfter (position + 1) afterField rows

/-- Where a field of the parent goes: the place of the row that it comes before. -/
def place? (parent : String) (rows : List String) : Option Nat := do
  let start ← rows.findIdx? (Text.Search.contains · (header parent))
  placeAfter (start + 1) none (rows.drop (start + 1))

def insertAt (place : Nat) (block : String) (rows : List String) : List String :=
  rows.take place ++ block :: rows.drop place

/-- The text with the block put into the struct of the parent. -/
def insert? (parent block content : String) : Option String := do
  let rows := Text.Line.rows content
  let place ← place? parent rows
  return Text.Line.ofRows (insertAt place block rows)

/-- Refuses a path that leads out of the repository, or nowhere. -/
def checkInside (path : String) : Except Failure Unit :=
  let leaves := (Disk.Path.components path).any fun
    | .top | .up => true
    | .here | .name _ => false
  if Text.Blank.isBlankText path ∨ leaves then .error (.outsideRepository path) else .ok ()

namespace Request

def parent (r : Request) : String :=
  r.parentType.getD (r.resource ++ "Spec")

def block (r : Request) (kind : Kind) : String :=
  Field.block r.fieldName (kind.declaredType r.resource r.fieldName)
    (r.jsonName.getD (Text.Case.uncapitalize r.fieldName)) r.protoPath r.description

/-- The types file to be changed: the given one, or that of the resource. -/
def target (engine : Text.Glob.Engine) (r : Request) (d : Disk) (root : String) :
    Except Failure String :=
  match r.typesFile with
  | some path => do
    checkInside path
    return path
  | none => do
    return (← Controller.locate engine d root r.resource).typesFile

/-- The file to be changed, its new content and the new block. -/
def prepare (engine : Text.Glob.Engine) (r : Request) (d : Disk) (root : String) :
    Except Failure (String × String × String) := do
  let kind ← Kind.ofText r.fieldType
  let path ← r.target engine d root
  let content ← (d.readText (Disk.Path.join root path)).mapError .disk
  match insert? r.parent (r.block kind) content with
  | some changed => return (path, changed, r.block kind)
  | none => .error (.parentTypeNotFound r.parent path)

end Request

/-- Adds a field, and confirms it. -/
def add (engine : Text.Glob.Engine) (root : String) (r : Request) : Action Disk String := do
  let (path, content, block) ← Action.ofExcept (r.prepare engine (← get) root)
  Disk.replace (Disk.Path.join root path) content.toUTF8
  return "Added field to " ++ path ++ "\n\n" ++ block

end ConnectorKit.Field
