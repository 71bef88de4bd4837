import ConnectorKit.Json.Writer
import ConnectorKit.Text.Quoted

/-!
Records read from JSON values. A record is written as an object or as an array in the order of its
fields. Members that are there are checked in the order of the object, before members that are
missing; unknown members are passed over.
-/

set_option autoImplicit false
set_option relaxedAutoImplicit false

namespace ConnectorKit.Json

/-- What a value should have been. -/
inductive Expected where
  | text
  | list
  | record (name : String)
  deriving DecidableEq, Repr

/-- Why a value is not the record it should be. -/
inductive Mismatch where
  | missing (field : String)
  | wrongKind (found : Value) (expected : Expected)
  | tooShort (count : Nat) (record : String) (fields : Nat)
  | tooLong (count : Nat)

def Expected.describe : Expected → String
  | .text => "a string"
  | .list => "a sequence"
  | .record name => "struct " ++ name

/-- The kind of a value, with the value itself where it is short. -/
def Value.describe : Value → String
  | .null => "null"
  | .bool b => "boolean `" ++ String.ofList (Writer.literal b) ++ "`"
  | .number (.whole n) => "integer `" ++ toString n ++ "`"
  | .number (.real x) => "floating point `" ++ String.ofList (Decimal.Shortest.text x) ++ "`"
  | .string s => "string " ++ Text.Quoted.quote s
  | .array _ => "sequence"
  | .object _ => "map"

def Mismatch.message : Mismatch → String
  | .missing field => "missing field `" ++ field ++ "`"
  | .wrongKind found expected =>
    "invalid type: " ++ found.describe ++ ", expected " ++ expected.describe
  | .tooShort count record fields =>
    "invalid length " ++ toString count ++ ", expected struct " ++ record ++ " with " ++
      toString fields ++ (if fields = 1 then " element" else " elements")
  | .tooLong count =>
    "invalid length " ++ toString count ++ ", expected fewer elements in array"

/-- A field of a record, and whether an array has to reach it. -/
structure FieldRule where
  name : String
  check : Value → Except Mismatch Unit
  required : Bool

/-- How a record is read: its fields in order, and its value from the members found. -/
structure Decoder (α : Type) where
  fields : List FieldRule
  build : (String → Option Value) → Except Mismatch α

namespace Decoder

def pure {α : Type} (a : α) : Decoder α :=
  ⟨[], fun _ => .ok a⟩

/-- Reads the fields of both, those of the first before those of the second. -/
def ap {α β : Type} (f : Decoder (α → β)) (x : Decoder α) : Decoder β :=
  ⟨f.fields ++ x.fields, fun get => do
    let g ← f.build get
    let a ← x.build get
    return g a⟩

instance : Applicative Decoder where
  pure := pure
  seq f x := ap f (x ())

/-- One field, with the value it has when it is missing, if it may be. -/
def field {α : Type} (name : String) (read : Value → Except Mismatch α) (absent : Option α)
    (required : Bool) : Decoder α :=
  ⟨[⟨name, fun v => (read v).map fun _ => (), required⟩], fun get =>
    match get name, absent with
    | some v, _ => read v
    | none, some a => .ok a
    | none, none => .error (.missing name)⟩

def readText : Value → Except Mismatch String
  | .string s => .ok s
  | v => .error (.wrongKind v .text)

def readOption {α : Type} (read : Value → Except Mismatch α) : Value → Except Mismatch (Option α)
  | .null => .ok none
  | v => (read v).map some

def readTexts : Value → Except Mismatch (List String)
  | .array items => items.mapM readText
  | v => .error (.wrongKind v .list)

def text (name : String) : Decoder String :=
  field name readText none true

def optionalText (name : String) : Decoder (Option String) :=
  field name (readOption readText) (some none) false

/-- A list of texts, empty when it is missing. -/
def texts (name : String) : Decoder (List String) :=
  field name readTexts (some []) false

/-- Any value; null counts as missing. -/
def anything (name : String) : Decoder (Option Value) :=
  field name (readOption .ok) (some none) true

def checkMembers (rules : List FieldRule) :
    List (String × Value) → Except Mismatch Unit
  | [] => .ok ()
  | (key, v) :: rest => do
    match rules.find? (·.name = key) with
    | some rule => rule.check v
    | none => .ok ()
    checkMembers rules rest

def checkItems (record : String) (all : List FieldRule) (position : Nat) :
    List FieldRule → List Value → Except Mismatch Unit
  | [], [] => .ok ()
  | [], extra => .error (.tooLong (position + extra.length))
  | rule :: rules, [] =>
    if rule.required then .error (.tooShort position record all.length)
    else checkItems record all (position + 1) rules []
  | rule :: rules, v :: rest => do
    rule.check v
    checkItems record all (position + 1) rules rest

/-- Reads a record of the given name. -/
def read {α : Type} (d : Decoder α) (record : String) : Value → Except Mismatch α
  | .object members => do
    checkMembers d.fields members
    d.build fun key => members.lookup key
  | .array items => do
    checkItems record d.fields 0 d.fields items
    d.build fun key => ((d.fields.map (·.name)).zip items).lookup key
  | v => .error (.wrongKind v (.record record))

end Decoder

end ConnectorKit.Json
