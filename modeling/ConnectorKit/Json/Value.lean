import ConnectorKit.Decimal.Binary64

/-!
JSON values. An object is a list of members in the order they are to be written; `sortKeys` gives
the order by key, and `insertMember` keeps it, the last of two equal keys winning.
-/

set_option autoImplicit false
set_option relaxedAutoImplicit false

namespace ConnectorKit.Json

/-- A whole number of 64 bits, or a binary number. -/
inductive Number where
  | whole (n : Int)
  | real (x : Decimal.Binary64)
  deriving DecidableEq, Repr

inductive Value where
  | null
  | bool (b : Bool)
  | number (n : Number)
  | string (s : String)
  | array (items : List Value)
  | object (members : List (String × Value))
  deriving Repr, Inhabited

namespace Value

def ofNat (n : Nat) : Value :=
  .number (.whole n)

def ofInt (n : Int) : Value :=
  .number (.whole n)

def ofOption {α : Type} (write : α → Value) : Option α → Value
  | some a => write a
  | none => .null

def strings (texts : List String) : Value :=
  .array (texts.map .string)

/-- The member of an object with the key; nothing else has members. -/
def member? (key : String) : Value → Option Value
  | .object members => members.lookup key
  | _ => none

def string? : Value → Option String
  | .string s => some s
  | _ => none

/-- Puts a member at its place among members sorted by key. -/
def insertMember {α : Type} (key : String) (value : α) : List (String × α) → List (String × α)
  | [] => [(key, value)]
  | (k, v) :: rest =>
    if key < k then (key, value) :: (k, v) :: rest
    else if key = k then (key, value) :: rest
    else (k, v) :: insertMember key value rest

def sortMembers {α : Type} (members : List (String × α)) : List (String × α) :=
  members.foldl (fun sorted (k, v) => insertMember k v sorted) []

mutual

/-- The value with the members of every object sorted by key. -/
def sortKeys : Value → Value
  | .array items => .array (sortItems items)
  | .object members => .object (sortMembers (sortEach members))
  | .null => .null
  | .bool b => .bool b
  | .number n => .number n
  | .string s => .string s

def sortItems : List Value → List Value
  | [] => []
  | v :: rest => sortKeys v :: sortItems rest

def sortEach : List (String × Value) → List (String × Value)
  | [] => []
  | (k, v) :: rest => (k, sortKeys v) :: sortEach rest

end

end Value

end ConnectorKit.Json
