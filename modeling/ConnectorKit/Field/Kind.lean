import ConnectorKit.Failure

/-!
The kinds of fields that can be added, and the type that declares each in a struct.
-/

set_option autoImplicit false
set_option relaxedAutoImplicit false

namespace ConnectorKit.Field

inductive Kind where
  | string
  | int64
  | bool
  | object
  | array
  deriving DecidableEq, Repr

def Kind.ofText (text : String) : Except Failure Kind :=
  match text with
  | "string" => .ok .string
  | "int64" => .ok .int64
  | "bool" => .ok .bool
  | "object" => .ok .object
  | "array" => .ok .array
  | _ => .error (.unsupportedFieldType text)

/-- The declared type; an object has a struct of its own, named for resource and field. -/
def Kind.declaredType (kind : Kind) (resource field : String) : String :=
  match kind with
  | .string => "*string"
  | .int64 => "*int64"
  | .bool => "*bool"
  | .array => "[]string"
  | .object => "*" ++ resource ++ "_" ++ field

end ConnectorKit.Field
