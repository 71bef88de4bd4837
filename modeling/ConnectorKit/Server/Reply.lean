import ConnectorKit.Json.Record

/-!
Replies of the server. A reply has the identifier of its request, and a result or an error but never
both.
-/

set_option autoImplicit false
set_option relaxedAutoImplicit false

namespace ConnectorKit.Server

open Json (Value Mismatch)

/-- Why a request is not carried out. -/
inductive Fault where
  | unreadable (reason : String)
  | invalidRequest (m : Mismatch)
  | unknownMethod (name : String)
  | unknownTool (name : String)
  | missingParameters
  | missingToolName

def Fault.code : Fault → Int
  | .unreadable _ => -32700
  | .invalidRequest _ => -32600
  | .unknownMethod _ | .unknownTool _ => -32601
  | .missingParameters | .missingToolName => -32602

def Fault.message : Fault → String
  | .unreadable reason => "parse error: " ++ reason
  | .invalidRequest m => "invalid request: " ++ m.message
  | .unknownMethod name => "method not found: " ++ name
  | .unknownTool name => "tool not found: " ++ name
  | .missingParameters => "missing params"
  | .missingToolName => "missing tool name in params"

inductive Outcome where
  | result (v : Value)
  | error (f : Fault)

structure Reply where
  id : Value
  outcome : Outcome

/-- The member that tells the outcome. -/
def Outcome.member : Outcome → String × Value
  | .result v => ("result", v.sortKeys)
  | .error f => ("error", .object [("code", .ofInt f.code), ("message", .string f.message)])

/-- The reply as a JSON value; identifier and result have their members sorted by key. -/
def Reply.value (r : Reply) : Value :=
  .object [("jsonrpc", .string "2.0"), ("id", r.id.sortKeys), r.outcome.member]

/-- The reply as a line. -/
def Reply.text (r : Reply) : String :=
  Json.Writer.compact r.value

end ConnectorKit.Server
