import ConnectorKit.Json.Draft
import ConnectorKit.Server.Reply
import ConnectorKit.Text.Blank

/-!
Requests of the server. Each line of the input is a request of its own: a blank line and a value
without an identifier ask for no reply.
-/

set_option autoImplicit false
set_option relaxedAutoImplicit false

namespace ConnectorKit.Server

open Json (Value Mismatch Decoder)

structure Request where
  id : Option Value
  method : String
  parameters : Option Value

/-- What a line asks for. -/
inductive Demand where
  /-- Nothing that is replied to. -/
  | nothing
  | request (r : Request)
  /-- Something that is refused at once. -/
  | refused (id : Value) (f : Fault)

def Request.decoder : Decoder Request :=
  (fun (_ : String) id method parameters => Request.mk id method parameters) <$>
    .text "jsonrpc" <*> .anything "id" <*> .text "method" <*> .anything "params"

/-- What a value asks for: only an object with an identifier is a request. -/
def Demand.ofValue (v : Value) : Demand :=
  match v.member? "id" with
  | none => .nothing
  | some id =>
    match Request.decoder.read "JsonRpcRequest" v with
    | .ok r => .request r
    | .error m => .refused id (.invalidRequest m)

/-- What a line of text asks for. -/
def Demand.ofText (line : String) : Demand :=
  if Text.Blank.isBlankText line then .nothing
  else match Value.read? line with
    | some v => .ofValue v
    | none => .refused .null (.unreadable "the line is not JSON")

/-- What a line of bytes asks for. -/
def Demand.ofLine (line : ByteArray) : Demand :=
  match String.fromUTF8? line with
  | some text => .ofText text
  | none => .refused .null (.unreadable "the line is not UTF-8")

end ConnectorKit.Server
