import ConnectorKit.Server.Call
import ConnectorKit.Server.Request

/-!
The server: it answers the lines of its input one after the other, each on the world that the one
before has left.
-/

set_option autoImplicit false
set_option relaxedAutoImplicit false

namespace ConnectorKit.Server

open Json (Value)

def protocolVersion : String := "2024-11-05"

def serverName : String := "kcc-contributor"

def serverVersion : String := "0.1.0"

/-- What the server says of itself. -/
def greeting : Value :=
  .object [
    ("protocolVersion", .string protocolVersion),
    ("capabilities", .object [("tools", .object [])]),
    ("serverInfo", .object [("name", .string serverName), ("version", .string serverVersion)])]

def toolList : Value :=
  .object [("tools", .array (Tool.all.map Tool.listing))]

/-- The result of a call: one text, and whether it tells of an error. -/
def callResult (text : String) (isError : Bool) : Value :=
  .object [
    ("content", .array [.object [("type", .string "text"), ("text", .string text)]]),
    ("isError", .bool isError)]

/-- The tool that parameters name, and its arguments. -/
def readCall (parameters : Option Value) : Except Fault (Tool × Value) :=
  match parameters with
  | none => .error .missingParameters
  | some parameters =>
    match (parameters.member? "name").bind Value.string? with
    | none => .error .missingToolName
    | some name =>
      match Tool.named? name with
      | none => .error (.unknownTool name)
      | some tool => .ok (tool, (parameters.member? "arguments").getD .null)

variable {γ : Type}

/-- Calls the tool that the parameters name. -/
def answerCall (p : Workplace γ) (parameters : Option Value) (w : World γ) :
    Outcome × World γ :=
  match readCall parameters with
  | .error fault => (.error fault, w)
  | .ok (tool, arguments) =>
    match tool.call p arguments w with
    | (.ok text, w) => (.result (callResult text false), w)
    | (.error refusal, w) => (.result (callResult refusal.message true), w)

/-- Carries out a request. -/
def Request.answer (r : Request) (p : Workplace γ) (w : World γ) : Outcome × World γ :=
  match r.method with
  | "initialize" => (.result greeting, w)
  | "tools/list" => (.result toolList, w)
  | "tools/call" => answerCall p r.parameters w
  | other => (.error (.unknownMethod other), w)

/-- Answers one line. -/
def answer (p : Workplace γ) (line : ByteArray) (w : World γ) : Option Reply × World γ :=
  match Demand.ofLine line with
  | .nothing => (none, w)
  | .refused id fault => (some ⟨id, .error fault⟩, w)
  | .request r =>
    let (outcome, w) := r.answer p w
    (some ⟨r.id.getD .null, outcome⟩, w)

/-- The lines of bytes, without the line feeds; an end without a line feed is a line if it is not
empty. -/
def linesOf : List UInt8 → List (List UInt8)
  | [] => []
  | b :: rest =>
    if b = 10 then [] :: linesOf rest
    else match linesOf rest with
      | line :: lines => (b :: line) :: lines
      | [] => [[b]]

/-- Answers lines in order. -/
def serveLines (p : Workplace γ) : List (List UInt8) → World γ → List Reply × World γ
  | [], w => ([], w)
  | line :: lines, w =>
    let (reply, w) := answer p ⟨line.toArray⟩ w
    let (replies, w) := serveLines p lines w
    (reply.toList ++ replies, w)

/-- Answers the whole input. -/
def serve (p : Workplace γ) (input : ByteArray) (w : World γ) : List Reply × World γ :=
  serveLines p (linesOf input.toList) w

end ConnectorKit.Server
