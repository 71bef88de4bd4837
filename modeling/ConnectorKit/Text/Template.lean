/-!
Text templates. Two opening braces, a key and two closing braces are a slot; a template is cut
into characters and slots before any value is looked at, so a value can open no slot.
-/

set_option autoImplicit false
set_option relaxedAutoImplicit false

namespace ConnectorKit.Text.Template

/-- A character of a template, or a slot with its key. -/
inductive Piece where
  | char (c : Char)
  | slot (key : List Char)
  deriving DecidableEq, Repr

/-- A slot as it is written in a template. -/
def slot (key : String) : String :=
  "\x7b\x7b" ++ key ++ "\x7d\x7d"

def braced (key : List Char) : List Char :=
  '{' :: '{' :: key ++ ['}', '}']

mutual

/-- The pieces of a template. An opening that nothing closes is text. -/
def pieces : List Char → List Piece
  | '{' :: '{' :: rest => slotPieces [] rest
  | c :: rest => .char c :: pieces rest
  | [] => []

/-- The pieces after an opening, `key` being what was read of the key, last first. -/
def slotPieces (key : List Char) : List Char → List Piece
  | '}' :: '}' :: rest => .slot key.reverse :: pieces rest
  | c :: rest => slotPieces (c :: key) rest
  | [] => ('{' :: '{' :: key.reverse).map .char

end

/-- What stands for a piece: a slot whose key is not bound stays as written. -/
def Piece.fill (bindings : List (String × String)) : Piece → List Char
  | .char c => [c]
  | .slot key =>
    match bindings.lookup (String.ofList key) with
    | some value => value.toList
    | none => braced key

/-- The template with each bound slot replaced by the first value bound to its key. -/
def render (template : String) (bindings : List (String × String)) : String :=
  String.ofList ((pieces template.toList).flatMap (Piece.fill bindings))

end ConnectorKit.Text.Template
