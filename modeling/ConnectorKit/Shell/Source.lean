import ConnectorKit.Shell.Token

/-!
A script while it is read: what is left of it, on which line, and the documents that were announced
on this line or read after an earlier one.
-/

set_option autoImplicit false
set_option relaxedAutoImplicit false

namespace ConnectorKit.Shell

/-- A document that a redirection asked for; its lines follow the line that is being read. -/
structure Announcement where
  number : Nat
  /-- The line that ends the document. -/
  finish : Octets
  withoutTabs : Bool
  /-- Whether nothing in the document is expanded. -/
  literal : Bool

/-- A name that gave way to another text. -/
structure Replacement where
  name : Octets
  /-- How much of the source was left behind the text. -/
  left : Nat
  endsBlank : Bool

structure Source where
  rest : Octets
  line : Nat
  /-- Names with the texts that take their place where a command may start. -/
  aliases : List (Octets × Octets)
  /-- The names whose texts are being read; they stand for themselves in these. -/
  replaced : List Replacement
  /-- A token that was read too far. -/
  ahead : Option Token
  announced : List Announcement
  documents : List (Nat × Word)
  /-- The number of the next document. -/
  next : Nat

/-- Why a text is no script. -/
inductive Misreading where
  | unexpected (found : Token) (wanted : Option String)
  | openQuotes
  | openBraces
  | openArithmetic
  | openBackquotes
  | loopVariable
  | functionName
  | descriptor

def Misreading.message : Misreading → String
  | .unexpected found none => found.name ++ " unexpected"
  | .unexpected found (some wanted) => found.name ++ " unexpected (expecting " ++ wanted ++ ")"
  | .openQuotes => "Unterminated quoted string"
  | .openBraces => "Missing '\x7d'"
  | .openArithmetic => "Missing '))'"
  | .openBackquotes => "EOF in backquote substitution"
  | .loopVariable => "Bad for loop variable"
  | .functionName => "Bad function name"
  | .descriptor => "Bad fd number"

/-- A misreading, and the line that reading had come to. -/
structure Misread where
  line : Nat
  reason : Misreading

/-- A part of reading, which takes something from the source or fails. -/
abbrev Reading := StateT Source (Except Misread)

namespace Source

def ofOctets (t : Octets) (next : Nat) : Source :=
  ⟨t, 1, [], [], none, [], [], next⟩

def fail {α : Type} (reason : Misreading) : Reading α := do
  throw ⟨(← get).line, reason⟩

/-- Takes text away and counts its lines. -/
def skip (count : Nat) : Reading Unit :=
  modify fun s =>
    { s with rest := s.rest.drop count, line := s.line + (s.rest.take count).count '\n' }

/-- Takes text away that counts for no lines. -/
def drop (count : Nat) : Reading Unit :=
  modify fun s => { s with rest := s.rest.drop count }

/-- The text without the line feeds at its start that a backslash takes away, and how many bytes
that were. -/
def unfolded : Octets → Octets × Nat
  | '\\' :: '\n' :: rest =>
    let (rest, n) := unfolded rest
    (rest, n + 2)
  | rest => (rest, 0)

/-- What is left, from the next byte that counts. -/
def peek : Reading Octets := do
  let (rest, n) := unfolded (← get).rest
  if 0 < n then skip n
  return rest

/-- Takes bytes as long as the test holds. -/
def takeWhile (test : Char → Bool) : Reading Octets := do
  let taken := (← get).rest.takeWhile test
  skip taken.length
  return taken

end Source

end ConnectorKit.Shell
