import ConnectorKit.Shell.Octets

/-!
Commands of the shell and the words they are made of. A word is kept in pieces, because quotes
decide how each is expanded; and as the output of commands can stand in words, words and commands
are one family.
-/

set_option autoImplicit false
set_option relaxedAutoImplicit false

namespace ConnectorKit.Shell

/-- What is done with a parameter that is not set. -/
inductive Fallback where
  | substitute
  | assign
  | complain
  /-- The word stands for a parameter that is set. -/
  | alternative
  deriving DecidableEq, Repr

/-- How a file is opened. -/
inductive Mode where
  | read
  | write
  | overwrite
  | append
  | readWrite
  deriving DecidableEq, Repr

mutual

inductive Piece where
  | text (t : Octets) (quoted : Bool)
  /-- A quote: the field is there, even if nothing else is. -/
  | quote
  | parameter (name : Octets) (use : Use) (quoted : Bool)
  /-- The output of commands. -/
  | output (body : Command) (quoted : Bool)
  /-- The value of an arithmetic expression. -/
  | value (expression : List Piece) (quoted : Bool)

/-- What of a parameter is used. -/
inductive Use where
  | whole
  /-- All of it, and a word after it. -/
  | followed (word : List Piece)
  | length
  | fallback (kind : Fallback) (ifEmpty : Bool) (word : List Piece)
  /-- What is left when the start or the end that a pattern covers is taken away. -/
  | trimmed (atEnd longest : Bool) (pattern : List Piece)
  | unknown

inductive Redirection where
  | file (descriptor : Nat) (mode : Mode) (path : List Piece)
  /-- The same file as another descriptor, or none after a dash. -/
  | copy (descriptor : Nat) (source : List Piece)
  /-- A document of the script, by its number. -/
  | document (descriptor number : Nat)

inductive Command where
  | simple (line : Nat) (assignments : List (Octets × List Piece)) (words : List (List Piece))
      (redirections : List Redirection)
  | sequence (items : List Command)
  | background (body : Command)
  | both (first second : Command)
  | either (first second : Command)
  | negation (body : Command)
  | pipe (stages : List Command)
  | choice (line : Nat) (subject : List Piece) (branches : List (List (List Piece) × Command))
  /-- Without words, each parameter takes its turn. -/
  | forEach (line : Nat) (name : Octets) (words : Option (List (List Piece))) (body : Command)
  | branch (test yes no : Command)
  | loop (whileTrue : Bool) (test body : Command)
  | define (name : Octets) (body : Command)
  | subshell (line : Nat) (body : Command) (redirections : List Redirection)
  | redirected (line : Nat) (body : Command) (redirections : List Redirection)

end

abbrev Word := List Piece

instance : Inhabited Command := ⟨.sequence []⟩

end ConnectorKit.Shell
