import ConnectorKit.Shell.Command

/-!
Tokens of a script, and how messages name them.
-/

set_option autoImplicit false
set_option relaxedAutoImplicit false

namespace ConnectorKit.Shell

/-- The operators that are no redirections. -/
inductive Mark where
  | lineEnd
  | semicolon
  | ampersand
  | both
  | either
  | bar
  | opening
  | closing
  | doubleSemicolon
  deriving DecidableEq, Repr

/-- The words that structure a script. -/
inductive Keyword where
  | bang
  | case
  | do_
  | done
  | elif
  | else_
  | esac
  | fi
  | for_
  | if_
  | in_
  | then_
  | until_
  | while_
  | openBrace
  | closeBrace
  deriving DecidableEq, Repr

/-- What a redirection operator opens its descriptor on. -/
inductive Opening where
  | file (mode : Mode)
  | copy
  | document (withoutTabs : Bool)
  deriving DecidableEq, Repr

inductive Token where
  | ending
  | mark (m : Mark)
  | redirection (descriptor : Nat) (opening : Opening)
  /-- A word, and whether any of it is quoted. -/
  | word (w : Word) (quoted : Bool)
  | keyword (k : Keyword)

def Mark.name : Mark → String
  | .lineEnd => "newline"
  | .semicolon => "\";\""
  | .ampersand => "\"&\""
  | .both => "\"&&\""
  | .either => "\"||\""
  | .bar => "\"|\""
  | .opening => "\"(\""
  | .closing => "\")\""
  | .doubleSemicolon => "\";;\""

def Keyword.text : Keyword → String
  | .bang => "!"
  | .case => "case"
  | .do_ => "do"
  | .done => "done"
  | .elif => "elif"
  | .else_ => "else"
  | .esac => "esac"
  | .fi => "fi"
  | .for_ => "for"
  | .if_ => "if"
  | .in_ => "in"
  | .then_ => "then"
  | .until_ => "until"
  | .while_ => "while"
  | .openBrace => "\x7b"
  | .closeBrace => "\x7d"

namespace Keyword

def all : List Keyword :=
  [.bang, .case, .do_, .done, .elif, .else_, .esac, .fi, .for_, .if_, .in_, .then_, .until_,
   .while_, .openBrace, .closeBrace]

def ofText? (t : Octets) : Option Keyword :=
  all.find? fun k => k.text.toList = t

end Keyword

/-- The special built-in commands: no function has the name of one, and a fault in one of them ends
the shell. -/
def specialCommands : List String :=
  [".", ":", "break", "continue", "eval", "exec", "exit", "export", "local", "readonly", "return",
   "set", "shift", "times", "trap", "unset"]

namespace Token

/-- The name of a token in messages. -/
def name : Token → String
  | .ending => "end of file"
  | .mark m => m.name
  | .redirection _ _ => "redirection"
  | .word _ _ => "word"
  | .keyword k => "\"" ++ k.text ++ "\""

/-- The text of a word that is neither quoted nor to be expanded. -/
def plain? : Token → Option Octets
  | .word [.text t false] false => some t
  | _ => none

/-- The keyword that the token is where keywords are looked for. -/
def resolved (t : Token) : Token :=
  match (plain? t).bind Keyword.ofText? with
  | some k => .keyword k
  | none => t

def isMark (m : Mark) : Token → Bool
  | .mark n => n = m
  | _ => false

def isKeyword (k : Keyword) : Token → Bool
  | .keyword l => l = k
  | _ => false

/-- Whether a list of commands comes to its end before the token. -/
def endsList : Token → Bool
  | .ending | .mark .closing | .mark .doubleSemicolon => true
  | .keyword k =>
    k ∈ [Keyword.do_, .done, .elif, .else_, .esac, .fi, .then_, .closeBrace]
  | _ => false

end Token

end ConnectorKit.Shell
