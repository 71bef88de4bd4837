import ConnectorKit.Shell.Reader.Word

/-!
Reading commands. A script is read line by line, each complete command before it is run; the words
that structure a script count as such only where a command may start.
-/

set_option autoImplicit false
set_option relaxedAutoImplicit false

namespace ConnectorKit.Shell.Reader

/-- How many bytes of blanks and comments stand before a token. -/
def blankLength : Octets → Nat
  | ' ' :: rest | '\t' :: rest => blankLength rest + 1
  | '\\' :: '\n' :: rest => blankLength rest + 2
  | '#' :: rest => (rest.takeWhile (· ≠ '\n')).length + 1
  | _ => 0

/-- What a redirection does, told from the text after its angle bracket, and the length of its
operator. -/
def opening (reads : Bool) (rest : Octets) : Opening × Nat :=
  match reads, rest with
  | true, '<' :: '-' :: _ => (.document true, 3)
  | true, '<' :: _ => (.document false, 2)
  | true, '&' :: _ => (.copy, 2)
  | true, '>' :: _ => (.file .readWrite, 2)
  | true, _ => (.file .read, 1)
  | false, '>' :: _ => (.file .append, 2)
  | false, '|' :: _ => (.file .overwrite, 2)
  | false, '&' :: _ => (.copy, 2)
  | false, _ => (.file .write, 1)

/-- Whether a word stands at the start of a text. -/
def startsWord : Octets → Bool
  | [] => false
  | [c] => !endsWord c
  | c :: d :: _ => !endsWord c && !(c.isDigit && (d = '<' || d = '>'))

private def redirection (descriptor : Option Nat) (reads : Bool) (rest : Octets) :
    Reading Token := do
  let (o, n) := opening reads rest
  Source.skip (n + if descriptor.isSome then 1 else 0)
  return .redirection (descriptor.getD (if reads then 0 else 1)) o

private def isQuoted : Piece → Bool
  | .quote | .text _ true => true
  | _ => false

private def take (m : Mark) : Reading Token := do
  Source.skip 1
  return .mark m

/-- A mark that is another one when it stands twice. -/
private def takeTwice (c : Char) (single double : Mark) : Reading Token := do
  Source.skip 1
  match ← Source.peek with
  | d :: _ =>
    if d = c then take double else return .mark single
  | [] => return .mark single

/-- The next token of the text. -/
def readToken (nested : Nested) : Reading Token := do
  Source.skip (blankLength (← get).rest)
  match (← get).rest with
  | [] => return .ending
  | '\n' :: _ => take .lineEnd
  | '&' :: _ => takeTwice '&' .ampersand .both
  | '|' :: _ => takeTwice '|' .bar .either
  | ';' :: _ => takeTwice ';' .semicolon .doubleSemicolon
  | '(' :: _ => take .opening
  | ')' :: _ => take .closing
  | '<' :: rest => redirection none true rest
  | '>' :: rest => redirection none false rest
  | text =>
    match text, startsWord text with
    | c :: d :: rest, false => redirection (some (c.toNat - 48)) (d = '<') rest
    | _, _ => word
where
  word : Reading Token := do
    let w ← readPieces nested .word
    return .word w (w.any isQuoted)

def putBack (t : Token) : Reading Unit :=
  modify fun s => { s with ahead := some t }

/-- The token that was put back, or the next one. -/
def anyToken (nested : Nested) : Reading Token := do
  match (← get).ahead with
  | some t =>
    modify fun s => { s with ahead := none }
    return t
  | none => readToken nested

/-- The next token that is no end of a line. -/
def tokenAfterLines (nested : Nested) : Nat → Reading Token
  | 0 => return .ending
  | fuel + 1 => do
    let t ← anyToken nested
    if t.isMark .lineEnd then
      documents nested
      tokenAfterLines nested fuel
    else return t

private def endsBlank (t : Octets) : Bool :=
  match t.getLast? with
  | some c => c = ' ' || c = '\t'
  | none => false

/-- The text that takes the place of a word. A name stands for itself in its own text, and after a
text that ends in a blank the next word is looked at, too; `before` is how much was left before
the word. -/
def replacement? (s : Source) (wanted : Bool) (before : Nat) (t : Token) :
    Option (Octets × Octets) := do
  let name ← t.plain?
  let after := s.rest.length
  let crossed := s.replaced.any fun r => r.endsBlank && r.left < before && after ≤ r.left
  if !(wanted || crossed) || s.replaced.any (fun r => r.name = name && r.left ≤ after) then none
  else return (name, ← s.aliases.lookup name)

/-- The next token. Ends of lines are passed over, keywords are looked for, and names give way to
other texts where asked. -/
def tokenWith (nested : Nested) (afterLines keywords replaces : Bool) : Nat → Reading Token
  | 0 => return .ending
  | fuel + 1 => do
    let before := (← get).rest.length
    let t ← if afterLines then tokenAfterLines nested (before + 2) else anyToken nested
    let t := if keywords then t.resolved else t
    let s ← get
    match replacement? s replaces before t with
    | none => return t
    | some (name, text) =>
      let left := s.rest.length
      set { s with
        rest := text ++ s.rest
        replaced := ⟨name, left, endsBlank text⟩ :: s.replaced.filter (·.left ≤ left) }
      tokenWith nested afterLines keywords true fuel

/-- How many names may give way one after the other before a token. -/
def replacementLimit : Nat := 10000

/-- The next token; where keywords are looked for, a command may start. -/
def next (nested : Nested) (afterLines keywords : Bool) : Reading Token :=
  tokenWith nested afterLines keywords keywords replacementLimit

/-- The next token in a place for patterns. -/
def nextPattern (nested : Nested) : Reading Token :=
  tokenWith nested true true false replacementLimit

def unexpected {α : Type} (found : Token) : Reading α :=
  Source.fail (.unexpected found none)

/-- Fails unless the token is the one that is wanted. -/
def expect (found : Token) (fits : Bool) (wanted : String) : Reading Unit :=
  if fits then return () else Source.fail (.unexpected found (some wanted))

def expectMark (m : Mark) (found : Token) : Reading Unit :=
  expect found (found.isMark m) m.name

def expectKeyword (k : Keyword) (found : Token) : Reading Unit :=
  expect found (found.isKeyword k) (Token.keyword k).name

/-- A word as an assignment, if it has the form of one. -/
def assignment? : Word → Option (Octets × Word)
  | .text t false :: rest =>
    match Octets.assignment? t with
    | some (name, value) =>
      if Octets.isName name then
        some (name, if value.isEmpty then rest else .text value false :: rest)
      else none
    | none => none
  | _ => none

/-- The redirection that an operator and the word after it make. -/
def readRedirection (nested : Nested) (descriptor : Nat) (o : Opening) :
    Reading Redirection := do
  match o with
  | .file mode => return .file descriptor mode (← word)
  | .copy => return .copy descriptor (← word)
  | .document withoutTabs =>
    Source.skip (blankLength (← get).rest)
    if !startsWord (← get).rest then unexpected (← next nested false false)
    let (finish, literal) ← readFinish
    let number := (← get).next
    modify fun s => { s with
      next := number + 1
      announced := s.announced ++ [⟨number, finish, withoutTabs, literal⟩] }
    return .document descriptor number
where
  word : Reading Word := do
    match ← next nested false false with
    | .word w _ => return w
    | t => unexpected t

/-- The redirections after a compound command. A keyword may follow the command, but not one of
its redirections. -/
def redirections (nested : Nested) (keywords : Bool) : Nat → Reading (List Redirection)
  | 0 => return []
  | fuel + 1 => do
    match ← next nested false keywords with
    | .redirection descriptor o =>
      let r ← readRedirection nested descriptor o
      return r :: (← redirections nested false fuel)
    | t =>
      putBack t
      return []

/-- The parts of a simple command that were read so far, last first. -/
structure Simple where
  assignments : List (Octets × Word)
  words : List Word
  redirections : List Redirection

/-- The words of a loop, up to the end of their line. -/
def loopWords (nested : Nested) : Nat → Reading (List Word)
  | 0 => return []
  | fuel + 1 => do
    match ← next nested false false with
    | .word w _ => return w :: (← loopWords nested fuel)
    | .mark .lineEnd | .mark .semicolon => return []
    | t => unexpected t

/-- A token as a pattern of a choice. -/
private def patternOf : Token → Word
  | .word w _ => w
  | .keyword k => [.text k.text.toList false]
  | _ => []

/-- The other patterns of a branch, up to the closing parenthesis. -/
def morePatterns (nested : Nested) : Nat → Reading (List Word)
  | 0 => return []
  | fuel + 1 => do
    let t ← next nested false false
    if t.isMark .bar then
      let p := patternOf (← next nested false false)
      return p :: (← morePatterns nested fuel)
    else
      expectMark .closing t
      return []

private def step : Reading Nat := do
  return (← get).rest.length + 2

mutual

/-- The commands up to a token that ends a list, which is put back. A list that is needed may not
be empty. -/
def list : Nat → Bool → Reading (List Command)
  | 0, _ => unexpected .ending
  | fuel + 1, needed => do
    let t ← next (nested fuel) true true
    putBack t
    match t with
    | .ending =>
      documents (nested fuel)
      return []
    | t =>
      if !needed && t.endsList then return []
      let c ← andOr fuel
      let t ← next (nested fuel) false false
      match t with
      | .mark .ampersand => return .background c :: (← list fuel false)
      | .mark .semicolon => return c :: (← list fuel false)
      | .mark .lineEnd =>
        putBack t
        return c :: (← list fuel false)
      | t =>
        putBack t
        return [c]

/-- The commands of one line, up to its end. -/
def line : Nat → Reading (List Command)
  | 0 => unexpected .ending
  | fuel + 1 => do
    match ← next (nested fuel) false true with
    | .mark .lineEnd =>
      documents (nested fuel)
      return []
    | .ending =>
      documents (nested fuel)
      putBack .ending
      return []
    | t =>
      putBack t
      let c ← andOr fuel
      let t ← next (nested fuel) false false
      match t with
      | .mark .ampersand => return .background c :: (← line fuel)
      | .mark .semicolon => return c :: (← line fuel)
      | .mark .lineEnd | .ending =>
        putBack t
        return c :: (← line fuel)
      | t => unexpected t

def nested : Nat → Nested
  | 0 => ⟨unexpected .ending, unexpected .ending⟩
  | fuel + 1 => ⟨parenthesized fuel, whole fuel⟩

/-- Commands in parentheses after a dollar sign; the documents in them are their own. One whose
lines have not come before the closing parenthesis is empty. -/
def parenthesized : Nat → Reading Command
  | 0 => unexpected .ending
  | fuel + 1 => do
    let announced := (← get).announced
    modify fun s => { s with announced := [] }
    let body ← list fuel false
    expectMark .closing (← next (nested fuel) false false)
    modify fun s => { s with
      announced := announced
      documents := s.announced.map (fun a => (a.number, [])) ++ s.documents }
    return .sequence body

/-- All commands of a source. -/
def whole : Nat → Reading Command
  | 0 => unexpected .ending
  | fuel + 1 => do
    let body ← list fuel false
    documents (nested fuel)
    return .sequence body

def andOr : Nat → Reading Command
  | 0 => unexpected .ending
  | fuel + 1 => do chain fuel (← pipeline fuel)

/-- The pipelines joined to the first one. -/
def chain : Nat → Command → Reading Command
  | 0, c => return c
  | fuel + 1, c => do
    let t ← next (nested fuel) false false
    if t.isMark .both then chain fuel (.both c (← pipeline fuel))
    else if t.isMark .either then chain fuel (.either c (← pipeline fuel))
    else
      putBack t
      return c

def pipeline : Nat → Reading Command
  | 0 => unexpected .ending
  | fuel + 1 => do
    let t ← next (nested fuel) true true
    if t.isKeyword .bang then
      return .negation (← stages fuel (← command fuel false))
    else
      putBack t
      stages fuel (← command fuel false)

/-- A command with the commands that it is piped into. -/
def stages : Nat → Command → Reading Command
  | 0, first => return first
  | fuel + 1, first => do
    match ← moreStages fuel with
    | [] => return first
    | rest => return .pipe (first :: rest)

def moreStages : Nat → Reading (List Command)
  | 0 => return []
  | fuel + 1 => do
    let t ← next (nested fuel) false false
    if t.isMark .bar then
      let c ← command fuel true
      return c :: (← moreStages fuel)
    else
      putBack t
      return []

def command : Nat → Bool → Reading Command
  | 0, _ => unexpected .ending
  | fuel + 1, afterLines => do
    let line := (← get).line
    let t ← next (nested fuel) afterLines true
    match t with
    | .keyword .if_ => compound fuel line (← branch fuel) (.keyword .fi)
    | .keyword .while_ => compound fuel line (← loop fuel true) (.keyword .done)
    | .keyword .until_ => compound fuel line (← loop fuel false) (.keyword .done)
    | .keyword .for_ => compound fuel line (← forEach fuel line) (.keyword .done)
    | .keyword .case => finish fuel line (← choice fuel line)
    | .keyword .openBrace =>
      compound fuel line (.sequence (← list fuel true)) (.keyword .closeBrace)
    | .mark .opening =>
      let body ← list fuel true
      expectMark .closing (← next (nested fuel) false false)
      return .subshell line (.sequence body) (← redirections (nested fuel) true (← step))
    | .word _ _ | .redirection _ _ =>
      putBack t
      simple fuel (← get).line ⟨[], [], []⟩
    | t => unexpected t

/-- The end of a compound command, and its redirections. -/
def compound : Nat → Nat → Command → Token → Reading Command
  | 0, _, body, _ => return body
  | fuel + 1, line, body, last => do
    let t ← next (nested fuel) false false
    match last, t with
    | .keyword k, t => expectKeyword k t
    | _, t => unexpected t
    finish fuel line body

def finish : Nat → Nat → Command → Reading Command
  | 0, _, body => return body
  | fuel + 1, line, body => do
    match ← redirections (nested fuel) true (← step) with
    | [] => return body
    | rs => return .redirected line body rs

def simple : Nat → Nat → Simple → Reading Command
  | 0, line, s => return .simple line s.assignments.reverse s.words.reverse s.redirections.reverse
  | fuel + 1, line, s => do
    let t ← tokenWith (nested fuel) false false s.words.isEmpty replacementLimit
    match t with
    | .word w _ =>
      match s.words, assignment? w with
      | [], some a => simple fuel line { s with assignments := a :: s.assignments }
      | _, _ => simple fuel line { s with words := w :: s.words }
    | .redirection descriptor o =>
      let r ← readRedirection (nested fuel) descriptor o
      simple fuel line { s with redirections := r :: s.redirections }
    | t =>
      match t, s with
      | .mark .opening, ⟨[], [w], []⟩ =>
        expectMark .closing (← next (nested fuel) false false)
        match Token.plain? (.word w false) with
        | some name =>
          if !Octets.isName name || specialCommands.contains (String.ofList name) then
            Source.fail .functionName
          return .define name (← command fuel true)
        | none => Source.fail .functionName
      | t, s =>
        putBack t
        return .simple line s.assignments.reverse s.words.reverse s.redirections.reverse

/-- A condition with what depends on it, up to the word that ends it. -/
def branch : Nat → Reading Command
  | 0 => unexpected .ending
  | fuel + 1 => do
    let test ← list fuel true
    expectKeyword .then_ (← next (nested fuel) false false)
    let yes ← list fuel true
    let t ← next (nested fuel) false false
    let no ←
      if t.isKeyword .elif then pure [← branch fuel]
      else if t.isKeyword .else_ then list fuel true
      else
        putBack t
        pure []
    return .branch (.sequence test) (.sequence yes) (.sequence no)

def loop : Nat → Bool → Reading Command
  | 0, _ => unexpected .ending
  | fuel + 1, whileTrue => do
    let test ← list fuel true
    expectKeyword .do_ (← next (nested fuel) false false)
    return .loop whileTrue (.sequence test) (.sequence (← list fuel true))

def forEach : Nat → Nat → Reading Command
  | 0, _ => unexpected .ending
  | fuel + 1, line => do
    match Token.plain? (← next (nested fuel) false false) with
    | none => Source.fail .loopVariable
    | some name =>
      if !Octets.isName name then Source.fail .loopVariable
      let t ← next (nested fuel) true true
      let words ←
        if t.isKeyword .in_ then pure (some (← loopWords (nested fuel) (← step)))
        else
          if !t.isMark .semicolon then putBack t
          pure none
      expectKeyword .do_ (← next (nested fuel) true true)
      return .forEach line name words (.sequence (← list fuel true))

def choice : Nat → Nat → Reading Command
  | 0, _ => unexpected .ending
  | fuel + 1, line => do
    match ← next (nested fuel) false false with
    | .word subject _ =>
      expectKeyword .in_ (← next (nested fuel) true true)
      return .choice line subject (← branches fuel)
    | t => Source.fail (.unexpected t (some "word"))

/-- The branches of a choice, with the word that ends it. -/
def branches : Nat → Reading (List (List Word × Command))
  | 0 => unexpected .ending
  | fuel + 1 => do
    let t ← nextPattern (nested fuel)
    if t.isKeyword .esac then return []
    let first ← if t.isMark .opening then next (nested fuel) false false else pure t
    let patterns := patternOf first :: (← morePatterns (nested fuel) (← step))
    let body ← list fuel false
    let t ← nextPattern (nested fuel)
    if t.isKeyword .esac then return [(patterns, .sequence body)]
    expectMark .doubleSemicolon t
    return (patterns, .sequence body) :: (← branches fuel)

end

/-- A text read like a document that ends with it. -/
def quotedText (t : Octets) (next : Nat) : Except Misread (Word × Source) :=
  (readPieces (nested (16 * t.length + 64)) (.document none false)).run (Source.ofOctets t next)

/-- The commands of the next line, or none at the end of the script. -/
def nextLine : Reading (Option Command) := do
  let fuel := 16 * (← get).rest.length + 64
  match (← get).rest, (← get).ahead with
  | [], none | _, some .ending => return none
  | _, _ =>
    let commands ← line fuel
    return some (.sequence commands)

end ConnectorKit.Shell.Reader
