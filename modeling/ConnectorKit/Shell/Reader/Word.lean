import ConnectorKit.Shell.Source

/-!
Reading words. What a byte means depends on the place it stands at: bare in a word, in quotes, in
the braces of a parameter, in an arithmetic expression or in a document. How commands are read is a
parameter here, as their output can stand in any of these places.
-/

set_option autoImplicit false
set_option relaxedAutoImplicit false

namespace ConnectorKit.Shell.Reader

/-- Reading commands whose output stands in a word. -/
structure Nested where
  /-- Commands after an opening parenthesis, with the closing one. -/
  parenthesized : Reading Command
  /-- All commands of a source. -/
  whole : Reading Command

/-- What is around a dollar sign. -/
inductive Surroundings where
  | bare
  | quotes
  | document
  deriving DecidableEq, Repr

def Surroundings.isQuoted (g : Surroundings) : Bool :=
  g ≠ .bare

/-- Where pieces stand, and so where they end. -/
inductive Place where
  | word
  | quotes
  | braces (around : Surroundings)
  /-- In an arithmetic expression, with so many parentheses open. -/
  | arithmetic (depth : Nat)
  /-- In a document, with the line that ends it unless it ends with the source. -/
  | document (finish : Option Octets) (withoutTabs : Bool)

def Place.surroundings : Place → Surroundings
  | .word => .bare
  | .braces around => around
  | .document _ _ => .document
  | .quotes | .arithmetic _ => .quotes

def Place.isQuoted (p : Place) : Bool :=
  p.surroundings.isQuoted

/-- Whether a backslash between quotes keeps the byte after it as it is, and is not kept itself. -/
def Place.escapes (p : Place) (c : Char) : Bool :=
  c ∈ ['$', '`', '\\'] ||
    match p with
    | .document _ _ => false
    | .braces _ => c = '"' || c = '}'
    | _ => c = '"'

/-- Whether a bare word ends before the byte. -/
def endsWord (c : Char) : Bool :=
  c ∈ [' ', '\t', '\n', ';', '&', '|', '(', ')', '<', '>']

/-- Whether the byte is the name of a parameter. -/
def isSpecial (c : Char) : Bool :=
  c ∈ ['@', '*', '#', '?', '$', '!', '-'] || c.isDigit

/-- Puts a byte before the pieces, into the first one where that is such text. -/
def consChar (c : Char) (quoted : Bool) : Word → Word
  | .text t q :: rest =>
    if q = quoted then .text (c :: t) q :: rest else .text [c] quoted :: .text t q :: rest
  | rest => .text [c] quoted :: rest

/-- The end of the script at a place. -/
def atEnd : Place → Reading Word
  | .word | .document _ _ => return []
  | .quotes | .braces .quotes => Source.fail .openQuotes
  | .braces _ => Source.fail .openBraces
  | .arithmetic _ => Source.fail .openArithmetic

/-- Passes over the line that ends a document, if it comes next. -/
def takeFinish (finish : Option Octets) (withoutTabs : Bool) : Reading Bool := do
  if withoutTabs then
    discard <| Source.takeWhile (· = '\t')
  match finish with
  | none => return false
  | some finish =>
    let rest := (← get).rest
    if finish.isPrefixOf rest then
      match rest.drop finish.length with
      | [] | '\n' :: _ =>
        Source.skip (finish.length + 1)
        return true
      | _ => return false
    else return false

/-- The text between single quotes, up to the closing one. -/
def singleQuoted : Reading Octets := do
  let t ← Source.takeWhile (· ≠ '\'')
  if (← get).rest.isEmpty then Source.fail .openQuotes
  Source.skip 1
  return t

/-- The text up to the closing backquote, and how many bytes it took with it. -/
def backquoted (quoted : Bool) : Octets → Option (Octets × Nat)
  | [] => none
  | '`' :: _ => some ([], 1)
  | '\\' :: '\n' :: rest => do
    let (t, n) ← backquoted quoted rest
    return (t, n + 2)
  | '\\' :: c :: rest => do
    let (t, n) ← backquoted quoted rest
    let kept := c ∈ ['\\', '`', '$'] || (quoted && c = '"')
    return (if kept then c :: t else '\\' :: c :: t, n + 2)
  | c :: rest => do
    let (t, n) ← backquoted quoted rest
    return (c :: t, n + 1)

/-- The commands between backquotes; they are a source of their own. -/
def backquotedCommands (nested : Nested) (quoted : Bool) : Reading Command := do
  match backquoted quoted (← get).rest with
  | none =>
    Source.skip (← get).rest.length
    Source.fail .openBackquotes
  | some (t, n) =>
    Source.skip n
    let outer ← get
    set { Source.ofOctets t outer.next with
      aliases := outer.aliases
      documents := outer.documents }
    let body ← nested.whole
    let inner ← get
    set { outer with documents := inner.documents, next := inner.next }
    return body

/-- The parameter that braces name, and whether its length is asked for. -/
def parameterName : Reading (Option (Octets × Bool)) := do
  match (← get).rest with
  | '#' :: c :: rest =>
    if Octets.startsName c then
      Source.skip 1
      return some (← Source.takeWhile Octets.continuesName, true)
    else if c.isDigit then
      Source.skip 1
      return some (← Source.takeWhile Char.isDigit, true)
    else if c ≠ '}' && rest.head? = some '}' then
      Source.skip 2
      return if isSpecial c then some ([c], true) else none
    else
      Source.skip 1
      return some (['#'], false)
  | c :: _ =>
    if Octets.startsName c then return some (← Source.takeWhile Octets.continuesName, false)
    else if c.isDigit then return some (← Source.takeWhile Char.isDigit, false)
    else if c = '}' then return none
    else
      Source.drop 1
      return if isSpecial c then some ([c], false) else none
  | [] => return none

private def fallback? : Char → Option Fallback
  | '-' => some .substitute
  | '=' => some .assign
  | '?' => some .complain
  | '+' => some .alternative
  | _ => none

mutual

/-- The pieces from here to the end of the place. -/
def pieces (nested : Nested) : Nat → Place → Reading Word
  | 0, place => atEnd place
  | fuel + 1, place => do
    match (← get).rest with
    | [] => atEnd place
    | '\\' :: rest =>
      match rest with
      | [] =>
        Source.skip 1
        return consChar '\\' true (← pieces nested fuel place)
      | '\n' :: _ =>
        Source.skip 2
        pieces nested fuel place
      | c :: _ =>
        Source.skip 2
        let following := consChar c true (← pieces nested fuel place)
        return if place.isQuoted && !place.escapes c then consChar '\\' true following
          else following
    | '$' :: _ =>
      Source.skip 1
      match ← dollar nested fuel place.surroundings with
      | some piece => return piece :: (← pieces nested fuel place)
      | none => return consChar '$' place.isQuoted (← pieces nested fuel place)
    | '`' :: _ =>
      Source.skip 1
      let body ← backquotedCommands nested place.isQuoted
      return .output body place.isQuoted :: (← pieces nested fuel place)
    | c :: _ =>
      match place, c with
      | .quotes, '"' | .braces _, '}' =>
        Source.skip 1
        return []
      | .word, '\'' | .braces .bare, '\'' =>
        Source.skip 1
        let t ← singleQuoted
        return .quote :: .text t true :: .quote :: (← pieces nested fuel place)
      | .word, '"' | .braces .bare, '"' =>
        Source.skip 1
        match ← pieces nested fuel .quotes with
        | [.parameter ['@'] .whole true] =>
          return .parameter ['@'] .whole true :: (← pieces nested fuel place)
        | inner => return .quote :: inner ++ .quote :: (← pieces nested fuel place)
      | .braces _, '"' =>
        Source.skip 1
        let inner ← pieces nested fuel .quotes
        return inner ++ (← pieces nested fuel place)
      | .arithmetic depth, '(' =>
        Source.skip 1
        return consChar c true (← pieces nested fuel (.arithmetic (depth + 1)))
      | .arithmetic (depth + 1), ')' =>
        Source.skip 1
        return consChar c true (← pieces nested fuel (.arithmetic depth))
      | .arithmetic 0, ')' =>
        Source.skip 1
        match ← Source.peek with
        | ')' :: _ =>
          Source.skip 1
          return []
        | _ => return consChar c true (← pieces nested fuel place)
      | .document finish withoutTabs, '\n' =>
        Source.skip 1
        if ← takeFinish finish withoutTabs then return [.text [c] true]
        else return consChar c true (← pieces nested fuel place)
      | place, c =>
        if place matches .word && endsWord c then return []
        Source.skip 1
        return consChar c place.isQuoted (← pieces nested fuel place)

/-- The piece that a dollar sign starts; one before anything else is text. -/
def dollar (nested : Nested) : Nat → Surroundings → Reading (Option Piece)
  | 0, _ => return none
  | fuel + 1, around => do
    let quoted := around.isQuoted
    match ← Source.peek with
    | '(' :: _ =>
      Source.skip 1
      match ← Source.peek with
      | '(' :: _ =>
        Source.skip 1
        return some (.value (← pieces nested fuel (.arithmetic 0)) quoted)
      | _ => return some (.output (← nested.parenthesized) quoted)
    | '{' :: _ =>
      Source.skip 1
      match ← parameterName with
      | none => return some (.parameter [] (← unknown nested fuel around) quoted)
      | some (name, true) =>
        match (← get).rest with
        | '}' :: _ =>
          Source.skip 1
          return some (.parameter name .length quoted)
        | _ => return some (.parameter name (← unknown nested fuel around) quoted)
      | some (name, false) => return some (.parameter name (← use nested fuel around) quoted)
    | c :: _ =>
      if Octets.startsName c then
        return some (.parameter (← Source.takeWhile Octets.continuesName) .whole quoted)
      else if isSpecial c then
        Source.skip 1
        return some (.parameter [c] .whole quoted)
      else return none
    | [] => return none

/-- What follows the name of a parameter in braces, up to the closing one. -/
def use (nested : Nested) : Nat → Surroundings → Reading Use
  | 0, _ => return .unknown
  | fuel + 1, around => do
    match ← Source.peek with
    | '}' :: _ =>
      Source.skip 1
      return .whole
    | ':' :: '}' :: _ =>
      Source.skip 2
      return .followed (← pieces nested fuel (.braces around))
    | ':' :: c :: _ =>
      Source.drop 2
      match fallback? c with
      | some kind => return .fallback kind true (← pieces nested fuel (.braces around))
      | none => unknown nested fuel around
    | '%' :: '%' :: _ =>
      Source.skip 2
      return .trimmed true true (← pieces nested fuel (.braces .bare))
    | '%' :: _ =>
      Source.skip 1
      return .trimmed true false (← pieces nested fuel (.braces .bare))
    | '#' :: '#' :: _ =>
      Source.skip 2
      return .trimmed false true (← pieces nested fuel (.braces .bare))
    | '#' :: _ =>
      Source.skip 1
      return .trimmed false false (← pieces nested fuel (.braces .bare))
    | c :: _ =>
      Source.drop 1
      match fallback? c with
      | some kind => return .fallback kind false (← pieces nested fuel (.braces around))
      | none => unknown nested fuel around
    | [] => unknown nested fuel around

/-- Passes over braces that name nothing that is known. -/
def unknown (nested : Nested) : Nat → Surroundings → Reading Use
  | 0, _ => return .unknown
  | fuel + 1, around => do
    discard <| pieces nested fuel (.braces around)
    return .unknown

end

/-- The pieces from here to the end of the place; as each step takes a byte, there is fuel
enough. -/
def readPieces (nested : Nested) (place : Place) : Reading Word := do
  pieces nested (4 * (← get).rest.length + 4) place

/-- The line that ends a document, told by a word in which nothing is expanded, and whether any of
it is quoted. -/
def readFinish : Reading (Octets × Bool) := do
  bare (2 * (← get).rest.length + 2)
where
  bare : Nat → Reading (Octets × Bool)
    | 0 => return ([], false)
    | fuel + 1 => do
      match (← get).rest with
      | [] => return ([], false)
      | '\\' :: '\n' :: _ =>
        Source.skip 2
        bare fuel
      | '\\' :: c :: _ =>
        Source.skip 2
        return (c :: (← bare fuel).1, true)
      | '\'' :: _ =>
        Source.skip 1
        let t ← singleQuoted
        return (t ++ (← bare fuel).1, true)
      | '"' :: _ =>
        Source.skip 1
        let t ← quoted fuel
        return (t ++ (← bare fuel).1, true)
      | c :: _ =>
        if endsWord c then return ([], false)
        Source.skip 1
        let (t, isQuoted) ← bare fuel
        return (c :: t, isQuoted)
  quoted : Nat → Reading Octets
    | 0 => return []
    | fuel + 1 => do
      match (← get).rest with
      | [] => Source.fail .openQuotes
      | '"' :: _ =>
        Source.skip 1
        return []
      | '\\' :: '\n' :: _ =>
        Source.skip 2
        quoted fuel
      | '\\' :: c :: _ =>
        Source.skip 2
        let t ← quoted fuel
        return if Place.quotes.escapes c then c :: t else '\\' :: c :: t
      | c :: _ =>
        Source.skip 1
        return c :: (← quoted fuel)

/-- The lines of a document that is not expanded. -/
def literalLines (finish : Octets) (withoutTabs : Bool) : Nat → Reading Octets
  | 0 => return []
  | fuel + 1 => do
    if (← get).rest.isEmpty || (← takeFinish (some finish) withoutTabs) then return []
    let line ← Source.takeWhile (· ≠ '\n')
    if (← get).rest.isEmpty then return line
    Source.skip 1
    return line ++ '\n' :: (← literalLines finish withoutTabs fuel)

/-- Reads the document that was announced. -/
def document (nested : Nested) (a : Announcement) : Reading Word := do
  if a.literal then
    return [.text (← literalLines a.finish a.withoutTabs ((← get).rest.length + 1)) true]
  else if ← takeFinish (some a.finish) a.withoutTabs then return []
  else readPieces nested (.document (some a.finish) a.withoutTabs)

/-- Reads the documents that were announced on the line before. -/
def documents (nested : Nested) : Reading Unit := do
  let announced := (← get).announced
  modify fun s => { s with announced := [] }
  for a in announced do
    let word ← document nested a
    modify fun s => { s with documents := (a.number, word) :: s.documents }

end ConnectorKit.Shell.Reader
