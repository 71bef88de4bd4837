import ConnectorKit.Shell.Arithmetic
import ConnectorKit.Shell.Field
import ConnectorKit.Shell.Paths
import ConnectorKit.Shell.State

/-!
Expansion of words. Parameters, the output of commands and the values of expressions take the place
of the pieces that ask for them; then fields are cut, and patterns give way to the paths that they
cover. How commands are run is a parameter here.
-/

set_option autoImplicit false
set_option relaxedAutoImplicit false

namespace ConnectorKit.Shell

open Arithmetic (Expression)

/-- The value of an expression. What is wrong with its text is met when the parts before that are
worked out, and in parts that do not count, too. -/
def evaluate (text : Octets) : Expression → Run Int64
  | .number n => return n
  | .named name => read name
  | .negative e => return -(← evaluate text e)
  | .complement e => return ~~~(← evaluate text e)
  | .zero e => return if (← evaluate text e) = 0 then 1 else 0
  | .operation o left right => do
    let a ← evaluate text left
    let b ← evaluate text right
    apply o a b
  | .both left right => do
    if (← evaluate text left) = 0 then
      pass right
      return 0
    else return if (← evaluate text right) = 0 then 0 else 1
  | .either left right => do
    if (← evaluate text left) ≠ 0 then
      pass right
      return 1
    else return if (← evaluate text right) = 0 then 0 else 1
  | .choice test yes no => do
    if (← evaluate text test) ≠ 0 then
      let value ← evaluate text yes
      pass no
      return value
    else
      pass yes
      evaluate text no
  | .assignment name o e => do
    let b ← evaluate text e
    let value ← match o with
      | some o => do apply o (← read name) b
      | none => pure b
    assign name (Octets.ofInt value.toInt)
    return value
  | .faulty e f => do
    discard <| evaluate text e
    fault (f.message text)
where
  read (name : Octets) : Run Int64 := do
    let t := ((← get).value? name).getD []
    match Number.ofValue? t with
    | some n => return .ofInt n
    | none => fault ("Illegal number: ".toList ++ t)
  apply (o : Arithmetic.Operator) (a b : Int64) : Run Int64 :=
    match o.apply a b with
    | .ok value => return value
    | .error f => fault (f.message text)
  pass (e : Expression) : Run Unit :=
    match e.fault? with
    | some f => fault (f.message text)
    | none => return ()

/-- The value of the expression that a text is. -/
def arithmetic (text : Octets) : Run Octets := do
  return Octets.ofInt (← evaluate text (Expression.ofText text)).toInt

/-- How a word is expanded. -/
structure Manner where
  /-- Whether it is cut into fields. -/
  full : Bool
  /-- Whether its own text is cut, too, as that of a word in the stead of a parameter. -/
  loose : Bool

/-- The parameters in one text, between them the first separator. -/
def joinedParameters (s : State) : Octets :=
  let between : Octets := match s.value? "IFS".toList with
    | none => [' ']
    | some separators => separators.take 1
  between.intercalate s.parameters

/-- The atoms of a value. -/
def valueAtoms (quoted : Bool) (t : Octets) : List Atom :=
  Atom.ofOctets (if quoted then .quoted else .value) t

/-- The atoms of a parameter, if it is set. All parameters keep their borders where they become
fields of their own. -/
def parameterAtoms? (s : State) (full quoted : Bool) (name : Octets) : Option (List Atom) :=
  if name = ['@'] ∨ name = ['*'] then
    if full && (if quoted then name = ['@'] else (s.value? "IFS".toList).isSome) then
      some ((s.parameters.map (valueAtoms quoted)).intersperse [.cut]).flatten
    else some (valueAtoms quoted (joinedParameters s))
  else (s.parameter? name).map (valueAtoms quoted)

/-- The part that is a value. -/
def valuePart (quoted : Bool) (t : Octets) : Part :=
  ⟨if quoted then .nowhere else .atSeparators, valueAtoms quoted t⟩

/-- The part that a parameter gives. -/
def parameterPart (s : State) (name : Octets) (quoted : Bool) (atoms : List Atom) : Part :=
  ⟨if !quoted then .atSeparators
    else if name = ['@'] && !s.parameters.isEmpty then .atBorders
    else .nowhere, atoms⟩

/-- The parts of a value that is worked out apart. -/
def cutAnew (part : Part) : List Part :=
  [⟨.anew, []⟩, part]

/-- The directory that a tilde with a name stands for. -/
def homeOf? (s : State) (name : Octets) : Option Octets :=
  if name.isEmpty then s.value? "HOME".toList
  else if name = "root".toList then some "/root".toList
  else none

/-- The atoms of bare text. With a tilde at its start it can name a home directory; `ended` tells
that nothing follows the text, and `inList` that a colon ends a name and lets another start. -/
def textAtoms (s : State) (origin : Origin) (inList ended : Bool) : Bool → Octets → List Atom
  | _, [] => []
  | atStart, c :: rest =>
    if c = '~' && atStart then
      let isEnd (c : Char) : Bool := c = '/' || (inList && c = ':')
      let name := rest.takeWhile fun c => !isEnd c
      match homeOf? s name with
      | some home =>
        if ended || (rest.any isEnd) then
          Atom.ofOctets .quoted home ++
            textAtoms s origin inList ended false (rest.drop name.length)
        else .char c origin :: textAtoms s origin inList ended false rest
      | none => .char c origin :: textAtoms s origin inList ended false rest
    else .char c origin :: textAtoms s origin inList ended (inList && c = ':') rest
termination_by _ t => t.length
decreasing_by all_goals (simp only [List.length_cons, List.length_drop]; omega)

/-- What a parameter that is not set, or one that is empty, makes the shell say. -/
def notSet {α : Type} (name : Octets) (message : Option Octets) (orNull : Bool) : Run α :=
  let words := message.getD ("parameter not set" ++ if orNull then " or null" else "").toList
  fault (name ++ ": ".toList ++ words)

/-- What all of a parameter gives. -/
def wholeParts (m : Manner) (name : Octets) (quoted : Bool) : Run (List Part) := do
  let s ← get
  match parameterAtoms? s m.full quoted name with
  | some atoms => return [parameterPart s name quoted atoms]
  | none => if s.has 'u' then notSet name none false else return []

mutual

/-- What a piece gives; `atStart` and `ended` tell whether a tilde may stand at its start, and that
no piece follows. -/
def pieceParts (capture : Command → Run Octets) (m : Manner) (inList atStart ended : Bool) :
    Piece → Run (List Part)
  | .text t true => return [⟨.nowhere, Atom.ofOctets .quoted t⟩]
  | .text t false => do
    let (cutting, origin) : Cutting × Origin :=
      if m.loose then (.atSeparators, .value) else (.nowhere, .script)
    return [⟨cutting, textAtoms (← get) origin inList ended atStart t⟩]
  | .quote => return [⟨.nowhere, [.quote]⟩]
  | .output body quoted => return [valuePart quoted (← capture body)]
  | .value expression quoted => do
    let parts ← wordParts capture ⟨false, false⟩ false false expression
    return cutAnew (valuePart quoted (← arithmetic (Atom.text (Part.all parts))))
  | .parameter name use quoted => useParts capture m name quoted use

/-- What the pieces of a word give. -/
def wordParts (capture : Command → Run Octets) (m : Manner) (inList atStart : Bool) :
    List Piece → Run (List Part)
  | [] => return []
  | p :: rest => do
    let first ← pieceParts capture m inList atStart rest.isEmpty p
    return first ++ (← wordParts capture m inList false rest)

/-- What a parameter gives as it is used. -/
def useParts (capture : Command → Run Octets) (m : Manner) (name : Octets) (quoted : Bool) :
    Use → Run (List Part)
  | .unknown => faultText "Bad substitution"
  | .whole => wholeParts m name quoted
  | .followed word => do
    let first ← wholeParts m name quoted
    return first ++ (← wordParts capture { m with loose := !quoted } false false word)
  | .length => do
    let s ← get
    match parameterAtoms? s false quoted name with
    | some atoms =>
      return [parameterPart s name quoted (valueAtoms quoted (Octets.ofInt atoms.length))]
    | none =>
      if s.has 'u' then notSet name none false
      else return [parameterPart s name quoted (valueAtoms quoted ['0'])]
  | .trimmed atEnd longest pattern => do
    let s ← get
    match parameterAtoms? s m.full quoted name with
    | none => if s.has 'u' then notSet name none false else return []
    | some atoms =>
      let glyphs := Glyph.ofMarked (Atom.marked (Part.all
        (← wordParts capture ⟨false, false⟩ false true pattern)))
      let text := atoms.filterMap Atom.byte?
      let left :=
        if atEnd then atoms.take (Glyph.trimEnd glyphs longest text).length
        else atoms.drop (text.length - (Glyph.trimStart glyphs longest text).length)
      return cutAnew (parameterPart s name quoted left)
  | .fallback kind ifEmpty word => do
    let s ← get
    let found := parameterAtoms? s m.full quoted name
    let kept := match found with
      | some [] => if ifEmpty then none else found
      | found => found
    match kind, kept with
    | .alternative, some _ | .substitute, none =>
      wordParts capture { m with loose := !quoted } false true word
    | .alternative, none => return [parameterPart s name quoted []]
    | _, some atoms => return [parameterPart s name quoted atoms]
    | .assign, none =>
      let text := Atom.text (Part.all (← wordParts capture ⟨false, false⟩ false true word))
      assign name text
      return cutAnew (parameterPart s name quoted (valueAtoms quoted text))
    | .complain, none =>
      let text := Atom.text (Part.all (← wordParts capture ⟨false, false⟩ false true word))
      notSet name (if word.isEmpty then none else some text) ifEmpty

end

namespace Word

/-- All atoms of a word that is not cut. -/
private def atoms (capture : Command → Run Octets) (inList atStart : Bool) (w : Word) :
    Run (List Atom) := do
  return Part.all (← wordParts capture ⟨false, false⟩ inList atStart w)

/-- A word as one text. -/
def text (capture : Command → Run Octets) (w : Word) : Run Octets := do
  return Atom.text (← atoms capture false true w)

/-- A word as the value of a variable: tildes may stand after colons, too. -/
def assigned (capture : Command → Run Octets) (w : Word) : Run Octets := do
  return Atom.text (← atoms capture true true w)

/-- A document as one text. -/
def contents (capture : Command → Run Octets) (w : Word) : Run Octets := do
  return Atom.text (← atoms capture false false w)

/-- A word as a pattern. -/
def pattern (capture : Command → Run Octets) (w : Word) : Run (List Glyph) := do
  return Glyph.ofMarked (Atom.marked (← atoms capture false true w))

/-- The fields of a word, with the paths that its patterns cover. -/
def fields (capture : Command → Run Octets) (w : Word) : Run (List Octets) := do
  let parts ← wordParts capture ⟨true, false⟩ false true w
  let s ← get
  return (Fields.ofParts s.separators parts).flatMap fun field =>
    let paths := if s.has 'f' then [] else Paths.covered s.disk (Atom.marked field)
    if paths.isEmpty then [Atom.text field] else paths

end Word

end ConnectorKit.Shell
