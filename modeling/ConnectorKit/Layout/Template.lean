import ConnectorKit.Failure
import ConnectorKit.Text.Search

/-!
Path layouts. A layout is a row of segments between slashes: text that has to stand there, a name
in braces for one part of a path, or a starred name in braces for all the parts that are left, at
least one. Empty parts of a path do not count.
-/

set_option autoImplicit false
set_option relaxedAutoImplicit false

namespace ConnectorKit

structure Layout where
  text : String
  deriving DecidableEq, Repr

namespace Layout

inductive Segment where
  | literal (text : String)
  | one (name : String)
  | rest (name : String)
  deriving DecidableEq, Repr

/-- The text between two ends, if it has both and they do not overlap. -/
def between? (start finish text : List Char) : Option (List Char) := do
  Text.Search.beforeChars? finish (← Text.Search.afterChars? start text)

def Segment.ofText (text : String) : Segment :=
  match between? ['{', '*'] ['}'] text.toList, between? ['{'] ['}'] text.toList with
  | some name, _ => .rest (String.ofList name)
  | none, some name => .one (String.ofList name)
  | none, none => .literal text

def segments (l : Layout) : List Segment :=
  (Text.Search.split '/' l.text).map Segment.ofText

/-- The parts of a path that count. -/
def parts (path : String) : List String :=
  (Text.Search.split '/' path).filter (· ≠ "")

/-- What the names of the segments stand for, if the parts fit. -/
def fit? : List Segment → List String → Option (List (String × String))
  | [], [] => some []
  | [], _ :: _ => none
  | _ :: _, [] => none
  | .rest name :: _, part :: parts => some [(name, "/".intercalate (part :: parts))]
  | .one name :: segments, part :: parts => (fit? segments parts).map ((name, part) :: ·)
  | .literal text :: segments, part :: parts =>
    if text = part then fit? segments parts else none

/-- The captures of a path in the order of the layout. -/
def capture (l : Layout) (path : String) : Except Failure (List (String × String)) :=
  match fit? l.segments (parts path) with
  | some captures => .ok captures
  | none => .error (.unexpectedLayout path l.text)

/-- What a name stands for: its last capture, or nothing. -/
def captured (captures : List (String × String)) (name : String) : String :=
  (captures.reverse.lookup name).getD ""

/-- Types files of direct controllers. -/
def directTypes : Layout :=
  ⟨"apis/\x7bservice\x7d/\x7bversion\x7d/\x7b*file\x7d"⟩

/-- Types files of legacy controllers. -/
def legacyTypes : Layout :=
  ⟨"pkg/clients/generated/apis/\x7bservice\x7d/\x7bversion\x7d/\x7b*file\x7d"⟩

end Layout

end ConnectorKit
