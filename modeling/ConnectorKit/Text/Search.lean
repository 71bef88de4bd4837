/-!
Finding, cutting and replacing inside a text, character by character.
-/

set_option autoImplicit false
set_option relaxedAutoImplicit false

namespace ConnectorKit.Text.Search

/-- Whether `needle` stands somewhere in the text. -/
def occurs (needle : List Char) : List Char → Bool
  | [] => needle.isEmpty
  | c :: rest => needle.isPrefixOf (c :: rest) || occurs needle rest

def contains (text needle : String) : Bool :=
  occurs needle.toList text.toList

def startsWith (text start : String) : Bool :=
  start.toList.isPrefixOf text.toList

def endsWith (text finish : String) : Bool :=
  finish.toList.isSuffixOf text.toList

/-- The text after `start`, if it begins with it. -/
def afterChars? : List Char → List Char → Option (List Char)
  | [], text => some text
  | _ :: _, [] => none
  | s :: start, c :: text => if s = c then afterChars? start text else none

def after? (start text : String) : Option String :=
  (afterChars? start.toList text.toList).map String.ofList

/-- The text before `finish`, if it ends in it. -/
def beforeChars? (finish text : List Char) : Option (List Char) :=
  (afterChars? finish.reverse text.reverse).map List.reverse

def before? (finish text : String) : Option String :=
  (beforeChars? finish.toList text.toList).map String.ofList

/-- The runs between the marks, one more than there are marks. -/
def splitChars (mark : Char) : List Char → List (List Char)
  | [] => [[]]
  | c :: rest =>
    if c = mark then [] :: splitChars mark rest
    else match splitChars mark rest with
      | run :: runs => (c :: run) :: runs
      | [] => [[c]]

def split (mark : Char) (text : String) : List String :=
  (splitChars mark text.toList).map String.ofList

/-- Replaces each occurrence of `sought`, left to right, after passing over `skip` characters. -/
def replaceFrom (sought put : List Char) : Nat → List Char → List Char
  | _, [] => []
  | skip + 1, _ :: rest => replaceFrom sought put skip rest
  | 0, c :: rest =>
    if sought.isPrefixOf (c :: rest) then put ++ replaceFrom sought put (sought.length - 1) rest
    else c :: replaceFrom sought put 0 rest

/-- Replaces each occurrence of `sought`, which is not empty, left to right. -/
def replace (text sought put : String) : String :=
  String.ofList (replaceFrom sought.toList put.toList 0 text.toList)

end ConnectorKit.Text.Search
