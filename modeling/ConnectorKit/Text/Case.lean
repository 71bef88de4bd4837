import ConnectorKit.Text.CaseTable

/-!
Full letter case. One character can have several in the other case, and a capital sigma in last
place of a word has a lower case of its own.
-/

set_option autoImplicit false
set_option relaxedAutoImplicit false

namespace ConnectorKit.Text.Case

def partner (table : List CaseTable.Span) (c : Char) : Char :=
  match table.findSome? (·.map? c.toNat) with
  | some code => Char.ofNat code
  | none => c

/-- Lower case of one character, whatever stands around it. -/
def lowerChar (c : Char) : List Char :=
  if c.toNat < 128 then [c.toLower]
  else if c.toNat = 0x130 then ['i', '\u0307']
  else [partner CaseTable.lower c]

/-- Upper case of one character. -/
def upperChar (c : Char) : List Char :=
  if c.toNat < 128 then [c.toUpper]
  else match CaseTable.upperSeveral.lookup c.toNat with
    | some codes => codes.map Char.ofNat
    | none => [partner CaseTable.upper c]

/-- Whether the first character that context does not pass over is a letter with case. -/
def meetsCased (context : List Char) : Bool :=
  match context.dropWhile (fun c => CaseTable.covers CaseTable.ignorable c.toNat) with
  | c :: _ => CaseTable.covers CaseTable.cased c.toNat
  | [] => false

/-- Lower case of a capital sigma: the final form after a letter and before none.
`before` runs backwards. -/
def lowerSigma (before after : List Char) : Char :=
  if meetsCased before && !meetsCased after then 'ς' else 'σ'

/-- Lower case of the characters that follow `before`, which runs backwards. -/
def lowerFrom (before : List Char) : List Char → List Char
  | [] => []
  | c :: rest =>
    (if c = 'Σ' then [lowerSigma before rest] else lowerChar c) ++ lowerFrom (c :: before) rest

def lowerChars (text : List Char) : List Char :=
  lowerFrom [] text

/-- Lower case of a text. -/
def lower (text : String) : String :=
  String.ofList (lowerChars text.toList)

def capitalizeChars : List Char → List Char
  | [] => []
  | c :: rest => upperChar c ++ rest

/-- Upper case for the first character only. -/
def capitalize (text : String) : String :=
  String.ofList (capitalizeChars text.toList)

def uncapitalizeChars : List Char → List Char
  | [] => []
  | c :: rest => lowerChar c ++ rest

/-- Lower case for the first character only. -/
def uncapitalize (text : String) : String :=
  String.ofList (uncapitalizeChars text.toList)

end ConnectorKit.Text.Case
