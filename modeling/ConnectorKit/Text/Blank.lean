/-!
Blank characters: the white space of the Unicode character database. Trimming removes them from
the ends of a text; a text is blank when nothing else is in it.
-/

set_option autoImplicit false
set_option relaxedAutoImplicit false

namespace ConnectorKit.Text.Blank

/-- The 25 characters with the Unicode property of white space. -/
def isBlank (c : Char) : Bool :=
  let n := c.toNat
  (0x9 ≤ n && n ≤ 0xD) || n == 0x20 || n == 0x85 || n == 0xA0 || n == 0x1680 ||
    (0x2000 ≤ n && n ≤ 0x200A) || n == 0x2028 || n == 0x2029 || n == 0x202F || n == 0x205F ||
    n == 0x3000

def trimStartChars (text : List Char) : List Char :=
  text.dropWhile isBlank

def trimEndChars (text : List Char) : List Char :=
  (text.reverse.dropWhile isBlank).reverse

def trimChars (text : List Char) : List Char :=
  trimEndChars (trimStartChars text)

/-- The text without the blanks at its two ends. -/
def trim (text : String) : String :=
  String.ofList (trimChars text.toList)

/-- The text without the blanks at its end. -/
def trimEnd (text : String) : String :=
  String.ofList (trimEndChars text.toList)

/-- Whether the text holds blanks only. -/
def isBlankText (text : String) : Bool :=
  text.toList.all isBlank

/-- The text, unless it is blank. -/
def filled? (text : String) : Option String :=
  if isBlankText text then none else some text

end ConnectorKit.Text.Blank
