import ConnectorKit.Shell.Octets

/-!
Escapes in what the shell prints. A backslash and a letter stand for a control, a backslash and up
to three octal digits for a byte; before any other byte the backslash stands for itself.
-/

set_option autoImplicit false
set_option relaxedAutoImplicit false

namespace ConnectorKit.Shell.Message

/-- Text, and whether nothing may follow it. -/
structure Print where
  text : Octets
  ended : Bool

def isOctal (c : Char) : Bool :=
  '0' ≤ c && c ≤ '7'

/-- The byte with the number, without its higher bits. -/
def byte (n : Nat) : Char :=
  Char.ofNat (n % 256)

private def letter? (c : Char) : Option Char :=
  match c with
  | '\\' => some '\\'
  | 'a' => some '\x07'
  | 'b' => some '\x08'
  | 'e' => some '\x1b'
  | 'f' => some '\x0c'
  | 'n' => some '\n'
  | 'r' => some '\r'
  | 't' => some '\t'
  | 'v' => some '\x0b'
  | _ => none

/-- The byte that a backslash and what follows it stand for, and how much of that it takes. -/
def escape (rest : Octets) : Char × Nat :=
  match rest with
  | [] => ('\\', 0)
  | c :: _ =>
    match letter? c with
    | some d => (d, 1)
    | none =>
      let digits := (rest.take 3).takeWhile isOctal
      if digits.isEmpty then ('\\', 0)
      else (byte (digits.foldl (fun n d => n * 8 + (d.toNat - 48)) 0), digits.length)

/-- A text with its escapes read, the length of the text being fuel enough. A zero may stand before
octal digits, and `\c` ends all printing. -/
def unescapeFrom : Nat → Octets → Print
  | 0, _ => ⟨[], false⟩
  | _, [] => ⟨[], false⟩
  | _ + 1, '\\' :: 'c' :: _ => ⟨[], true⟩
  | fuel + 1, '\\' :: rest =>
    let rest := match rest with
      | '0' :: d :: more => if isOctal d then d :: more else rest
      | rest => rest
    let (c, n) := escape rest
    let p := unescapeFrom fuel (rest.drop n)
    ⟨c :: p.text, p.ended⟩
  | fuel + 1, c :: rest =>
    let p := unescapeFrom fuel rest
    ⟨c :: p.text, p.ended⟩

def unescape (t : Octets) : Print :=
  unescapeFrom t.length t

/-- What `echo` prints. -/
def echo (arguments : List Octets) : Octets :=
  let (line, arguments) := match arguments with
    | ['-', 'n'] :: rest => (false, rest)
    | arguments => (true, arguments)
  let p := unescape ([' '].intercalate arguments)
  p.text ++ if line && !p.ended then ['\n'] else []

end ConnectorKit.Shell.Message
