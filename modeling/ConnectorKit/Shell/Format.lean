import ConnectorKit.Decimal.Binary64
import ConnectorKit.Shell.Message
import ConnectorKit.Shell.Number

/-!
Printing by a format. Each directive takes the next argument, an empty one where none is left, and
writes it in a field of its own width; the format is used again as long as arguments are left.
-/

set_option autoImplicit false
set_option relaxedAutoImplicit false

namespace ConnectorKit.Shell.Format

open ConnectorKit.Decimal (Binary64)

/-- How a directive writes its argument. -/
structure Layout where
  left : Bool := false
  plus : Bool := false
  blank : Bool := false
  alternate : Bool := false
  zeros : Bool := false
  width : Nat := 0
  places : Option Nat := none

namespace Layout

/-- A text at its side of the field. -/
def pad (l : Layout) (t : Octets) : Octets :=
  let gap := List.replicate (l.width - t.length) ' '
  if l.left then t ++ gap else gap ++ t

/-- A number in its field: zeros stand between its sign and its digits. -/
def padNumber (l : Layout) (zeros : Bool) (sign digits : Octets) : Octets :=
  if zeros && !l.left then
    sign ++ List.replicate (l.width - sign.length - digits.length) '0' ++ digits
  else l.pad (sign ++ digits)

/-- The sign of a number. -/
def sign (l : Layout) (negative : Bool) : Octets :=
  if negative then ['-'] else if l.plus then ['+'] else if l.blank then [' '] else []

def withFlag (l : Layout) (c : Char) : Layout :=
  match c with
  | '-' => { l with left := true }
  | '+' => { l with plus := true }
  | ' ' => { l with blank := true }
  | '#' => { l with alternate := true }
  | '0' => { l with zeros := true }
  | _ => l

/-- A width; a negative one asks for the left side. -/
def withWidth (l : Layout) (n : Int) : Layout :=
  if n < 0 then { l with left := true, width := n.natAbs } else { l with width := n.natAbs }

/-- A number of places; a negative one asks for nothing. -/
def withPlaces (l : Layout) (n : Int) : Layout :=
  if n < 0 then l else { l with places := some n.natAbs }

/-- Whether a field is wider than any text can be. -/
def isTooWide (l : Layout) : Bool :=
  let most := 2147483647
  most < l.width || most < l.places.getD 0

end Layout

private def upper (t : Octets) : Octets :=
  t.map Char.toUpper

/-- The digits of a number, at least as many as there are places. -/
private def digits (l : Layout) (base n : Nat) : Octets :=
  let t := if n = 0 ∧ l.places = some 0 then [] else Nat.toDigits base n
  List.replicate (l.places.getD 0 - t.length) '0' ++ t

/-- A whole number with its sign. -/
def signed (l : Layout) (n : Int) : Octets :=
  l.padNumber (l.zeros && l.places.isNone) (l.sign (n < 0)) (digits l 10 n.natAbs)

/-- A number without a sign, in the base that the letter asks for. -/
def unsigned (l : Layout) (letter : Char) (n : Nat) : Octets :=
  let zeros := l.zeros && l.places.isNone
  match letter with
  | 'o' =>
    let t := digits l 8 n
    l.padNumber zeros [] (if l.alternate && t.head? ≠ some '0' then '0' :: t else t)
  | 'x' => l.padNumber zeros (if l.alternate && n ≠ 0 then ['0', 'x'] else []) (digits l 16 n)
  | 'X' =>
    l.padNumber zeros (if l.alternate && n ≠ 0 then ['0', 'X'] else []) (upper (digits l 16 n))
  | _ => l.padNumber zeros [] (digits l 10 n)

/-- What a number with a point can be. -/
inductive Quantity where
  /-- A quotient of whole numbers with its sign. -/
  | finite (negative : Bool) (numerator denominator : Nat)
  | infinite (negative : Bool)
  | undefined (negative : Bool)

/-- Digits with a point before the last ones. -/
private def pointed (l : Layout) (places n : Nat) : Octets :=
  let t := Nat.toDigits 10 n
  let t := List.replicate (places + 1 - t.length) '0' ++ t
  let whole := t.take (t.length - places)
  if places = 0 then whole ++ if l.alternate then ['.'] else []
  else whole ++ '.' :: t.drop (t.length - places)

/-- A quotient with a fixed number of places. -/
def fixed (l : Layout) (places numerator denominator : Nat) : Octets :=
  pointed l places (Binary64.roundQuotient (numerator * Nat.pow 10 places) denominator)

private def below (numerator denominator : Nat) (exponent : Int) : Bool :=
  if 0 ≤ exponent then numerator < denominator * Nat.pow 10 exponent.toNat
  else numerator * Nat.pow 10 (-exponent).toNat < denominator

/-- The exponent of the first digit of a quotient. -/
def leadingExponent (numerator denominator : Nat) : Int :=
  let guess := ((Nat.toDigits 10 numerator).length : Int) - (Nat.toDigits 10 denominator).length
  if below numerator denominator guess then guess - 1 else guess

/-- The first digits of a quotient, so many after the first one, and the exponent of the first. -/
def leading (places numerator denominator : Nat) : Nat × Int :=
  if numerator = 0 then (0, 0)
  else
    let exponent := leadingExponent numerator denominator
    let shift := (places : Int) - exponent
    let n := if 0 ≤ shift then
        Binary64.roundQuotient (numerator * Nat.pow 10 shift.toNat) denominator
      else Binary64.roundQuotient numerator (denominator * Nat.pow 10 (-shift).toNat)
    if n = Nat.pow 10 (places + 1) then (Nat.pow 10 places, exponent + 1) else (n, exponent)

private def exponentText (exponent : Int) : Octets :=
  let t := Nat.toDigits 10 exponent.natAbs
  'e' :: (if exponent < 0 then '-' else '+') :: (List.replicate (2 - t.length) '0' ++ t)

/-- A quotient with one digit before the point and an exponent. -/
def scientific (l : Layout) (places numerator denominator : Nat) : Octets :=
  let (n, exponent) := leading places numerator denominator
  pointed l places n ++ exponentText exponent

private def withoutZeros (t : Octets) : Octets :=
  if t.contains '.' then
    ((t.reverse.dropWhile (· = '0')).dropWhile (· = '.')).reverse
  else t

/-- A quotient in whichever of both ways suits it, with so many digits that count. -/
def general (l : Layout) (places numerator denominator : Nat) : Octets :=
  let significant := max places 1
  let (n, exponent) := leading (significant - 1) numerator denominator
  if -4 ≤ exponent ∧ exponent < significant then
    let t := fixed l ((significant : Int) - 1 - exponent).toNat numerator denominator
    if l.alternate then t else withoutZeros t
  else
    let t := pointed l (significant - 1) n
    (if l.alternate then t else withoutZeros t) ++ exponentText exponent

/-- A quotient of the binary format in hexadecimal digits, of which one stands before the point, with
a power of two; without places there are as many as are needed. -/
def hexadecimal (l : Layout) (numerator denominator : Nat) : Octets :=
  let guess : Int := (Nat.log2 numerator : Int) - Nat.log2 denominator
  let isBelow := numerator * Nat.pow 2 (-guess).toNat < denominator * Nat.pow 2 guess.toNat
  let exponent := if numerator = 0 then 0 else max (-1022) (if isBelow then guess - 1 else guess)
  let n := numerator * Nat.pow 2 (52 - exponent).toNat /
    (denominator * Nat.pow 2 (exponent - 52).toNat)
  let (places, n) := match l.places with
    | none => (13, n)
    | some p =>
      if p < 13 then (p, Binary64.roundQuotient n (Nat.pow 16 (13 - p)))
      else (p, n * Nat.pow 16 (p - 13))
  let t := Nat.toDigits 16 (n % Nat.pow 16 places)
  let t := if places = 0 then [] else List.replicate (places - t.length) '0' ++ t
  let t := if l.places.isNone then (t.reverse.dropWhile (· = '0')).reverse else t
  Nat.toDigits 16 (n / Nat.pow 16 places) ++
    (if t.isEmpty && !l.alternate then [] else '.' :: t) ++
    'p' :: (if exponent < 0 then '-' else '+') :: Nat.toDigits 10 exponent.natAbs

/-- A number with a point, as the letter asks for. -/
def quantity (l : Layout) (letter : Char) (q : Quantity) : Octets :=
  let case_ (t : Octets) : Octets := if letter.isUpper then upper t else t
  match q with
  | .infinite negative => l.pad (l.sign negative ++ case_ "inf".toList)
  | .undefined negative => l.pad (l.sign negative ++ case_ "nan".toList)
  | .finite negative numerator denominator =>
    let places := l.places.getD 6
    let (lead, t) : Octets × Octets := match letter.toLower with
      | 'a' => (['0', 'x'], hexadecimal l numerator denominator)
      | 'f' => ([], fixed l places numerator denominator)
      | 'e' => ([], scientific l places numerator denominator)
      | _ => ([], general l places numerator denominator)
    l.padNumber l.zeros (l.sign negative ++ case_ lead) (case_ t)

/-! ### Arguments -/

/-- A value read from an argument, and what is to be said about it. -/
structure Reading (α : Type) where
  value : α
  complaint : Option String

/-- What is said of what follows the number at the start of an argument. -/
private def complaint (argument rest : Octets) (fits : Bool) : Option String :=
  if !rest.isEmpty then
    some (if rest.length = argument.length then "expected numeric value"
      else "not completely converted")
  else if fits then none
  else some "Numerical result out of range"

/-- The code of the byte after a quote. -/
private def quotedCode? (argument : Octets) : Option Nat :=
  match argument with
  | q :: rest =>
    if q = '"' ∨ q = '\'' then some ((rest.head?.map Char.toNat).getD 0) else none
  | [] => none

def readSigned (argument : Octets) : Reading Int :=
  match quotedCode? argument, Number.leading? true argument with
  | some code, _ => ⟨code, none⟩
  | none, some (n, rest) => ⟨Number.clamp n, complaint argument rest (Number.fits n)⟩
  | none, none => ⟨0, complaint argument argument true⟩

def readUnsigned (argument : Octets) : Reading Nat :=
  let limit := Nat.pow 2 64
  match quotedCode? argument, Number.leading? true argument with
  | some code, _ => ⟨code, none⟩
  | none, some (n, rest) =>
    if limit ≤ n.natAbs then ⟨limit - 1, complaint argument rest false⟩
    else ⟨(n % limit).toNat, complaint argument rest true⟩
  | none, none => ⟨0, complaint argument argument true⟩

/-- The exponent after the digits of a number, if one is written, and what follows. -/
private def readExponent (marks : List Char) (t : Octets) : Int × Octets :=
  match t with
  | e :: rest =>
    if marks.contains e then
      let (negative, more) := match rest with
        | '-' :: more => (true, more)
        | '+' :: more => (false, more)
        | more => (false, more)
      match Number.natural? 10 more with
      | some (n, after) => (if negative then -(n : Int) else n, after)
      | none => (0, t)
    else (0, t)
  | [] => (0, [])

/-- A number at the start of a text: its digits, a power that they are multiplied by, and what
follows. -/
private structure Scaled where
  number : Nat
  base : Nat
  exponent : Int
  rest : Octets

/-- Digits of a base with or without a point at the start of a text: their number, how many stand
after the point, and what follows. -/
private def readPointed? (base : Nat) (t : Octets) : Option (Nat × Nat × Octets) :=
  let isDigit (c : Char) : Bool := (Number.digit? base c).isSome
  let (whole, rest) := t.span isDigit
  let (fraction, rest) := match rest with
    | '.' :: more => more.span isDigit
    | rest => ([], rest)
  if whole.isEmpty && fraction.isEmpty then none
  else some ((Number.digits base 0 (whole ++ fraction)).1, fraction.length, rest)

private def readDecimal? (t : Octets) : Option Scaled := do
  let (n, places, rest) ← readPointed? 10 t
  let (exponent, rest) := readExponent ['e', 'E'] rest
  return ⟨n, 10, exponent - places, rest⟩

/-- A hexadecimal number with a point, which has powers of two. -/
private def readHexadecimal? (t : Octets) : Option Scaled := do
  match t with
  | '0' :: x :: t =>
    if x ≠ 'x' && x ≠ 'X' then none
    else
      let (n, places, rest) ← readPointed? 16 t
      let (exponent, rest) := readExponent ['p', 'P'] rest
      return ⟨n, 2, exponent - 4 * places, rest⟩
  | _ => none

private def wordAt (word : String) (t : Octets) : Bool :=
  (t.take word.length).map Char.toLower = word.toList

/-- The nearest number of the binary format, as a quotient, and whether it is in range: one that is
nearer to zero than the format is exact has to be the number itself. -/
private def nearest (negative : Bool) (t : Scaled) : Quantity × Bool :=
  let n := t.number
  let most := if t.base = 10 then 400 else 1200
  let (numerator, denominator) :=
    if 0 ≤ t.exponent then (n * Nat.pow t.base (min t.exponent.toNat most), 1)
    else
      let length := (Nat.toDigits t.base n).length
      (n, Nat.pow t.base (min (-t.exponent).toNat (most + length)))
  match Binary64.nearest numerator denominator with
  | some m =>
    let q := Binary64.quotient m
    (.finite negative q.1 q.2,
      Nat.pow 2 52 ≤ m.mantissa || q.1 * denominator = numerator * q.2)
  | none => (.infinite negative, false)

def readQuantity (argument : Octets) : Reading Quantity :=
  match quotedCode? argument with
  | some code => ⟨.finite false code 1, none⟩
  | none =>
    let (negative, t) := match argument.dropWhile Octets.isSpace with
      | '-' :: rest => (true, rest)
      | '+' :: rest => (false, rest)
      | rest => (false, rest)
    if wordAt "infinity" t then ⟨.infinite negative, complaint argument (t.drop 8) true⟩
    else if wordAt "inf" t then ⟨.infinite negative, complaint argument (t.drop 3) true⟩
    else if wordAt "nan" t then ⟨.undefined negative, complaint argument (t.drop 3) true⟩
    else match (readHexadecimal? t).or (readDecimal? t) with
      | some scaled =>
        let (q, fits) := nearest negative scaled
        ⟨q, complaint argument scaled.rest fits⟩
      | none => ⟨.finite false 0 1, complaint argument argument true⟩

/-! ### Formats -/

/-- What one use of a format gave. -/
structure Printed where
  text : Octets := []
  /-- The arguments that could not be read, each with what is said of it. -/
  complaints : List (Octets × String) := []
  /-- The arguments that are left. -/
  left : List Octets := []
  /-- Whether nothing may follow. -/
  ended : Bool := false
  /-- What is wrong with the format. -/
  fault : Option Octets := none

namespace Printed

/-- What was printed before and what comes now. -/
def append (a b : Printed) : Printed :=
  { b with text := a.text ++ b.text, complaints := a.complaints ++ b.complaints }

end Printed

/-- Reads an argument by a rule of its own. -/
private def argument {α : Type} (read : Octets → Reading α) (none_ : α) (left : List Octets) :
    α × Printed :=
  match left with
  | [] => (none_, { })
  | a :: rest =>
    let r := read a
    (r.value, { left := rest, complaints := (r.complaint.map fun c => (a, c)).toList })

/-- The width or the places of a directive: digits, or an argument for a star, of which half a word
counts. -/
private def size (rest : Octets) (left : List Octets) : Option Int × Octets × Printed :=
  match rest with
  | '*' :: rest =>
    let (n, p) := argument readSigned 0 left
    (some (n.bmod 4294967296), rest, p)
  | _ =>
    let t := rest.takeWhile fun c => c.isDigit || c = '*'
    (if t.isEmpty then none else some (Number.digits 10 0 t).1, rest.drop t.length,
      { left := left })

/-- What a directive with the letter writes. -/
private def convert (l : Layout) (letter : Char) (left : List Octets) : Option Printed :=
  let cut (t : Octets) : Octets := match l.places with
    | some n => t.take n
    | none => t
  match letter with
  | 's' => some { text := l.pad (cut (left.headD [])), left := left.tail }
  | 'b' =>
    let p := Message.unescape (left.headD [])
    some { text := l.pad (cut p.text), left := left.tail, ended := p.ended }
  | 'c' => some { text := l.pad [((left.headD []).head?).getD '\x00'], left := left.tail }
  | 'd' | 'i' =>
    let (n, p) := argument readSigned 0 left
    some { p with text := signed l n }
  | 'o' | 'u' | 'x' | 'X' =>
    let (n, p) := argument readUnsigned 0 left
    some { p with text := unsigned l letter n }
  | 'a' | 'A' | 'e' | 'E' | 'f' | 'F' | 'g' | 'G' =>
    let (q, p) := argument readQuantity (.finite false 0 1) left
    some { p with text := quantity l letter q }
  | _ => none

/-- A directive after its percent sign, and what follows it. -/
def directive (rest : Octets) (left : List Octets) : Printed × Octets :=
  let flags := rest.takeWhile fun c => c ∈ ['#', '-', '+', ' ', '0']
  let l := flags.foldl Layout.withFlag { }
  let (width, after, p) := size (rest.drop flags.length) left
  let l := l.withWidth (width.getD 0)
  let (l, after, p) := match after with
    | '.' :: more =>
      let (places, after, q) := size more p.left
      (l.withPlaces (places.getD 0), after, p.append q)
    | after => (l, after, p)
  match after with
  | [] => ({ p with fault := some "missing format character".toList }, [])
  | letter :: more =>
    let tooWide := l.isTooWide
    match convert (if tooWide then { } else l) letter p.left with
    | some q =>
      if tooWide then
        (p.append { q with text := [], fault := some "xvsnprintf failed".toList }, [])
      else (p.append q, more)
    | none =>
      let start := '%' :: rest.take (rest.length - more.length)
      ({ p with fault := some (start ++ ": invalid directive".toList) }, [])

/-- One use of a format, the length of the format being fuel enough. -/
def printOnce : Nat → Octets → List Octets → Printed
  | 0, _, left => { left := left }
  | _, [], left => { left := left }
  | fuel + 1, '\\' :: rest, left =>
    let (c, n) := Message.escape rest
    Printed.append { text := [c] } (printOnce fuel (rest.drop n) left)
  | fuel + 1, '%' :: '%' :: rest, left =>
    Printed.append { text := ['%'] } (printOnce fuel rest left)
  | fuel + 1, '%' :: rest, left =>
    let (p, after) := directive rest left
    if p.ended || p.fault.isSome then p else p.append (printOnce fuel after p.left)
  | fuel + 1, c :: rest, left =>
    Printed.append { text := [c] } (printOnce fuel rest left)

/-- The format used until no argument is left, or it takes none. -/
def print : Nat → Octets → List Octets → Printed
  | 0, _, left => { left := left }
  | fuel + 1, format, arguments =>
    let p := printOnce format.length format arguments
    if p.ended || p.fault.isSome || p.left.isEmpty || p.left.length = arguments.length then p
    else p.append (print fuel format p.left)

/-- What a format makes of arguments. -/
def printf (format : Octets) (arguments : List Octets) : Printed :=
  print (arguments.length + 1) format arguments

end ConnectorKit.Shell.Format
