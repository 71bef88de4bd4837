import ConnectorKit.Shell.State

/-!
Conditions: tests of texts, numbers and files, joined by `-a`, `-o`, `!` and parentheses. With up
to four arguments their number decides what is an operator and what an operand.
-/

set_option autoImplicit false
set_option relaxedAutoImplicit false

namespace ConnectorKit.Shell.Condition

/-- What an argument is where an operator may stand. -/
inductive Token where
  | ending
  | operand
  | unary (operator : String)
  | binary (operator : String)
  | bang
  | both
  | either
  | opening
  | closing
  deriving DecidableEq, Repr

def unaryOperators : List String :=
  ["-r", "-w", "-x", "-e", "-f", "-d", "-c", "-b", "-p", "-u", "-g", "-k", "-s", "-t", "-z", "-n",
   "-h", "-O", "-G", "-L", "-S"]

def binaryOperators : List String :=
  ["=", "!=", "<", ">", "-eq", "-ne", "-ge", "-gt", "-le", "-lt", "-nt", "-ot", "-ef"]

/-- The operator that an argument is by itself. -/
def operator? (argument : Octets) : Option Token :=
  let t := String.ofList argument
  if unaryOperators.contains t then some (.unary t)
  else if binaryOperators.contains t then some (.binary t)
  else match t with
    | "!" => some .bang
    | "-a" => some .both
    | "-o" => some .either
    | "(" => some .opening
    | ")" => some .closing
    | _ => none

def isBinary (argument : Octets) : Bool :=
  match operator? argument with
  | some (.binary _) => true
  | _ => false

/-- What the first of the arguments is; one that is followed by nothing it could apply to is an
operand. -/
def token (arguments : List Octets) : Token :=
  match arguments with
  | [] => .ending
  | a :: rest =>
    match operator? a, rest with
    | some (.unary _), [] | some .opening, [] => .operand
    | some (.unary t), b :: _ :: _ => if isBinary b then .operand else .unary t
    | some t, _ => t
    | none, _ => .operand

private def isLink (d : Disk) (path : String) : Bool :=
  match d.slot path with
  | .ok (.name dir n false) =>
    match d.tree.lookup? (dir ++ [n]) with
    | some (.link _) => true
    | _ => false
  | _ => false

/-- Whether a file is what an operator asks for. -/
def testFile (d : Disk) (operator path : String) : Bool :=
  let isNull := path = "/dev/null"
  match operator, d.lookup? path with
  | "-h", _ | "-L", _ => isLink d path
  | "-c", some _ => isNull
  | "-f", some (.file _ _) => !isNull
  | "-d", some .directory => true
  | "-x", some (.file _ executable) => executable
  | "-x", some .directory => true
  | "-s", some (.file data _) => data.size ≠ 0
  | "-s", some .directory => true
  | "-e", some _ | "-r", some _ | "-w", some _ | "-O", some _ | "-G", some _ => true
  | _, _ => false

def testUnary (operator : String) (operand : Octets) : Run Bool := do
  match operator with
  | "-z" => return operand.isEmpty
  | "-n" => return !operand.isEmpty
  | "-t" =>
    discard <| numberOf operand
    return false
  | _ => return testFile (← get).disk operator (Octets.text operand)

def testBinary (operator : String) (a b : Octets) : Run Bool := do
  match operator with
  | "=" => return a = b
  | "!=" => return a ≠ b
  | "<" => return decide (a < b)
  | ">" => return decide (b < a)
  | "-nt" | "-ot" => return false
  | "-ef" =>
    let d := (← get).disk
    match d.locate (Octets.text a), d.locate (Octets.text b) with
    | .ok r, .ok q => return r = q
    | _, _ => return false
  | _ =>
    let a ← numberOf a
    let b ← numberOf b
    match operator with
    | "-eq" => return a = b
    | "-ne" => return a ≠ b
    | "-lt" => return decide (a < b)
    | "-le" => return decide (a ≤ b)
    | "-gt" => return decide (b < a)
    | _ => return decide (b ≤ a)

private def argumentExpected {α : Type} (operator : String) : Run α :=
  faultText (operator ++ ": argument expected")

mutual

/-- Terms joined by `-o`. The arguments start at the term, and what is given back starts at the
last argument that was used. -/
def disjunction : Nat → Token → List Octets → Run (Bool × List Octets)
  | 0, _, arguments => return (false, arguments)
  | fuel + 1, t, arguments => do
    let (a, arguments) ← conjunction fuel t arguments
    if token arguments.tail = .either then
      let rest := arguments.drop 2
      let (b, rest) ← disjunction fuel (token rest) rest
      return (a || b, rest)
    else return (a, arguments)

/-- Terms joined by `-a`. -/
def conjunction : Nat → Token → List Octets → Run (Bool × List Octets)
  | 0, _, arguments => return (false, arguments)
  | fuel + 1, t, arguments => do
    let (a, arguments) ← negation fuel t arguments
    if token arguments.tail = .both then
      let rest := arguments.drop 2
      let (b, rest) ← conjunction fuel (token rest) rest
      return (a && b, rest)
    else return (a, arguments)

def negation : Nat → Token → List Octets → Run (Bool × List Octets)
  | 0, _, arguments => return (false, arguments)
  | fuel + 1, t, arguments => do
    if t = .bang then
      let next := token arguments.tail
      let (b, rest) ← negation fuel next (if next = .ending then arguments else arguments.tail)
      return (!b, rest)
    else primary fuel t arguments

def primary : Nat → Token → List Octets → Run (Bool × List Octets)
  | 0, _, arguments => return (false, arguments)
  | fuel + 1, t, arguments => do
    match t with
    | .ending => return (false, arguments)
    | .opening =>
      let inner := arguments.tail
      if token inner = .closing then return (false, inner)
      let (b, rest) ← disjunction fuel (token inner) inner
      let rest := rest.tail
      if token rest ≠ .closing then faultText "closing paren expected"
      return (b, rest)
    | .unary operator =>
      match arguments.tail with
      | [] => argumentExpected operator
      | operand :: rest => return (← testUnary operator operand, operand :: rest)
    | _ =>
      match arguments with
      | [] => return (false, [])
      | a :: rest =>
        match token rest, rest.tail with
        | .binary operator, [] => argumentExpected operator
        | .binary operator, b :: more => return (← testBinary operator a b, b :: more)
        | _, _ => return (!a.isEmpty, a :: rest)

end

/-- The truth of an expression that takes all arguments. -/
private def whole (t : Token) (arguments : List Octets) : Run Bool := do
  let (b, rest) ← disjunction (4 * arguments.length + 4) t arguments
  match rest with
  | a :: _ :: _ =>
    if a.isEmpty then faultText "unexpected operator"
    else fault (a ++ ": unexpected operator".toList)
  | _ => return b

/-- The arguments between parentheses around all of them. -/
private def inner? (arguments : List Octets) : Option (List Octets) :=
  if arguments.head? = some ['('] ∧ arguments.getLast? = some [')'] then
    some (arguments.drop 1).dropLast
  else none

/-- The expression that counts among three or four arguments: in parentheses around them, or after
exclamation marks, which negate it once however many they are. -/
def core : Nat → Bool → List Octets → Run Bool
  | 0, _, _ => return false
  | fuel + 1, negated, arguments => do
    let count := arguments.length
    if count = 3 && (arguments[1]?.map isBinary).getD false then
      return (← whole .operand arguments) ≠ negated
    else if count = 3 ∨ count = 4 then
      match inner? arguments with
      | some inner => return (← whole (token inner) inner) ≠ negated
      | none =>
        if arguments.head? = some ['!'] then core fuel true arguments.tail
        else return (← whole (token arguments) arguments) ≠ negated
    else return (← whole (token arguments) arguments) ≠ negated

/-- Whether a condition holds; one without arguments does not. -/
def holds (arguments : List Octets) : Run Bool := do
  if arguments.isEmpty then return false else core arguments.length false arguments

end ConnectorKit.Shell.Condition
