import ConnectorKit.Shell.Number

/-!
Arithmetic expressions of the shell: words of the machine, variables, and operators in eight ranks.
A choice and the logical operators look at their other side only when it counts.
-/

set_option autoImplicit false
set_option relaxedAutoImplicit false

namespace ConnectorKit.Shell.Arithmetic

inductive Operator where
  | multiply
  | divide
  | remainder
  | add
  | subtract
  | shiftLeft
  | shiftRight
  | less
  | atMost
  | greater
  | atLeast
  | equal
  | different
  | and
  | exclusiveOr
  | or
  deriving DecidableEq, Repr

/-- Why an expression has no value. -/
inductive Fault where
  | noOperand
  | notEnded
  | openParenthesis
  | openChoice
  | divisionByZero
  deriving DecidableEq, Repr

def Fault.words : Fault → String
  | .noOperand => "expecting primary"
  | .notEnded => "expecting EOF"
  | .openParenthesis => "expecting ')'"
  | .openChoice => "expecting ':'"
  | .divisionByZero => "division by zero"

/-- The message of a fault of the expression with the text. -/
def Fault.message (f : Fault) (text : Octets) : Octets :=
  ("arithmetic expression: " ++ f.words ++ ": \"").toList ++ text ++ ['"']

inductive Expression where
  | number (n : Int64)
  | named (name : Octets)
  | negative (e : Expression)
  | complement (e : Expression)
  | zero (e : Expression)
  | operation (o : Operator) (left right : Expression)
  | both (left right : Expression)
  | either (left right : Expression)
  | choice (test yes no : Expression)
  /-- Gives a variable the value, joined to its old one by an operator where there is one. -/
  | assignment (name : Octets) (o : Option Operator) (e : Expression)
  /-- The text goes wrong after a part that is still worked out. -/
  | faulty (e : Expression) (f : Fault)
  deriving Inhabited

/-- What is wrong with the text of an expression, as far as its start shows. -/
def Expression.fault? : Expression → Option Fault
  | .number _ | .named _ => none
  | .negative e | .complement e | .zero e | .assignment _ _ e => e.fault?
  | .operation _ left right | .both left right | .either left right => left.fault?.or right.fault?
  | .choice test yes no => test.fault?.or (yes.fault?.or no.fault?)
  | .faulty e f => e.fault?.or (some f)

namespace Operator

/-- Operators of a lower rank bind more closely. -/
def rank : Operator → Nat
  | .multiply | .divide | .remainder => 0
  | .add | .subtract => 1
  | .shiftLeft | .shiftRight => 2
  | .less | .atMost | .greater | .atLeast => 3
  | .equal | .different => 4
  | .and => 5
  | .exclusiveOr => 6
  | .or => 7

private def truth (b : Bool) : Int64 :=
  if b then 1 else 0

/-- The value of an operation on words of the machine. -/
def apply (o : Operator) (a b : Int64) : Except Fault Int64 :=
  match o with
  | .multiply => .ok (a * b)
  | .divide => if b = 0 then .error .divisionByZero else .ok (a / b)
  | .remainder => if b = 0 then .error .divisionByZero else .ok (a % b)
  | .add => .ok (a + b)
  | .subtract => .ok (a - b)
  | .shiftLeft => .ok (a <<< b)
  | .shiftRight => .ok (a >>> b)
  | .less => .ok (truth (a < b))
  | .atMost => .ok (truth (a ≤ b))
  | .greater => .ok (truth (b < a))
  | .atLeast => .ok (truth (b ≤ a))
  | .equal => .ok (truth (a = b))
  | .different => .ok (truth (a ≠ b))
  | .and => .ok (a &&& b)
  | .exclusiveOr => .ok (a ^^^ b)
  | .or => .ok (a ||| b)

end Operator

inductive Token where
  | ending
  | number (n : Int64)
  | name (t : Octets)
  | operator (o : Operator)
  | assign (o : Option Operator)
  | both
  | either
  | bang
  | tilde
  | question
  | colon
  | opening
  | closing
  | unknown
  deriving DecidableEq

/-- The token that an operator is, unless an equals sign makes it an assignment. -/
private def orAssign (o : Operator) : Octets → Token × Octets
  | '=' :: rest => (.assign (some o), rest)
  | rest => (.operator o, rest)

/-- The next token, and what follows it. -/
def Token.next (t : Octets) : Token × Octets :=
  match t.dropWhile fun c => c = ' ' || c = '\t' || c = '\n' with
  | [] => (.ending, [])
  | '=' :: '=' :: rest => (.operator .equal, rest)
  | '=' :: rest => (.assign none, rest)
  | '!' :: '=' :: rest => (.operator .different, rest)
  | '!' :: rest => (.bang, rest)
  | '<' :: '<' :: rest => orAssign .shiftLeft rest
  | '<' :: '=' :: rest => (.operator .atMost, rest)
  | '<' :: rest => (.operator .less, rest)
  | '>' :: '>' :: rest => orAssign .shiftRight rest
  | '>' :: '=' :: rest => (.operator .atLeast, rest)
  | '>' :: rest => (.operator .greater, rest)
  | '&' :: '&' :: rest => (.both, rest)
  | '&' :: rest => orAssign .and rest
  | '|' :: '|' :: rest => (.either, rest)
  | '|' :: rest => orAssign .or rest
  | '^' :: rest => orAssign .exclusiveOr rest
  | '+' :: rest => orAssign .add rest
  | '-' :: rest => orAssign .subtract rest
  | '*' :: rest => orAssign .multiply rest
  | '/' :: rest => orAssign .divide rest
  | '%' :: rest => orAssign .remainder rest
  | '~' :: rest => (.tilde, rest)
  | '?' :: rest => (.question, rest)
  | ':' :: rest => (.colon, rest)
  | '(' :: rest => (.opening, rest)
  | ')' :: rest => (.closing, rest)
  | c :: rest =>
    if Octets.startsName c then
      (.name (c :: rest.takeWhile Octets.continuesName), rest.dropWhile Octets.continuesName)
    else match Number.openBase? (c :: rest) with
      | some (n, rest) => (.number (.ofInt (Number.clamp n)), rest)
      | none => (.unknown, rest)

/-- A part of an expression, and what follows it; nothing follows one that goes wrong. -/
abbrev Parsed := Expression × Octets

private def wrong (e : Expression) (f : Fault) : Parsed :=
  (.faulty e f, [])

mutual

/-- An operand with the signs before it. -/
def operand : Nat → Octets → Parsed
  | 0, _ => wrong (.number 0) .noOperand
  | fuel + 1, t =>
    match Token.next t with
    | (.number n, rest) => (.number n, rest)
    | (.name name, rest) => (.named name, rest)
    | (.operator .add, rest) => operand fuel rest
    | (.operator .subtract, rest) => (operand fuel rest).map .negative id
    | (.bang, rest) => (operand fuel rest).map .zero id
    | (.tilde, rest) => (operand fuel rest).map .complement id
    | (.opening, rest) =>
      let (e, rest) := expression fuel rest
      match Token.next rest with
      | (.closing, rest) => (e, rest)
      | _ => wrong e .openParenthesis
    | _ => wrong (.number 0) .noOperand

/-- The operations that the left side starts, of ranks below a limit. -/
def operations : Nat → Nat → Expression → Octets → Parsed
  | 0, _, left, _ => wrong left .noOperand
  | fuel + 1, limit, left, t =>
    match Token.next t with
    | (.operator o, rest) =>
      if o.rank < limit then
        let (right, rest) := operand fuel rest
        let (right, rest) := operations fuel o.rank right rest
        operations fuel limit (.operation o left right) rest
      else (left, t)
    | _ => (left, t)

def conjunction : Nat → Octets → Parsed
  | 0, _ => wrong (.number 0) .noOperand
  | fuel + 1, t =>
    let (left, rest) := operand fuel t
    let (left, rest) := operations fuel 8 left rest
    match Token.next rest with
    | (.both, rest) => (conjunction fuel rest).map (.both left) id
    | _ => (left, rest)

def disjunction : Nat → Octets → Parsed
  | 0, _ => wrong (.number 0) .noOperand
  | fuel + 1, t =>
    let (left, rest) := conjunction fuel t
    match Token.next rest with
    | (.either, rest) => (disjunction fuel rest).map (.either left) id
    | _ => (left, rest)

def choice : Nat → Octets → Parsed
  | 0, _ => wrong (.number 0) .noOperand
  | fuel + 1, t =>
    let (test, rest) := disjunction fuel t
    match Token.next rest with
    | (.question, rest) =>
      let (yes, rest) := expression fuel rest
      match Token.next rest with
      | (.colon, rest) => (choice fuel rest).map (.choice test yes) id
      | _ => (.choice test (.faulty yes .openChoice) (.number 0), [])
    | _ => (test, rest)

def expression : Nat → Octets → Parsed
  | 0, _ => wrong (.number 0) .noOperand
  | fuel + 1, t =>
    match Token.next t with
    | (.name name, rest) =>
      match Token.next rest with
      | (.assign o, rest) => (expression fuel rest).map (.assignment name o) id
      | _ => choice fuel t
    | _ => choice fuel t

end

/-- The expression that a text is. -/
def Expression.ofText (t : Octets) : Expression :=
  let (e, rest) := expression (8 * t.length + 8) t
  match Token.next rest with
  | (.ending, _) => e
  | _ => .faulty e .notEnded

end ConnectorKit.Shell.Arithmetic
