import ConnectorKit.Disk.Search
import ConnectorKit.Shell.Number
import ConnectorKit.Shell.Source
import ConnectorKit.Shell.Stream

/-!
The state of a running shell, and what a part of a run is: it changes the state and gives a value,
or it stops for a reason that a command further out deals with.
-/

set_option autoImplicit false
set_option relaxedAutoImplicit false

namespace ConnectorKit.Shell

structure Variable where
  name : Octets
  /-- A variable can be exported or fixed before it is set. -/
  value : Option Octets
  exported : Bool
  /-- Whether it may not be changed. -/
  fixed : Bool

/-- Why a run does not go on with the next command. -/
inductive Stop where
  /-- The shell comes to its end. -/
  | leave
  /-- A fault ends the shell, unless a command that was built in met it and is not special. -/
  | fault
  | killed (signal : Nat)
  | exhausted
  | breakLoops (count : Nat)
  | nextTurn (count : Nat)
  /-- Back to where the function was called. -/
  | back
  deriving DecidableEq, Repr

/-- What was there before a function made it its own. -/
inductive Kept where
  | binding (name : Octets) (old : Option Variable)
  | options (letters : List Char)

/-- What a shell knows of commands that it left to run on their own. -/
structure Seat where
  /-- The number by which the shell itself names them. -/
  number : Nat
  /-- The number of their last process. -/
  process : Nat
  /-- How many processes they are. -/
  size : Nat
  /-- The status of their end. -/
  status : Option Nat
  /-- The signal that ended them. -/
  signal : Option Nat
  /-- Whether their end was waited for. -/
  waited : Bool

/-- The first number for new processes, and the seats that are left when they take it: one whose
end was waited for gives way. -/
def Seat.vacate (seats : List Seat) : Nat × List Seat :=
  let held (n : Nat) : Bool :=
    seats.any fun seat => seat.number = n && !(seat.waited && seat.status.isSome)
  let n := (((List.range seats.length).map (· + 1)).find? fun n => !held n).getD (seats.length + 1)
  (n, seats.filter (·.number ≠ n))

/-- What a shell has for itself. -/
structure Context where
  /-- Which stream each open descriptor is on. -/
  descriptors : List (Nat × Nat)
  /-- The name that the script was called by. -/
  name : Octets
  parameters : List Octets
  vars : List Variable
  /-- What functions put back at their end, innermost first. -/
  frames : List (List Kept)
  functions : List (Octets × Command)
  /-- Names with the texts that take their place where a command may start. -/
  aliases : List (Octets × Octets)
  /-- The names of programs that were found on the search path, and whether the current directory
  was another one then. -/
  found : List (Octets × Bool)
  /-- The letters of the options that are on. -/
  options : List Char
  traps : List (Nat × Octets)
  /-- In a part that runs apart, the actions of the process that signals go to. -/
  outerTraps : Option (List (Nat × Octets))
  /-- While an action for a signal runs, the status before it. -/
  interrupted : Option Nat
  status : Nat
  /-- The status of the last commands whose output was taken. -/
  outputStatus : Nat
  line : Nat
  /-- The line that reading has come to. -/
  reached : Nat
  /-- The built-in command that is running. -/
  builtin : Option Octets
  /-- How many loops are running. -/
  loops : Nat
  /-- How many functions are running. -/
  calls : Nat
  /-- The number of the process that was last left running on its own. -/
  background : Option Nat
  /-- The commands that were left to run on their own, the last ones first. -/
  seats : List Seat
  /-- The route of the current directory. -/
  route : Disk.Route
  /-- The path of the current directory as it was gone to, links included. -/
  place : Octets
  /-- The number of the parameter that options are read from next. -/
  optionIndex : Nat
  /-- How many bytes of the parameter before that are read, unless all of them are. -/
  optionOffset : Option Nat
  /-- The permissions that new files are not given. -/
  mask : Nat

/-- Commands that were left to run on their own, by a shell as it was then. -/
structure Job where
  number : Nat
  context : Context
  body : Command

/-- A shell and what it shares with those that run apart from it. -/
structure State extends Context where
  tree : Disk.Tree
  streams : Array Stream
  documents : List (Nat × Word)
  nextDocument : Nat
  /-- Signals that were sent and not dealt with. -/
  pending : List Nat
  /-- The jobs that are still to be run. -/
  jobs : List Job
  nextProcess : Nat

/-- A part of a run. -/
abbrev Run := EStateM Stop State

/-- The number of the running process. -/
def processNumber : Nat := 4242

namespace State

/-- The files as the shell sees them. -/
def disk (s : State) : Disk :=
  ⟨s.tree, s.route⟩

def withDisk (s : State) (d : Disk) : State :=
  { s with tree := d.tree, route := d.current }

def binding? (s : State) (name : Octets) : Option Variable :=
  s.vars.find? (·.name = name)

def value? (s : State) (name : Octets) : Option Octets :=
  (s.binding? name).bind Variable.value

/-- The value of a variable, empty when it is not set. -/
def value (s : State) (name : String) : Octets :=
  (s.value? name.toList).getD []

/-- Programs that were found count no more when the search path changes. -/
private def touched (s : State) (name : Octets) : State :=
  if name = "PATH".toList then { s with found := [] } else s

/-- The variable in the stead of the one with its name. -/
def withVariable (s : State) (v : Variable) : State :=
  { s with vars := v :: s.vars.filter (·.name ≠ v.name) }.touched v.name

def withoutVariable (s : State) (name : Octets) : State :=
  { s with vars := s.vars.filter (·.name ≠ name) }.touched name

/-- The bytes that stand between fields. -/
def separators (s : State) : Octets :=
  (s.value? "IFS".toList).getD [' ', '\t', '\n']

/-- The path of the current directory without links. -/
def here (s : State) : Octets :=
  Octets.ofText ("/" ++ "/".intercalate s.route)

/-- The order in which option letters are listed. -/
def optionOrder : List Char :=
  ['p', 'u', 'b', 'a', 'C', 'E', 'V', 'v', 'x', 's', 'n', 'm', 'i', 'I', 'f', 'e']

def has (s : State) (option : Char) : Bool :=
  s.options.contains option

/-- The value of a parameter that holds one text. -/
def parameter? (s : State) (name : Octets) : Option Octets :=
  match name with
  | ['#'] => some (Octets.ofInt s.parameters.length)
  | ['?'] => some (Octets.ofInt s.status)
  | ['$'] => some (Octets.ofInt processNumber)
  | ['-'] => some (optionOrder.filter s.has)
  | ['!'] => s.background.map fun n => Octets.ofInt n
  | _ =>
    if name.all Char.isDigit then
      match (Number.digits 10 0 name).1 with
      | 0 => some s.name
      | n + 1 => s.parameters[n]?
    else s.value? name

/-- The variables that a program is given. -/
def exports (s : State) : List (Octets × Octets) :=
  s.vars.filterMap fun v =>
    if v.exported then v.value.map fun value => (v.name, value) else none

/-- The stream of a descriptor. -/
def stream? (s : State) (descriptor : Nat) : Option (Nat × Stream) := do
  let n ← s.descriptors.lookup descriptor
  return (n, ← s.streams[n]?)

/-- Puts a descriptor on a stream. -/
def connect (s : State) (descriptor stream : Nat) : State :=
  { s with
    descriptors := (descriptor, stream) :: s.descriptors.filter (·.1 ≠ descriptor) }

def close (s : State) (descriptor : Nat) : State :=
  { s with descriptors := s.descriptors.filter (·.1 ≠ descriptor) }

/-- Puts a descriptor on a new stream. -/
def openStream (s : State) (descriptor : Nat) (stream : Stream) : State :=
  { s with streams := s.streams.push stream }.connect descriptor s.streams.size

/-- The state when a new process was needed. -/
def vacated (s : State) : State :=
  { s with seats := (Seat.vacate s.seats).2 }

/-- The state when the process of a number has come to its end. -/
def ended (s : State) (process status : Nat) (signal : Option Nat) : State :=
  { s with seats := s.seats.map fun seat =>
      if seat.process = process then { seat with status := some status, signal := signal }
      else seat }

/-- The state after a part that ran apart: what it did to the world stays, what it did to itself
does not. -/
def adopt (before after : State) : State :=
  { after with toContext := before.toContext }

end State

/-- Writes bytes on a descriptor, and tells whether it was open. -/
def write (descriptor : Nat) (t : Octets) : Run Bool :=
  modifyGet fun s =>
    match s.stream? descriptor with
    | none => (false, s)
    | some (n, stream) =>
      let (stream, disk) := stream.write s.disk (Octets.bytes t)
      (true, { s.withDisk disk with streams := s.streams.setIfInBounds n stream })

/-- Writes a message of the shell about the line that is running. -/
def complain (message : Octets) : Run Unit := do
  let s ← get
  let builtin := match s.builtin with
    | some name => name ++ ": ".toList
    | none => []
  discard <| write 2 (s.name ++ ": ".toList ++ Octets.ofInt s.line ++ ": ".toList ++ builtin ++
    message ++ ['\n'])

/-- A fault: the message is written and the status is two. -/
def fault {α : Type} (message : Octets) : Run α := do
  complain message
  modify fun s => { s with status := 2 }
  throw .fault

def faultText {α : Type} (message : String) : Run α :=
  fault message.toList

/-- A number that is asked for as such. -/
def numberOf (t : Octets) : Run Int :=
  match Number.ofText? t with
  | some n => return n
  | none => fault ("Illegal number: ".toList ++ t)

def countOf (t : Octets) : Run Nat :=
  match Number.count? t with
  | some n => return n
  | none => fault ("Illegal number: ".toList ++ t)

/-- What of a text names a variable. -/
def variableName (t : Octets) : Octets :=
  t.takeWhile (· ≠ '=')

/-- Changes a variable, unless it is fixed or its name is none. -/
def changeVariable (name : Octets) (change : Variable → Variable) : Run Unit := do
  let name := variableName name
  if !Octets.isName name then
    fault (name ++ ": bad variable name".toList)
  let old := ((← get).binding? name).getD ⟨name, none, false, false⟩
  if old.fixed then
    fault (name ++ ": is read only".toList)
  modify (·.withVariable (change old))

/-- Gives a variable a value. The index of options is one that the shell itself looks at. -/
def assign (name value : Octets) : Run Unit := do
  let exportAll := (← get).has 'a'
  changeVariable name fun v =>
    { v with value := some value, exported := v.exported || exportAll }
  if name = "OPTIND".toList then
    modify fun s =>
      { s with optionIndex := max 1 ((Number.count? value).getD 1), optionOffset := none }

/-- Takes the value of a variable away. -/
def forget (name : Octets) : Run Unit := do
  changeVariable name id
  modify (·.withoutVariable (variableName name))

/-- Puts back what was kept. -/
def State.putBack (s : State) : Kept → State
  | .binding _ (some v) => s.withVariable v
  | .binding name none => s.withoutVariable name
  | .options letters => { s with options := letters }

private def keep (kept : State → Kept) : Run Unit :=
  modify fun s =>
    match s.frames with
    | frame :: rest => { s with frames := (kept s :: frame) :: rest }
    | [] => s

/-- Keeps what a variable is, to be restored at the end of the innermost frame. -/
def keepVariable (name : Octets) : Run Unit :=
  keep fun s => .binding name (s.binding? name)

def keepOptions : Run Unit :=
  keep fun s => .options s.options

/-- Runs a part with a frame of its own: what is kept in it is restored after it. -/
def framed {α : Type} (part : Run α) : Run α := do
  modify fun s => { s with frames := [] :: s.frames }
  try part
  finally
    modify fun s =>
      match s.frames with
      | [] => s
      | frame :: rest => frame.foldl State.putBack { s with frames := rest }

end ConnectorKit.Shell
