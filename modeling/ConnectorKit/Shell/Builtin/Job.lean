import ConnectorKit.Shell.Builtin.Basic

/-!
Names of the commands that a shell left to run on their own, and what is told of these.
-/

set_option autoImplicit false
set_option relaxedAutoImplicit false

namespace ConnectorKit.Shell.Builtin

/-- The commands that a name with a percent sign means. As their text is not kept, a name that asks
for a text finds them only if it asks for the empty one. -/
def seat (name : Octets) : Run Seat := do
  let seats := (← get).seats
  let noneSuch : Run Seat := fault ("No such job: ".toList ++ name)
  match name.drop 1 with
  | [] | ['%'] | ['+'] =>
    match seats with
    | current :: _ => return current
    | [] => faultText "No current job"
  | ['-'] =>
    match seats with
    | _ :: previous :: _ => return previous
    | _ => faultText "No previous job"
  | ['?'] =>
    match seats with
    | [only] => return only
    | [] => noneSuch
    | _ => fault (name ++ ": ambiguous".toList)
  | t =>
    let n := (Number.digits 10 0 t).1
    match seats.find? fun seat => t.all Char.isDigit && seat.number = n with
    | some found => return found
    | none => noneSuch

/-- What is said of processes that a signal ended. -/
def signalWords : Nat → String
  | 1 => "Hangup"
  | 3 => "Quit"
  | 4 => "Illegal instruction"
  | 5 => "Trace/breakpoint trap"
  | 6 => "Aborted"
  | 7 => "Bus error"
  | 8 => "Floating point exception"
  | 9 => "Killed"
  | 10 => "User defined signal 1"
  | 11 => "Segmentation fault"
  | 12 => "User defined signal 2"
  | 14 => "Alarm clock"
  | 15 => "Terminated"
  | 16 => "Stack fault"
  | 24 => "CPU time limit exceeded"
  | 25 => "File size limit exceeded"
  | 26 => "Virtual timer expired"
  | 27 => "Profiling timer expired"
  | 29 => "I/O possible"
  | 30 => "Power failure"
  | 31 => "Bad system call"
  | n => "Real-time signal " ++ toString (n - 34)

/-- Says what signal ended a process, unless it is one that needs no words. -/
def tellSignal (signal : Nat) : Run Unit := do
  if signal ≠ 2 ∧ signal ≠ 13 then
    discard <| write 2 (signalWords signal ++ "\n").toList

/-- What is told of commands. -/
private def seatLine (seats : List Seat) (withProcess : Bool) (seat : Seat) : Octets :=
  let isAt (n : Nat) : Bool := (seats[n]?.map Seat.number) = some seat.number
  let sign := if isAt 0 then "+" else if isAt 1 then "-" else " "
  let state := match seat.status, seat.signal with
    | none, _ => "Running"
    | some _, some signal => signalWords signal
    | some 0, none => "Done"
    | some n, none => "Done(" ++ toString n ++ ")"
  let line := "[" ++ toString seat.number ++ "] " ++ sign ++ " " ++
    (if withProcess then toString seat.process ++ " " else "") ++ state
  (line ++ String.ofList (List.replicate (max 1 (33 - line.length)) ' ') ++
    String.join (List.replicate (seat.size - 1) " | ") ++ "\n").toList

/-- Tells of commands. Those that have come to their end are then forgotten. -/
private def tell (withProcess : Bool) (found : Seat) : Run Octets :=
  modifyGet fun s =>
    (seatLine s.seats withProcess found,
      if found.status.isSome then
        { s with seats := s.seats.filter (·.number ≠ found.number) }
      else s)

/-- Tells of the commands that are named, or of all. -/
def jobs (arguments : List Octets) : Run Nat := do
  let (letters, arguments) ← options ['l', 'p'] arguments
  let show_ (found : Seat) : Run Octets :=
    if letters.contains 'p' then return Octets.ofInt found.process ++ ['\n']
    else tell (letters.contains 'l') found
  let lines ←
    if arguments.isEmpty then (← get).seats.mapM show_
    else arguments.mapM fun a => do show_ (← seat a)
  print lines.flatten

/-- Brings commands to the front or lets them go on; no commands of a script can be. -/
def resume (arguments : List Octets) : Run Nat := do
  let (_, arguments) ← options [] arguments
  let name := arguments.head?
  discard <| seat (name.getD ['%'])
  fault ("job ".toList ++ name.getD "(null)".toList ++ " not created under job control".toList)

end ConnectorKit.Shell.Builtin
