import ConnectorKit.Shell.Builtin.Job

/-!
Signals: what is done when one comes, and sending them. What a signal asks for is done after the
command that is running.
-/

set_option autoImplicit false
set_option relaxedAutoImplicit false

namespace ConnectorKit.Shell.Builtin

/-- The names of the usual signals, by their numbers; the end of the shell counts as one. -/
def usualSignals : List String :=
  ["EXIT", "HUP", "INT", "QUIT", "ILL", "TRAP", "ABRT", "BUS", "FPE", "KILL", "USR1", "SEGV",
   "USR2", "PIPE", "ALRM", "TERM", "16", "CHLD", "CONT", "STOP", "TSTP", "TTIN", "TTOU", "URG",
   "XCPU", "XFSZ", "VTALRM", "PROF", "WINCH", "IO", "PWR", "SYS", "32", "33"]

/-- The signals have smaller numbers. -/
def signalLimit : Nat := 65

/-- The name of a signal. Those for programs to use are counted from both ends. -/
def signalName (n : Nat) : Octets :=
  match usualSignals[n]? with
  | some name => name.toList
  | none =>
    (if n = 34 then "RTMIN"
    else if n < 50 then "RTMIN+" ++ toString (n - 34)
    else if n < 64 then "RTMAX-" ++ toString (64 - n)
    else "RTMAX").toList

/-- The signals that do nothing by themselves. -/
def harmless : List Nat := [17, 18, 23, 28]

/-- The signal that a name or a number means. -/
def signal? (t : Octets) : Option Nat :=
  if t.isEmpty then none
  else if t.all Char.isDigit then
    let n := (Number.digits 10 0 t).1
    if n < signalLimit then some n else none
  else
    let name := t.map Char.toUpper
    (List.range signalLimit).find? fun n => signalName n = name

private def setTrap (action : Option Octets) (signal : Nat) : Run Unit :=
  modify fun s =>
    let others := s.traps.filter (·.1 ≠ signal)
    { s with traps := match action with
        | some action => (signal, action) :: others
        | none => others }

private def setTraps (action : Option Octets) : List Octets → Run Nat
  | [] => return 0
  | name :: rest => do
    match signal? name with
    | none =>
      discard <| write 2 ("trap: ".toList ++ name ++ ": bad trap\n".toList)
      return 1
    | some n =>
      setTrap (if action = some ['-'] then none else action) n
      setTraps action rest

def trap (arguments : List Octets) : Run Nat := do
  let (_, arguments) ← options [] arguments
  match arguments with
  | [] =>
    let traps := (← get).traps.mergeSort fun a b => decide (a.1 ≤ b.1)
    print (traps.flatMap fun (n, action) =>
      "trap -- ".toList ++ Octets.quote action ++ ' ' :: signalName n ++ ['\n'])
  | [name] => setTraps none [name]
  | a :: rest =>
    if (Number.count? a).isSome && (signal? a).isSome then setTraps none (a :: rest)
    else setTraps (some a) rest

/-- Sends a signal to this process. -/
private def deliver (signal : Nat) : Run Unit := do
  let s ← get
  match (s.outerTraps.getD s.traps).lookup signal with
  | some action =>
    if signal = 9 then throw (.killed signal)
    else if !action.isEmpty then modify fun s => { s with pending := s.pending ++ [signal] }
  | none => if signal ≠ 0 && !harmless.contains signal then throw (.killed signal)

private def killUsage : String :=
  "Usage: kill [-s sigspec | -signum | -sigspec] [pid | job]... or\nkill -l [exitstatus]"

/-- Ends a job that is still to be run. -/
private def endJob (number signal : Nat) : Run Unit :=
  modify fun s =>
    { s.ended number (signal + 128) (some signal) with jobs := s.jobs.filter (·.number ≠ number) }

/-- Sends a signal to processes. No commands of a script are a group of processes. -/
private def killAll (signal : Nat) : List Octets → Run Nat
  | [] => return 0
  | a :: rest => do
    let isGroup := a.head? = some '-' || a.head? = some '%'
    let process ←
      if a.head? = some '%' then Seat.process <$> seat a
      else countOf (if isGroup then a.drop 1 else a)
    let s ← get
    let isJob := s.jobs.any (·.number = process)
    let failed ←
      if process = processNumber && !isGroup then do
        deliver signal
        pure false
      else if isJob && !isGroup then do
        if signal ≠ 0 && !harmless.contains signal then endJob process signal
        pure false
      else do
        complain "No such process\n".toList
        pure true
    return max (← killAll signal rest) (if failed then 1 else 0)

/-- The signal that an option asks for; the end of the shell is none. -/
private def killSignal? (t : Octets) : Option Nat :=
  match signal? t with
  | some 0 => if t.all Char.isDigit then some 0 else none
  | found => found

/-- Tells the names of signals. -/
private def listSignals : List Octets → Run Nat
  | [] => print ("0\n".toList ++
      (List.range signalLimit).tail.flatMap fun n => signalName n ++ ['\n'])
  | a :: _ => do
    let n ← countOf a
    let n := if 128 < n then n - 128 else n
    if n = 0 || signalLimit ≤ n then
      fault ("invalid signal number or exit status: ".toList ++ a)
    print (signalName n ++ ['\n'])

/-- The options of `kill`: whether names are asked for, which signal, and what follows. -/
private def killOptions : Nat → Bool → Option Nat → List Octets →
    Run (Bool × Option Nat × List Octets)
  | fuel + 1, lists, signal, ('-' :: c :: letters) :: rest => do
    match c, letters with
    | '-', [] => return (lists, signal, rest)
    | 'l', [] => killOptions fuel true signal rest
    | 'l', letters => killOptions fuel true signal (('-' :: letters) :: rest)
    | 's', letters =>
      let (name, rest) ← match letters, rest with
        | [], [] => faultText "No arg for -s option"
        | [], name :: rest => pure (name, rest)
        | letters, rest => pure (letters, rest)
      match killSignal? name with
      | some n => killOptions fuel lists (some n) rest
      | none => fault ("invalid signal number or name: ".toList ++ name)
    | c, _ => fault ("Illegal option -".toList ++ [c])
  | _, lists, signal, rest => return (lists, signal, rest)

def kill (arguments : List Octets) : Run Nat := do
  let (lists, signal, rest) ←
    match arguments with
    | ('-' :: name) :: rest =>
      match killSignal? name with
      | some n => pure (false, some n, rest)
      | none => killOptions ((arguments.map List.length).foldl (· + ·) 0 + 1) false none arguments
    | rest => pure (false, none, rest)
  match lists, signal, rest with
  | true, none, rest => listSignals rest
  | true, some _, [] => listSignals []
  | true, some _, _ :: _ | false, _, [] => faultText killUsage
  | false, signal, rest => killAll (signal.getD 15) rest

end ConnectorKit.Shell.Builtin
