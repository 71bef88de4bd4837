import ConnectorKit.Shell.Builtin.Table
import ConnectorKit.Shell.Reader.Command
import ConnectorKit.Shell.Redirect

/-!
Running commands. Each kind of command is run in one step by a runner for the commands inside of it,
and the runner itself is tied to its steps by fuel, which bounds how deep commands may stand in each
other. A command is tested when its status is looked at by another one: then a failure does not end
a strict shell. Jobs that run on their own are begun when their shell waits or makes other processes,
or where all output has to be there; until then only the shell itself goes on.
-/

set_option autoImplicit false
set_option relaxedAutoImplicit false

namespace ConnectorKit.Shell

/-- What a runner is asked for. -/
inductive Task where
  | command (tested : Bool) (c : Command)
  /-- The jobs that are still to be run. -/
  | jobs

/-- What runs the parts of a command. -/
structure Runner where
  run : Task → Run Unit

/-- Runs a command, tested or not. -/
def Runner.command (r : Runner) (tested : Bool) (c : Command) : Run Unit :=
  r.run (.command tested c)

/-- Runs the jobs that are still to be run. -/
def Runner.jobs (r : Runner) : Run Unit :=
  r.run .jobs

/-- How often a loop may turn. -/
def turnLimit : Nat := 1000000

/-- How deep commands may stand in each other. -/
def depthLimit : Nat := 20000

def setStatus (status : Nat) : Run Unit :=
  modify fun s => { s with status := status }

/-- A failure that nothing tests ends a shell that is strict. -/
def settle (tested : Bool) : Run Unit := do
  let s ← get
  if !tested && s.status ≠ 0 && s.has 'e' then throw .leave

/-! ### Text -/

/-- The first lines of a text. -/
def firstLines : Nat → Octets → Octets
  | 0, _ | _, [] => []
  | count + 1, c :: rest => c :: firstLines (if c = '\n' then count else count + 1) rest

/-- Runs the lines of a source, each as soon as it is read, and tells whether they were commands.
If asked for, what is read is shown. -/
def runLines (r : Runner) (tested shown : Bool) : Nat → Bool → Source → Run Bool
  | 0, _, _ => throw .exhausted
  | fuel + 1, ran, source => do
    let s ← get
    let tell (t : Octets) : Run Unit := do
      if shown && s.has 'v' then discard <| write 2 t
    match Reader.nextLine.run { source with
        aliases := s.aliases, next := s.nextDocument, documents := [] } with
    | .error m =>
      tell (firstLines (m.line + 1 - source.line) source.rest)
      modify fun s => { s with line := m.line }
      faultText ("Syntax error: " ++ m.reason.message)
    | .ok (command?, after) =>
      set { s with
        documents := after.documents ++ s.documents
        nextDocument := after.next
        reached := after.line }
      tell (source.rest.take (source.rest.length - after.rest.length))
      match command? with
      | none => return ran
      | some (.sequence []) => runLines r tested shown fuel ran after
      | some command =>
        r.command tested command
        runLines r tested shown fuel true after

/-- Runs a text, and tells whether there were commands in it. -/
def runText (r : Runner) (tested shown : Bool) (text : Octets) : Run Bool := do
  let reached := (← get).reached
  try runLines r tested shown (text.length + 2) false (Source.ofOctets text 0)
  finally modify fun s => { s with reached := reached }

/-! ### Signals and the end of a shell -/

/-- Runs the actions for the signals that were sent. The status is the one before, unless an action
ends the function that runs. -/
def answerSignals (r : Runner) : Run Unit := do
  let before ← get
  if before.outerTraps.isNone && !before.pending.isEmpty then
    set { before with pending := [] }
    for signal in before.pending.eraseDups.mergeSort do
      match before.traps.lookup signal with
      | none => pure ()
      | some action =>
        let status := before.interrupted.getD before.status
        modify fun s => { s with interrupted := some status }
        try
          discard <| runText r false false action
          setStatus status
        finally modify fun s => { s with interrupted := before.interrupted }

/-- Runs a part as all that a shell does: whatever ends it but a signal, its last action follows. -/
def finish (r : Runner) (part : Run Unit) : Run Unit := do
  toEnd part
  let s ← get
  match s.traps.lookup 0 with
  | none => pure ()
  | some action =>
    set { s with traps := s.traps.filter (·.1 ≠ 0), interrupted := some s.status }
    try
      discard <| runText r false false action
      setStatus s.status
    catch
      | .leave | .fault => pure ()
      | .breakLoops _ | .nextTurn _ | .back => setStatus s.status
      | stop => throw stop
where
  toEnd (part : Run Unit) : Run Unit :=
    try part catch
      | .killed signal => throw (.killed signal)
      | .exhausted => throw .exhausted
      | _ => pure ()

/-- Runs a part as a process of its own that starts as this one is, and gives its status. -/
def fork (r : Runner) (part : Run Unit) : Run Nat := do
  let before := (← get).vacated
  set { before with
    traps := before.traps.filter (·.2.isEmpty)
    outerTraps := some (before.outerTraps.getD before.traps)
    seats := [] }
  finish r part
  modifyGet fun after => (after.status % 256, before.adopt after)

/-- Runs a part apart from this shell, of which it leaves the status. -/
def apart (r : Runner) (part : Run Unit) : Run Unit := do
  r.jobs
  setStatus (← fork r part)

/-- Runs the jobs that are still to be run. They read nothing from outside. -/
def runJobs (r : Runner) : Run Unit := do
  let jobs := (← get).jobs
  modify fun s => { s with jobs := [] }
  for job in jobs do
    let before ← get
    set { before with toContext := job.context }
    let status ← fork r do
      modify (·.openStream 0 .nothing)
      r.command false job.body
    modify fun after => (before.adopt after).ended job.number status none

/-- The output of commands, without the line feeds at its end. -/
def capture (r : Runner) : Command → Run Octets
  | .sequence [] => return []
  | body => do
    r.jobs
    let n := (← get).streams.size
    modify fun s => { s with streams := s.streams.push (.ofBytes .empty) }
    let status ← fork r do
      modify (·.connect 1 n)
      r.command false body
    r.jobs
    modify fun s => { s with outputStatus := status }
    let s ← get
    let data := match s.streams[n]? with
      | some stream => stream.data s.disk
      | none => .empty
    let text := (Octets.ofBytes data).filter (· ≠ '\x00')
    return (text.reverse.dropWhile (· = '\n')).reverse

/-! ### Programs -/

/-- How a program ended. -/
inductive Ending where
  | exited (status : Nat)
  | killed (signal : Nat)

/-- A shell at its start. Of values for one name in its environment the first counts. -/
def State.initial (disk : Disk) (streams : Array Stream) (descriptors : List (Nat × Nat))
    (environment : List (Octets × Octets)) : State :=
  let s : State := {
    tree := disk.tree, route := disk.current, streams := streams, descriptors := descriptors
    name := [], parameters := [], vars := [], frames := [], functions := [], aliases := []
    found := [], documents := [], nextDocument := 0, options := [], traps := []
    outerTraps := none, pending := [], interrupted := none, status := 0, outputStatus := 0
    line := 0, reached := 0, builtin := none, loops := 0, calls := 0, background := none
    seats := [], jobs := [], nextProcess := processNumber + 1, place := [], optionIndex := 1
    optionOffset := none, mask := 18 }
  let s := own.foldl (fun s (name, value) => s.withVariable ⟨name, some value, false, false⟩) s
  let s := environment.foldr (fun (name, value) s =>
    if Octets.isName name then s.withVariable ⟨name, some value, true, false⟩ else s) s
  let s := fixed.foldl (fun s (name, value) =>
    let exported := (s.binding? name).any Variable.exported
    s.withVariable ⟨name, some value, exported, false⟩) s
  let place := match s.value? "PWD".toList with
    | some path =>
      let leadsHere := match disk.locate (Octets.text path) with
        | .ok r => r = disk.current
        | .error _ => false
      if path.head? = some '/' && leadsHere then path else s.here
    | none => s.here
  { s.withVariable ⟨"PWD".toList, some place, true, false⟩ with place := place }
where
  /-- Variables that the environment may replace. -/
  own : List (Octets × Octets) := [
    ("PATH".toList, "/usr/local/sbin:/usr/local/bin:/usr/sbin:/usr/bin:/sbin:/bin".toList),
    ("PS1".toList, "$ ".toList), ("PS2".toList, "> ".toList), ("PS4".toList, "+ ".toList)]
  /-- Variables that it may not. -/
  fixed : List (Octets × Octets) := [
    ("IFS".toList, " \t\n".toList), ("OPTIND".toList, "1".toList),
    ("PPID".toList, Octets.ofInt (processNumber - 1))]

/-- Runs a part as a program, which has the descriptors of this shell and an environment. -/
def asProgram (r : Runner) (environment : List (Octets × Octets)) (part : Run Unit) :
    Run Ending := do
  r.jobs
  let before ← get
  set (State.initial before.disk before.streams before.descriptors environment)
  let ending ← try
      finish r part
      r.jobs
      pure (.exited ((← get).status % 256))
    catch
      | .killed signal => pure (.killed signal)
      | stop => throw stop
  modify fun after => { before with tree := after.tree, streams := after.streams }
  return ending

/-- The options that a shell is called with: whether its first argument is a text to run, and the
arguments that are left. -/
def callOptions : Nat → List Octets → Run (Bool × List Octets)
  | fuel + 1, (sign :: letters) :: rest => do
    if sign = '-' ∧ (letters = [] ∨ letters = ['-']) then return (false, rest)
    else if sign = '-' ∨ sign = '+' then
      let switches := letters.filter fun c => c ≠ 'c' && c ≠ 'l'
      let (told, rest) ← Builtin.switchLetters (sign = '-') switches rest
      discard <| Builtin.say told
      let (inline, rest) ← callOptions fuel rest
      return (inline || letters.contains 'c', rest)
    else return (false, (sign :: letters) :: rest)
  | _, arguments => return (false, arguments)

/-- What is left to be read on a descriptor, which is read to its end. -/
def readAll (descriptor : Nat) : Run Octets :=
  modifyGet fun s =>
    match s.stream? descriptor with
    | none => ([], s)
    | some (n, stream) =>
      let data := stream.data s.disk
      (Octets.ofBytes (data.extract stream.position data.size), { s with
        streams := s.streams.setIfInBounds n { stream with position := data.size } })

/-- The shell as a program with arguments. -/
def shell (r : Runner) (name : Octets) (arguments : List Octets) : Run Unit := do
  modify fun s => { s with name := name }
  let (inline, arguments) ← callOptions arguments.length arguments
  match inline, arguments with
  | true, [] => faultText "-c requires an argument"
  | true, text :: [] => discard <| runText r false false text
  | true, text :: name :: parameters =>
    modify fun s => { s with name := name, parameters := parameters }
    discard <| runText r false false text
  | false, arguments =>
    if arguments.isEmpty || (← get).has 's' then
      modify fun s => { s with parameters := arguments }
      discard <| runText r false true (← readAll 0)
    else
      let path := arguments.headD []
      match (← get).disk.read (Octets.text path) with
      | .error f => fault (Target.refusal false path f)
      | .ok data =>
        modify fun s => { s with name := path, parameters := arguments.drop 1 }
        discard <| runText r false true (Octets.ofBytes data)

/-- The first program that can be run, or why the last one that was found cannot. -/
def firstProgram (d : Disk) : Disk.Fault → List Octets → Except Disk.Fault (Octets × Program)
  | f, [] => .error f
  | f, path :: rest =>
    match Program.load d path with
    | .ok program => .ok (path, program)
    | .error .missing | .error .notDirectory => firstProgram d f rest
    | .error g => firstProgram d g rest

/-- Runs a program. One that looks others up by name gives way to what it finds. -/
def launch (r : Runner) (environment : List (Octets × Octets)) :
    Nat → Octets → Program → List Octets → Run Ending
  | 0, _, _, _ => throw .exhausted
  | fuel + 1, path, program, arguments => do
    let d := (← get).disk
    match program with
    | .bare => asProgram r environment (shell r "/bin/sh".toList (path :: arguments))
    | .interpreted interpreter argument =>
      match Program.load d interpreter with
      | .ok program =>
        launch r environment fuel interpreter program (argument.toList ++ path :: arguments)
      | .error _ => return .exited 127
    | .known =>
      if shellPaths.contains (String.ofList path) then
        asProgram r environment (shell r path arguments)
      else
        let name := arguments.headD []
        let searchPath := (environment.lookup "PATH".toList).getD []
        match firstProgram d .missing (candidates searchPath name) with
        | .ok (path, program) => launch r environment fuel path program (arguments.drop 1)
        | .error f =>
          discard <| write 2 (path ++ ": '".toList ++ name ++ ("': " ++ f.words ++ "\n").toList)
          return .exited (if f = .noPermission then 126 else 127)

/-- How many programs may give way to each other. -/
def launchLimit : Nat := 100

/-- The status that the end of a program gives. -/
def statusOf : Ending → Run Nat
  | .exited status => return status
  | .killed signal => do
    Builtin.tellSignal signal
    return signal + 128

/-- Runs the first program that can be run of those at the paths, as the command of the name. -/
def runProgram (r : Runner) (name : Octets) (paths arguments : List Octets) :
    Run (Option Ending) := do
  let s ← get
  match firstProgram s.disk .missing paths with
  | .ok (path, program) =>
    set s.vacated
    return some (← launch r s.exports launchLimit path program arguments)
  | .error f =>
    complain (name ++ (": " ++ faultReason f).toList)
    setStatus (if f = .noPermission then 126 else 127)
    return none

/-! ### Built-in commands that run others -/

/-- Runs the arguments as a text. -/
def evalBuiltin (r : Runner) (tested : Bool) (arguments : List Octets) : Run Nat := do
  if ← runText r tested false ([' '].intercalate arguments) then return (← get).status
  else return 0

/-- The path of a file of the name on the search path. -/
def sourcePath (name : Octets) : Run Octets := do
  let s ← get
  match (s.paths name).find? fun path =>
      name.contains '/' || s.disk.lookup? (Octets.text path) matches some (.file _ _) with
  | some path => return path
  | none => fault (name ++ ": not found".toList)

/-- Runs a file in this shell. A return in it ends it. -/
def sourceBuiltin (r : Runner) : List Octets → Run Nat
  | [] => return 0
  | name :: _ => do
    let path ← sourcePath name
    let data ← match (← get).disk.read (Octets.text path) with
      | .ok data => pure data
      | .error .isDirectory => pure .empty
      | .error f => fault (Target.refusal false path f)
    modify fun s => { s with builtin := some path }
    try
      if ← runText r false true (Octets.ofBytes data) then return (← get).status
      else return 0
    catch
      | .back => return (← get).status
      | stop => throw stop

/-- Gives this process to a program; the last action of the shell is not run then. -/
def execBuiltin (r : Runner) : List Octets → Run Nat
  | [] => return 0
  | name :: arguments => do
    match ← runProgram r name ((← get).paths name) arguments with
    | none => throw .leave
    | some ending =>
      match ending, (← get).outerTraps with
      | .killed signal, none => throw (.killed signal)
      | ending, _ =>
        setStatus (← statusOf ending)
        modify fun s => { s with traps := [] }
        throw .leave

/-- The status that ends a shell: that of the argument, or else the last one. -/
def exitBuiltin (arguments : List Octets) : Run Nat := do
  let s ← get
  setStatus (← match arguments with
    | [] => pure (s.interrupted.getD s.status)
    | a :: _ => countOf a)
  throw .leave

def returnBuiltin (arguments : List Octets) : Run Nat := do
  match arguments with
  | [] => pure ()
  | a :: _ => setStatus (← countOf a)
  throw .back

/-- Ends loops or their turns; outside of loops nothing is done. -/
def loopBuiltin (stop : Nat → Stop) (arguments : List Octets) : Run Nat := do
  let count ← match arguments with
    | [] => pure 1
    | a :: _ => countOf a
  if count = 0 then faultText "Illegal number: 0"
  setStatus 0
  match min count (← get).loops with
  | 0 => return 0
  | count => throw (stop count)

/-- Lets all jobs come to their end, and gives the status of the last one that is asked for. -/
def waitBuiltin (r : Runner) (arguments : List Octets) : Run Nat := do
  r.jobs
  let (_, arguments) ← Builtin.options [] arguments
  if arguments.isEmpty then
    modify fun s => { s with seats := s.seats.map ({ · with waited := true }) }
  let statuses ← arguments.mapM fun a => do
    let process ← if a.head? = some '%' then Seat.process <$> Builtin.seat a else countOf a
    match (← get).seats.find? (·.process = process) with
    | none => return 127
    | some seat =>
      if !seat.waited then seat.signal.forM Builtin.tellSignal
      modify fun s => { s with seats := s.seats.map fun seat =>
        if seat.process = process then { seat with waited := true } else seat }
      return seat.status.getD 127
  return statuses.getLastD 0

/-- What a built-in command does. -/
def builtin (r : Runner) (tested : Bool) (name : Octets) (arguments : List Octets) : Run Nat :=
  match String.ofList name with
  | "eval" => evalBuiltin r tested arguments
  | "." => sourceBuiltin r arguments
  | "exec" => execBuiltin r arguments
  | "exit" => exitBuiltin arguments
  | "return" => returnBuiltin arguments
  | "break" => loopBuiltin .breakLoops arguments
  | "continue" => loopBuiltin .nextTurn arguments
  | "wait" => waitBuiltin r arguments
  | name => ((Builtin.named? name).getD fun _ => return 0) arguments

/-- Runs a built-in command. A fault in one that is not special only fails. -/
def runBuiltin (r : Runner) (tested special : Bool) (name : Octets) (arguments : List Octets) :
    Run Unit := do
  let outer := (← get).builtin
  modify fun s => { s with builtin := some name }
  try
    setStatus (← builtin r tested name arguments)
  catch
    | .fault => if special then throw .fault
    | stop => throw stop
  finally modify fun s => { s with builtin := outer }

/-- How many functions may run inside each other. -/
def callLimit : Nat := 1000

/-- Runs the body of a function with parameters of its own. A call that is refused as one too many
is not taken off the count again. -/
def runFunction (r : Runner) (tested : Bool) (body : Command) (parameters : List Octets) :
    Run Unit := do
  let before ← get
  modify fun s => { s with calls := s.calls + 1 }
  if before.calls ≥ callLimit then
    faultText "Maximum function recursion depth (1000) reached"
  modify fun s => { s with
    parameters := parameters, loops := 0, optionIndex := 1, optionOffset := none }
  try r.command tested body
  catch
    | .back => pure ()
    | stop => throw stop
  finally modify fun s => { s with
    calls := s.calls - 1
    parameters := before.parameters
    loops := before.loops
    optionIndex := before.optionIndex
    optionOffset := before.optionOffset }

/-! ### Simple commands -/

/-- The words of a simple command, expanded. -/
structure Call where
  /-- All fields. -/
  fields : List Octets
  /-- The fields from the name of the command on. -/
  command : List Octets
  /-- Whether the name can be that of a function. -/
  functions : Bool
  /-- Whether the command is a special one; it is not, where `command` stands before it. -/
  special : Bool

namespace Call

/-- Words of which the first ones are expanded. -/
structure Progress where
  /-- The fields before those of the command. -/
  passed : List Octets
  fields : List Octets
  rest : List Word

/-- Expands words until there is a field. -/
def fill (capture : Command → Run Octets) (passed : List Octets) : List Word → Run Progress
  | [] => return ⟨passed, [], []⟩
  | w :: rest => do
    match ← Word.fields capture w with
    | [] => fill capture passed rest
    | fields => return ⟨passed, fields, rest⟩

/-- Passes over the next field. -/
def Progress.next (capture : Command → Run Octets) (p : Progress) : Run Progress :=
  match p.fields with
  | first :: second :: more => return ⟨p.passed ++ [first], second :: more, p.rest⟩
  | fields => fill capture (p.passed ++ fields) p.rest

/-- Passes over the options of `command`, and tells whether the name of a command follows. -/
def passOptions (capture : Command → Run Octets) : Nat → Progress → Run (Bool × Progress)
  | 0, p => return (false, p)
  | fuel + 1, p => do
    match p.fields with
    | [] => return (false, p)
    | ['-', '-'] :: _ =>
      let p ← p.next capture
      return (!p.fields.isEmpty, p)
    | ('-' :: c :: letters) :: _ =>
      if (c :: letters).all (· = 'p') then passOptions capture fuel (← p.next capture)
      else return (false, p)
    | _ => return (true, p)

/-- Passes over each `command` that only says that what follows is no function. -/
def passCommand (capture : Command → Run Octets) : Nat → Bool → Progress → Run (Bool × Progress)
  | 0, functions, p => return (functions, p)
  | fuel + 1, functions, p => do
    let s ← get
    let name := "command".toList
    if p.fields.head? ≠ some name || (functions && (s.functions.lookup name).isSome) then
      return (functions, p)
    let (found, next) ← passOptions capture (fuel + 1) (← p.next capture)
    if found then passCommand capture fuel false next
    else
      return (functions, ⟨p.passed, (next.passed ++ next.fields).drop p.passed.length, next.rest⟩)

/-- A word of a command that sets variables: one that assigns is a field of its own. -/
def declaration (capture : Command → Run Octets) (w : Word) : Run (List Octets) := do
  match Reader.assignment? w with
  | some (name, value) => return [name ++ '=' :: (← Word.assigned capture value)]
  | none => Word.fields capture w

def declares (name : Octets) : Bool :=
  ["alias", "export", "local", "readonly"].contains (String.ofList name)

def ofWords (capture : Command → Run Octets) (words : List Word) : Run Call := do
  let p ← fill capture [] words
  let special := match p.fields with
    | [] => false
    | name :: _ => specialCommands.contains (String.ofList name)
  let (functions, p) ← passCommand capture (words.length + 1) true p
  let name := p.fields.headD []
  let s ← get
  let declaring := declares name && !(functions && (s.functions.lookup name).isSome)
  let rest ← p.rest.mapM (if declaring then declaration capture else Word.fields capture)
  let command := p.fields ++ rest.flatten
  return ⟨p.passed ++ command, command, functions, special⟩

/-- Does what the command says. -/
def run (r : Runner) (tested : Bool) (c : Call) : Run Unit := do
  let s ← get
  match c.command with
  | [] => setStatus s.outputStatus
  | name :: arguments =>
    match s.meaning c.functions name with
    | .function body => runFunction r tested body arguments
    | .special => runBuiltin r tested c.special name arguments
    | .ordinary => runBuiltin r tested false name arguments
    | .program path =>
      modify (·.remember name)
      let paths := (s.paths name).dropWhile (· ≠ path)
      match ← runProgram r name paths arguments with
      | some ending => setStatus (← statusOf ending)
      | none => pure ()
    | .unusable f =>
      complain (name ++ (": " ++ faultReason f).toList)
      setStatus 127

end Call

/-- The text that stands before a trace. -/
def traceLead (r : Runner) : Run Octets := do
  let s ← get
  match Reader.quotedText (s.value "PS4") s.nextDocument with
  | .error _ => return []
  | .ok (word, after) =>
    set { s with
      options := s.options.filter (· ≠ 'x')
      documents := after.documents ++ s.documents
      nextDocument := after.next }
    let lead ← Word.contents (capture r) word
    modify fun t => { t with options := s.options }
    return lead

/-- Tells the fields of a command on the stream that errors went to before the command. -/
def trace (r : Runner) (errors : Option Nat) (fields : List Octets) : Run Unit := do
  let s ← get
  match s.has 'x', errors with
  | true, some stream =>
    let lead ← traceLead r
    modify (·.connect 2 stream)
    discard <| write 2 (lead ++ [' '].intercalate fields ++ ['\n'])
    modify fun t => { t with descriptors := s.descriptors }
  | _, _ => pure ()

/-- Gives variables the values of the assignments before a command, and gives their texts. Where
the command has them for itself, they are put back after it. -/
def assignAll (capture : Command → Run Octets) (own exported : Bool)
    (assignments : List (Octets × Word)) : Run (List Octets) :=
  assignments.mapM fun (name, w) => do
    let value ← Word.assigned capture w
    if own then keepVariable name
    assign name value
    if exported then changeVariable name ({ · with exported := true })
    return name ++ '=' :: value

/-- Runs a simple command: words are expanded first, then redirections, then assignments. -/
def simple (r : Runner) (tested : Bool) (line : Nat) (assignments : List (Octets × Word))
    (words : List Word) (redirections : List Redirection) : Run Unit := do
  modify fun s => { s with line := line, outputStatus := 0 }
  let c ← Call.ofWords (capture r) words
  let errors := (← get).descriptors.lookup 2
  let targets ← redirections.mapM (Target.ofRedirection (capture r))
  let isExec := c.command.head? = some "exec".toList
  let own := !c.special && !c.command.isEmpty
  let part : Run Unit := do
    let assigned ← assignAll (capture r) own (own || (isExec && 1 < c.command.length)) assignments
    trace r errors (assigned ++ c.fields)
    c.run r tested
  let all := redirected (capture r) targets isExec part
  if !(← if own then framed all else all) then
    setStatus 2
    if c.special then throw .fault
  answerSignals r
  settle tested

/-! ### Compound commands -/

/-- How a loop goes on. -/
inductive Turn where
  | done
  /-- The next turn was asked for. -/
  | again
  | over

/-- Runs a part of a turn of a loop. -/
def turn (part : Run Unit) : Run Turn := do
  try
    part
    return .done
  catch
    | .breakLoops (count + 2) => throw (.breakLoops (count + 1))
    | .nextTurn (count + 2) => throw (.nextTurn (count + 1))
    | .breakLoops _ => return .over
    | .nextTurn _ => return .again
    | stop => throw stop

def inLoop (part : Run Unit) : Run Unit := do
  modify fun s => { s with loops := s.loops + 1 }
  try part
  finally modify fun s => { s with loops := s.loops - 1 }

/-- Runs the turns of a loop whose test is a command; the status is that of the last turn. -/
def repeatLoop (r : Runner) (tested whileTrue : Bool) (test body : Command) :
    Nat → Nat → Run Unit
  | 0, _ => throw .exhausted
  | fuel + 1, status => do
    match ← turn (r.command true test) with
    | .over => setStatus status
    | .again => repeatLoop r tested whileTrue test body fuel status
    | .done =>
      if ((← get).status = 0) ≠ whileTrue then setStatus status
      else
        match ← turn (r.command tested body) with
        | .over => pure ()
        | _ => repeatLoop r tested whileTrue test body fuel (← get).status

/-- Runs a body for one value of a variable after the other. -/
def runEach (r : Runner) (tested : Bool) (name : Octets) (body : Command) :
    List Octets → Run Unit
  | [] => pure ()
  | value :: rest => do
    assign name value
    match ← turn (r.command tested body) with
    | .over => pure ()
    | _ => runEach r tested name body rest

/-- Runs the first branch with a pattern that covers the text. -/
def runChoice (r : Runner) (tested : Bool) (text : Octets) :
    List (List Word × Command) → Run Unit
  | [] => setStatus 0
  | (patterns, body) :: rest => do
    let fits ← patterns.anyM fun w => do
      return Glyph.covers (← Word.pattern (capture r) w) text
    if fits then
      match body with
      | .sequence [] => setStatus 0
      | body => r.command tested body
    else runChoice r tested text rest

/-- Keeps in mind the programs that stages name. -/
def rememberAll (stages : List Command) : Run Unit :=
  stages.forM fun
    | .simple _ _ ([.text name false] :: _) _ =>
      if Octets.isName name then modify (·.remember name) else return ()
    | _ => return ()

/-- Runs stages apart, each with the output of the one before it as its input. -/
def runStages (r : Runner) (tested : Bool) (status : Nat) : Option Nat → List Command → Run Unit
  | _, [] => pure ()
  | input, stage :: rest => do
    setStatus status
    let n := (← get).streams.size
    let isLast := rest.isEmpty
    if !isLast then modify fun s => { s with streams := s.streams.push (.ofBytes .empty) }
    apart r do
      input.forM fun stream => modify (·.connect 0 stream)
      if !isLast then modify (·.connect 1 n)
      r.command tested stage
    if !isLast then
      r.jobs
      runStages r tested status (some n) rest

/-- Runs a command, where a runner for the commands in it is given. -/
def step (r : Runner) (tested : Bool) : Command → Run Unit
  | .simple line assignments words redirections =>
    simple r tested line assignments words redirections
  | .sequence items => items.forM (r.command tested)
  | .both first second => do
    r.command true first
    if (← get).status = 0 then r.command tested second
  | .either first second => do
    r.command true first
    if (← get).status ≠ 0 then r.command tested second
  | .negation body => do
    r.command true body
    setStatus (if (← get).status = 0 then 1 else 0)
  | .branch test yes no => do
    r.command true test
    if (← get).status = 0 then r.command tested yes
    else match no with
      | .sequence [] => setStatus 0
      | no => r.command tested no
  | .loop whileTrue test body => inLoop (repeatLoop r tested whileTrue test body turnLimit 0)
  | .forEach line name words body => do
    modify fun s => { s with line := line }
    let values ← match words with
      | some ws => List.flatten <$> ws.mapM (Word.fields (capture r))
      | none => pure (← get).parameters
    if values.isEmpty then setStatus 0
    else inLoop (runEach r tested name body values)
  | .choice line subject branches => do
    modify fun s => { s with line := line }
    runChoice r tested (← Word.text (capture r) subject) branches
  | .define name body =>
    modify fun s => { s with
      functions := (name, body) :: s.functions.filter (·.1 ≠ name)
      status := 0 }
  | .redirected line body redirections => do
    modify fun s => { s with line := line }
    let targets ← redirections.mapM (Target.ofRedirection (capture r))
    if !(← redirected (capture r) targets false (r.command tested body)) then
      setStatus 2
      settle tested
  | .subshell line body redirections => do
    modify fun s => { s with line := line }
    let targets ← redirections.mapM (Target.ofRedirection (capture r))
    apart r do
      if ← Target.connectAll (capture r) false targets then r.command tested body
      else setStatus 2
    answerSignals r
    settle tested
  | .pipe stages => do
    rememberAll stages
    runStages r tested (← get).status none stages
    answerSignals r
    settle tested
  | .background body =>
    let size := match body with
      | .pipe stages => stages.length
      | _ => 1
    modify fun s =>
      let (n, others) := Seat.vacate s.seats
      { s with
        jobs := s.jobs ++ [⟨s.nextProcess, s.toContext, body⟩]
        seats := ⟨n, s.nextProcess, size, none, none, false⟩ :: others
        nextProcess := s.nextProcess + 1
        background := some s.nextProcess
        status := 0 }

/-- Runs commands that stand so deep in each other at most. Where nothing is to be run, commands are
only read. -/
def run : Nat → Runner
  | 0 => ⟨fun _ => throw .exhausted⟩
  | fuel + 1 => ⟨fun
    | .command tested c => do
      if !(← get).has 'n' then step (run fuel) tested c
    | .jobs => runJobs (run fuel)⟩

end ConnectorKit.Shell
