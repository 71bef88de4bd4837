import ConnectorKit.Shell.Builtin.Basic

/-!
Variables, parameters and the options of the shell.
-/

set_option autoImplicit false
set_option relaxedAutoImplicit false

namespace ConnectorKit.Shell.Builtin

private def comesFirst (a b : Octets) : Bool :=
  !decide (b < a)

/-- The lines that tell the variables of a kind, in the order of their names. -/
def list (lead : Octets) (kind : Variable → Bool) : Run Nat := do
  let vs := ((← get).vars.filter kind).mergeSort fun a b => comesFirst a.name b.name
  print (vs.flatMap fun v =>
    lead ++ v.name ++ (match v.value with
      | some value => '=' :: Octets.quote value
      | none => []) ++ ['\n'])


/-- Gives variables a mark, and a value where one is written. -/
def declare (mark : Variable → Variable) : List Octets → Run Unit
  | [] => return ()
  | a :: rest => do
    match Octets.assignment? a with
    | some (name, value) =>
      assign name value
      changeVariable name mark
    | none =>
      match (← get).binding? a with
      | some v => modify (·.withVariable (mark v))
      | none => changeVariable a mark
    declare mark rest

def export_ (arguments : List Octets) : Run Nat := do
  let (letters, arguments) ← options ['p'] arguments
  if letters.isEmpty && !arguments.isEmpty then
    declare ({ · with exported := true }) arguments
    return 0
  else list "export ".toList Variable.exported

def readonly (arguments : List Octets) : Run Nat := do
  let (letters, arguments) ← options ['p'] arguments
  if letters.isEmpty && !arguments.isEmpty then
    declare ({ · with fixed := true }) arguments
    return 0
  else list "readonly ".toList Variable.fixed

/-- Makes variables those of the function that runs; they keep their values until new ones are
given. -/
def makeLocal (arguments : List Octets) : Run Nat := do
  if (← get).frames.isEmpty then faultText "not in a function"
  for a in arguments do
    match Octets.assignment? a with
    | some (name, value) =>
      keepVariable name
      assign name value
    | none =>
      if a = ['-'] then keepOptions
      else
        if !Octets.isName a then fault (a ++ ": bad variable name".toList)
        keepVariable a
  return 0

def unset (arguments : List Octets) : Run Nat := do
  let (letters, arguments) ← options ['v', 'f'] arguments
  for a in arguments do
    if letters.getLast? = some 'f' then
      modify fun s => { s with functions := s.functions.filter (·.1 ≠ a) }
    else forget a
  return 0

/-- The options by their long names; some of them have no letter. -/
def longOptions : List (String × Option Char) := [
  ("errexit", some 'e'), ("noglob", some 'f'), ("ignoreeof", some 'I'),
  ("interactive", some 'i'), ("monitor", some 'm'), ("noexec", some 'n'), ("stdin", some 's'),
  ("xtrace", some 'x'), ("verbose", some 'v'), ("vi", some 'V'), ("emacs", some 'E'),
  ("noclobber", some 'C'), ("allexport", some 'a'), ("notify", some 'b'), ("nounset", some 'u'),
  ("privileged", some 'p'), ("nolog", none), ("debug", none)]

/-- The lines that tell all options, either for readers or as commands. -/
def optionLines (s : State) (asCommands : Bool) : Octets :=
  (if asCommands then [] else "Current option settings\n".toList) ++
    longOptions.flatMap fun (name, letter) =>
      let on := letter.any s.has
      let line := if asCommands then "set " ++ (if on then "-" else "+") ++ "o " ++ name
        else name ++ String.ofList (List.replicate (16 - name.length) ' ') ++
          if on then "on" else "off"
      (line ++ "\n").toList

def switch (on : Bool) (letter : Char) : Run Unit :=
  modify fun s =>
    let others := s.options.filter (· ≠ letter)
    { s with options := if on then letter :: others else others }

/-- Switches the options that letters stand for; each letter `o` takes a name from those that
follow, or tells all options if there is none. What is told and the names that are left are given
back. -/
def switchLetters (on : Bool) : Octets → List Octets → Run (Octets × List Octets)
  | [], rest => return ([], rest)
  | 'o' :: letters, rest => do
    match rest with
    | [] =>
      let lines := optionLines (← get) (!on)
      let (told, rest) ← switchLetters on letters []
      return (lines ++ told, rest)
    | name :: rest =>
      match longOptions.lookup (String.ofList name) with
      | some letter =>
        letter.forM (switch on)
        switchLetters on letters rest
      | none => fault ("Illegal option -o ".toList ++ name)
  | letter :: letters, rest => do
    if longOptions.any (·.2 = some letter) then switch on letter
    else fault ("Illegal option -".toList ++ [letter])
    switchLetters on letters rest

/-- Switches options up to the first argument that is none, and gives what is told and what
follows; nothing where the parameters stay as they are. -/
def readSwitches (told : Octets) : Nat → List Octets → Run (Octets × Option (List Octets))
  | 0, _ => return (told, none)
  | _, [] => return (told, none)
  | fuel + 1, a :: rest => do
    match a with
    | ['-'] =>
      switch false 'x'
      switch false 'v'
      return (told, if rest.isEmpty then none else some rest)
    | ['-', '-'] => return (told, some rest)
    | '-' :: letters =>
      let (more, rest) ← switchLetters true letters rest
      readSwitches (told ++ more) fuel rest
    | '+' :: letters =>
      let (more, rest) ← switchLetters false letters rest
      readSwitches (told ++ more) fuel rest
    | _ => return (told, some (a :: rest))

def setParameters (parameters : List Octets) : Run Unit :=
  modify fun s =>
    { s with parameters := parameters, optionIndex := 1, optionOffset := none }

def set_ (arguments : List Octets) : Run Nat := do
  if arguments.isEmpty then list [] fun v => v.value.isSome
  else
    let (told, parameters) ← readSwitches [] (arguments.length + 1) arguments
    parameters.forM setParameters
    print told

def shift (arguments : List Octets) : Run Nat := do
  let count ← match arguments with
    | [] => pure 1
    | a :: _ => countOf a
  if (← get).parameters.length < count then faultText "can't shift that many"
  setParameters ((← get).parameters.drop count)
  return 0

/-- The word that options are read from, and how many of its bytes are read. -/
private def optionWord? (s : State) (arguments : List Octets) : Option (Octets × Nat × Nat) :=
  let current := do
    let offset ← s.optionOffset
    let word ← if 1 < s.optionIndex then arguments[s.optionIndex - 2]? else none
    if offset < word.length then some (word, offset, s.optionIndex) else none
  match current with
  | some found => some found
  | none =>
    match arguments[s.optionIndex - 1]? with
    | some ('-' :: c :: rest) => some ('-' :: c :: rest, 1, s.optionIndex + 1)
    | _ => none

private def endOptions (index : Nat) (name : Octets) : Run Nat := do
  assign "OPTIND".toList (Octets.ofInt index)
  assign name ['?']
  modify fun s => { s with optionIndex := index, optionOffset := none }
  return 1

/-- Reads the next option of the arguments into a variable. -/
def nextOption (letters name : Octets) (arguments : List Octets) : Run Nat := do
  let s ← get
  match optionWord? s arguments with
  | none => endOptions s.optionIndex name
  | some (['-', '-'], _, index) => endOptions index name
  | some (word, offset, index) =>
    let quiet := letters.head? = some ':'
    let letter := (word[offset]?).getD '?'
    let rest := word.drop (offset + 1)
    let known := (if quiet then letters.drop 1 else letters).dropWhile (· ≠ letter)
    let finish (index : Nat) (offset : Option Nat) (found : Char) : Run Nat := do
      assign "OPTIND".toList (Octets.ofInt index)
      assign name [found]
      modify fun s => { s with optionIndex := index, optionOffset := offset }
      return 0
    let next := if rest.isEmpty then none else some (offset + 1)
    let argument := "OPTARG".toList
    match known with
    | [] =>
      if quiet then assign argument [letter]
      else
        discard <| write 2 ("Illegal option -".toList ++ [letter, '\n'])
        forget argument
      finish index next '?'
    | _ :: ':' :: _ =>
      if !rest.isEmpty then
        assign argument rest
        finish index none letter
      else match arguments[index - 1]? with
        | some a =>
          assign argument a
          finish (index + 1) none letter
        | none =>
          if quiet then
            assign argument [letter]
            finish index next ':'
          else
            discard <| write 2 ("No arg for -".toList ++ letter :: " option\n".toList)
            forget argument
            finish index next '?'
    | _ =>
      assign argument []
      finish index next letter

def getopts (arguments : List Octets) : Run Nat := do
  let (_, arguments) ← options [] arguments
  match arguments with
  | letters :: name :: [] => nextOption letters name (← get).parameters
  | letters :: name :: rest => nextOption letters name rest
  | _ => faultText "Usage: getopts optstring var [arg...]"

end ConnectorKit.Shell.Builtin
