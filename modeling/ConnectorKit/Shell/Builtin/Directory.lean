import ConnectorKit.Shell.Builtin.Basic

/-!
The current directory. It is kept as the path that was gone to, and as the place that this is.
-/

set_option autoImplicit false
set_option relaxedAutoImplicit false

namespace ConnectorKit.Shell.Builtin

/-- A path without dots and double slashes, but for two slashes at its start; two dots take the name
before them away. -/
def normalize (path : Octets) : Octets :=
  let lead := if (path.takeWhile (· = '/')).length = 2 then ['/', '/'] else ['/']
  let names := (Text.Search.splitChars '/' path).foldl (fun names part =>
    if part.isEmpty ∨ part = ['.'] then names
    else if part = ['.', '.'] then names.dropLast
    else names ++ [part]) []
  lead ++ ['/'].intercalate names

/-- Makes a directory the current one, if it is one. -/
def enter (physical : Bool) (path : Octets) : Run Bool := do
  let s ← get
  let joined := if path.head? = some '/' then path
    else (if s.place = ['/'] then [] else s.place) ++ '/' :: path
  let target := if physical then (if path.isEmpty then ['.'] else path) else normalize joined
  match s.disk.searchStart? (Octets.text target) with
  | none => return false
  | some r =>
    modify fun s => { s with route := r, found := s.found.map fun (n, _) => (n, true) }
    let here := (← get).here
    let place := if physical then here else target
    assign "OLDPWD".toList s.place
    changeVariable "OLDPWD".toList ({ · with exported := true })
    assign "PWD".toList place
    changeVariable "PWD".toList ({ · with exported := true })
    modify ({ · with place := place })
    return true

/-- Whether the search path for directories is left aside for a path. -/
private def isExplicit (path : Octets) : Bool :=
  path.head? = some '/' ||
    match (Text.Search.splitChars '/' path).head? with
    | some ['.'] | some ['.', '.'] => true
    | _ => false

/-- The directories that a path may mean, each with whether its name is printed. -/
private def directoryChoices (s : State) (path : Octets) : List (Octets × Bool) :=
  if isExplicit path then []
  else match s.value? "CDPATH".toList with
    | none => []
    | some t => (Text.Search.splitChars ':' t).map fun directory =>
        if directory.isEmpty then (path, false) else (directory ++ '/' :: path, true)

def changeDirectory (arguments : List Octets) : Run Nat := do
  let (letters, arguments) ← options ['L', 'P'] arguments
  let physical := letters.getLast? = some 'P'
  let s ← get
  let (path, back) := match arguments with
    | [] => (s.value "HOME", false)
    | ['-'] :: _ => (s.value "OLDPWD", true)
    | path :: _ => (path, false)
  let chosen := (directoryChoices s path).find? fun (p, _) => s.disk.isDirectory (Octets.text p)
  let (target, printed) := chosen.getD (path, false)
  if ← enter physical target then
    if back || printed then print ((← get).place ++ ['\n']) else return 0
  else fault ("can't cd to ".toList ++ path)

def printDirectory (arguments : List Octets) : Run Nat := do
  let (letters, _) ← options ['L', 'P'] arguments
  let s ← get
  print ((if letters.getLast? = some 'P' then s.here else s.place) ++ ['\n'])

end ConnectorKit.Shell.Builtin
