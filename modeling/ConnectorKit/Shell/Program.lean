import ConnectorKit.Shell.State

/-!
Programs that a name leads to. The first line of a script names the program that reads it; a file
without such a line can be read by the shell all the same.
-/

set_option autoImplicit false
set_option relaxedAutoImplicit false

namespace ConnectorKit.Shell

/-- The programs that read a script as one of the shell. -/
def shellPaths : List String :=
  ["/bin/sh", "/usr/bin/sh", "/bin/dash", "/usr/bin/dash", "/bin/bash", "/usr/bin/bash"]

/-- The program that looks others up on the search path. -/
def searcherPaths : List String :=
  ["/usr/bin/env", "/bin/env"]

/-- The other built-in commands. -/
def ordinaryCommands : List String :=
  ["[", "alias", "bg", "cd", "chdir", "command", "echo", "false", "fg", "getopts", "hash", "jobs",
   "kill", "printf", "pwd", "read", "test", "true", "type", "ulimit", "umask", "unalias", "wait"]

/-- What a file is when it is to be run. -/
inductive Program where
  /-- A file whose first line names no program. -/
  | bare
  /-- A script with the program that reads it, and the one argument that its first line gives. -/
  | interpreted (interpreter : Octets) (argument : Option Octets)
  /-- One of the programs that are always there. -/
  | known

namespace Program

private def isBlank (c : Char) : Bool :=
  c = ' ' || c = '\t'

/-- What a text is, told from its first line. -/
def ofText (text : Octets) : Program :=
  if "#!".toList.isPrefixOf text then
    let line := ((text.drop 2).takeWhile (· ≠ '\n')).dropWhile isBlank
    let line := (line.reverse.dropWhile isBlank).reverse
    match line.takeWhile fun c => !isBlank c with
    | [] => .bare
    | path =>
      match (line.drop path.length).dropWhile isBlank with
      | [] => .interpreted path none
      | argument => .interpreted path (some argument)
  else .bare

def isKnown (path : Octets) : Bool :=
  shellPaths.contains (String.ofList path) || searcherPaths.contains (String.ofList path)

/-- How many programs may read each other. -/
def interpreterLimit : Nat := 5

/-- The program at a path; one whose interpreter is not there cannot be run. -/
def load (d : Disk) (path : Octets) : Except Disk.Fault Program :=
  find interpreterLimit path
where
  find : Nat → Octets → Except Disk.Fault Program
    | 0, _ => .error .linkLoop
    | fuel + 1, path => do
      if isKnown path then return .known
      match d.tree.lookup? (← d.locate (Octets.text path)) with
      | some (.file data true) =>
        match ofText (Octets.ofBytes data) with
        | .interpreted interpreter argument =>
          discard <| find fuel interpreter
          return .interpreted interpreter argument
        | program => return program
      | _ => .error .noPermission

end Program

/-- The paths where a program of the name may be; a name with a slash is a path itself. -/
def candidates (searchPath name : Octets) : List Octets :=
  if name.contains '/' then [name]
  else (Text.Search.splitChars ':' searchPath).map fun directory =>
    if directory.isEmpty then name else directory ++ '/' :: name

namespace State

/-- The paths where a command of the name may be. -/
def paths (s : State) (name : Octets) : List Octets :=
  match s.value? "PATH".toList with
  | some searchPath => candidates searchPath name
  | none => if name.contains '/' then [name] else []

/-- What the search path has under a name. -/
inductive Found where
  | path (p : Octets)
  /-- Nothing that can be run, and what is wrong with the last of it. -/
  | unusable (f : Disk.Fault)

/-- The first file of the name on the search path that can be run. -/
def search (s : State) (name : Octets) : Found :=
  go .missing (s.paths name)
where
  go : Disk.Fault → List Octets → Found
    | f, [] => .unusable f
    | f, p :: rest =>
      match s.disk.locate (Octets.text p) with
      | .ok r =>
        if s.tree.lookup? r matches some (.file _ true) then .path p else go .noPermission rest
      | .error .missing | .error .notDirectory => go f rest
      | .error g => go g rest

/-- What a name means as a command. -/
inductive Meaning where
  | function (body : Command)
  | special
  | ordinary
  | program (path : Octets)
  | unusable (f : Disk.Fault)

/-- What a name means; functions go before all built-in commands but the special ones. -/
def meaning (s : State) (functions : Bool) (name : Octets) : Meaning :=
  let text := String.ofList name
  match (if functions then s.functions.lookup name else none) with
  | some body => .function body
  | none =>
    if specialCommands.contains text then .special
    else if ordinaryCommands.contains text then .ordinary
    else if name.contains '/' then .program name
    else match s.search name with
      | .path p => .program p
      | .unusable f => .unusable f

/-- The name that a command is known by, or a sentence about it; nothing where it is unknown. -/
def describe (s : State) (name : Octets) (inWords : Bool) : Option Octets :=
  let answer (words : String) : Octets := if inWords then name ++ words.toList else name
  if (Keyword.ofText? name).isSome then some (answer " is a shell keyword")
  else match s.aliases.lookup name with
  | some text =>
    some (if inWords then name ++ " is an alias for ".toList ++ text
      else "alias ".toList ++ name ++ '=' :: Octets.quote text)
  | none => match s.meaning true name with
    | .function _ => some (answer " is a shell function")
    | .special => some (answer " is a special shell builtin")
    | .ordinary => some (answer " is a shell builtin")
    | .program p =>
      if s.disk.holds (Octets.text p) then
        let link := if (s.found.lookup name).isSome then " is a tracked alias for " else " is "
        some (if inWords then name ++ link.toList ++ p else p)
      else none
    | .unusable _ => none

/-- Keeps in mind that the search path has a program of the name. -/
def remember (s : State) (name : Octets) : State :=
  let seen := s.found.lookup name
  if name.contains '/' || seen = some false then s
  else match s.meaning true name with
    | .program _ => { s with
        found := if seen.isSome then s.found.map fun (n, b) => (n, b && n ≠ name)
          else s.found ++ [(name, false)] }
    | _ => s

end State

/-- Why a command cannot be run. -/
def faultReason : Disk.Fault → String
  | .missing | .notDirectory => "not found"
  | f => f.words

end ConnectorKit.Shell
