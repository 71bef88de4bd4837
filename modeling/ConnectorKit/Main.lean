import ConnectorKit.Command.Run
import ConnectorKit.Shell.Process
import Std.Time.Date.PlainDate
import Std.Time.DateTime.Timestamp

/-!
The program `kcc-mcp`. The files that it may need are read into a disk, the work is done there, and
what has changed is written back. Only scripts of the shell can be run.
-/

set_option autoImplicit false
set_option relaxedAutoImplicit false

namespace ConnectorKit.Main

/-- The variables that are looked at. -/
def keys : List String :=
  ["HOME", "PATH", Settings.nameKey, Settings.emailKey, Settings.repositoryKey,
   Settings.conventionalKey]

def readEnvironment : IO Environment :=
  keys.filterMapM fun key => do
    return (← IO.getEnv key).map fun value => (key, value)

/-- The current year. -/
def currentYear : IO Nat := do
  let now ← Std.Time.Timestamp.now
  let day := now.toSecondsSinceUnixEpoch.toInt / 86400
  return (Std.Time.PlainDate.ofEpochDay (.ofInt day)).year.toInt.toNat

/-- A script may be run; the mode of a file is not told. -/
def isScript (data : ByteArray) : Bool :=
  data.toList.take 2 = "#!".toUTF8.toList

/-- Reads one file of the machine to its place, if it is there. -/
def readFile (d : Disk) (path : String) : IO Disk := do
  match ← (IO.FS.readBinFile path).toBaseIO with
  | .error _ => return d
  | .ok data =>
    let d := (d.makeAscent (Disk.Path.above path)).2
    match d.slot path with
    | .ok (.name directory n false) => return d.put (directory ++ [n]) (.file data (isScript data))
    | _ => return d

/-- Reads what is below a directory of the machine to the place `r`, but for what version control
keeps there. -/
partial def readBelow (directory : IO.FS.DirEntry) (r : Disk.Route) (d : Disk) : IO Disk := do
  let mut d := d
  for entry in ← directory.path.readDir do
    let place := r ++ [entry.fileName]
    if entry.fileName ≠ ".git" then
      match (← entry.path.symlinkMetadata).type with
      | .dir => d ← readBelow entry place (d.put place .directory)
      | .file =>
        let data ← IO.FS.readBinFile entry.path
        d := d.put place (.file data (isScript data))
      | _ => pure ()
  return d

/-- Reads a repository; one that is not there stays missing. -/
def readRepository (d : Disk) (root : String) : IO Disk := do
  let directory : IO.FS.DirEntry := ⟨root, "."⟩
  if ← directory.path.isDir then
    let d := (d.makeDirectories root).2
    match d.locate root with
    | .ok r => readBelow directory r d
    | .error _ => return d
  else return d

/-- A disk with the current directory, the settings file and the programs named `git`. -/
def readMachine (environment : Environment) : IO Disk := do
  let here := (← IO.currentDir).toString
  let start : Disk := ⟨.empty, []⟩
  let d := (start.makeDirectories here).2
  let d : Disk := { d with current := (d.locate here).toOption.getD [] }
  let home := (environment.lookup "HOME").toList
  let d ← home.foldlM
    (fun d home => readFile d (Disk.Path.join home Failure.settingsFile)) d
  (Text.Search.split ':' ((environment.lookup "PATH").getD "")).foldlM
    (fun d directory => readFile d (Disk.Path.join directory "git")) d

/-- Writes what one disk holds and another did not. -/
def writeChanges (before after : Disk) : IO Unit := do
  for (r, e) in after.tree.entries do
    if before.tree.lookup? r ≠ some e then
      let path := "/" ++ "/".intercalate r
      match e with
      | .directory => IO.FS.createDirAll path
      | .file data _ => IO.FS.writeBinFile path data
      | .link _ => pure ()

/-- The next line of a stream, with its line feed; nothing at the end. -/
partial def readLine (input : IO.FS.Stream) (line : ByteArray) : IO ByteArray := do
  let next ← input.read 1
  if next.isEmpty then return line
  else
    let line := line ++ next
    if next[0]? = some 10 then return line else readLine input line

/-- Answers the lines of a stream as they come, each on the files as they are then. -/
partial def serve (place : Server.Workplace Unit) (input output : IO.FS.Stream) : IO Unit := do
  let line ← readLine input .empty
  if line.isEmpty then return
  let d ← readRepository (← readMachine place.environment) place.root
  let (replies, w) := Server.serve place line ⟨d, ()⟩
  writeChanges d w.disk
  for reply in replies do output.putStrLn reply.text
  output.flush
  serve place input output

def finish (exit : Command.Exit) : IO UInt32 := do
  IO.print exit.printed.toString
  IO.eprint exit.complaint
  return exit.code.toUInt32

/-- This machine, with the one runner and the one engine that there are. -/
def machine : IO Machine := do
  return {
    run := Shell.runner
    engine := .unlimited
    environment := ← readEnvironment
    year := ← currentYear }

def run (arguments : List String) : IO UInt32 := do
  let m ← machine
  let files ← readMachine m.environment
  match Command.read m.environment arguments with
  | .error stop => finish stop.exit
  | .ok i =>
    match (Settings.load m.run m.environment i.repository).perform files with
    | (.error f, d) =>
      writeChanges files d
      finish (.failure f "")
    | (.ok settings, d) =>
      writeChanges files d
      if i.task = .serve then
        serve (.standard m settings) (← IO.getStdin) (← IO.getStdout)
        return 0
      else
        let d ← readRepository files settings.repository
        let (exit, _) := i.task.run settings i.json m .empty d
        finish exit

end ConnectorKit.Main

def main (arguments : List String) : IO UInt32 :=
  ConnectorKit.Main.run arguments
