import ConnectorKit.Disk.Fault
import ConnectorKit.Disk.Path
import ConnectorKit.Disk.Tree

/-!
A disk is a file tree seen from a current directory. A path is followed name by name, links
included; the limits on names, paths and links are those of the operating system.
-/

set_option autoImplicit false
set_option relaxedAutoImplicit false

namespace ConnectorKit

structure Disk where
  tree : Disk.Tree
  current : Disk.Route

namespace Disk

def nameLimit : Nat := 255

def pathLimit : Nat := 4096

def linkLimit : Nat := 40

/-- How far names lead without following a link. -/
inductive Descent where
  | arrived (r : Route)
  | linked (base : Route) (target : String) (rest : List String)
  | stopped (fault : Fault)

/-- Goes down from a directory, one part of a path after the other. -/
def descend (t : Tree) : Route → List String → Descent
  | dir, [] => .arrived dir
  | dir, part :: rest =>
    if part = "" ∨ part = "." then descend t dir rest
    else if part = ".." then descend t dir.dropLast rest
    else if nameLimit < part.utf8ByteSize then .stopped .nameTooLong
    else match t.lookup? (dir ++ [part]) with
      | none => .stopped .missing
      | some .directory => descend t (dir ++ [part]) rest
      | some (.file _ _) =>
        if rest = [] then .arrived (dir ++ [part]) else .stopped .notDirectory
      | some (.link target) => .linked dir target rest

/-- Goes down from a directory, following at most `links` links. -/
def follow (t : Tree) : Nat → Route → List String → Except Fault Route
  | links, dir, parts =>
    match descend t dir parts with
    | .arrived r => .ok r
    | .stopped fault => .error fault
    | .linked base target rest =>
      match links with
      | 0 => .error .linkLoop
      | links + 1 =>
        follow t links (if Path.isAbsolute target then [] else base)
          (Text.Search.split '/' target ++ rest)

def start (d : Disk) (path : String) : Route :=
  if Path.isAbsolute path then [] else d.current

/-- Refuses what can be no path at all. -/
def checkPath (path : String) : Except Fault Unit :=
  if path.toList.contains '\x00' then .error .zeroInPath
  else if path = "" then .error .missing
  else if pathLimit ≤ path.utf8ByteSize then .error .nameTooLong
  else .ok ()

/-- The route of what a path leads to. -/
def locate (d : Disk) (path : String) : Except Fault Route := do
  checkPath path
  follow d.tree linkLimit (d.start path) (Text.Search.split '/' path)

/-- What a path leads to. -/
def lookup? (d : Disk) (path : String) : Option Entry :=
  match d.locate path with
  | .ok r => d.tree.lookup? r
  | .error _ => none

/-- Whether a path leads to anything. -/
def holds (d : Disk) (path : String) : Bool :=
  (d.locate path).isOk

def isDirectory (d : Disk) (path : String) : Bool :=
  d.lookup? path = some .directory

/-- The bytes of the file that a path leads to. -/
def read (d : Disk) (path : String) : Except Fault ByteArray := do
  match d.tree.lookup? (← d.locate path) with
  | some (.file data _) => .ok data
  | some .directory => .error .isDirectory
  | _ => .error .missing

/-- The text of the file that a path leads to. -/
def readText (d : Disk) (path : String) : Except Fault String := do
  match String.fromUTF8? (← d.read path) with
  | some text => .ok text
  | none => .error .notText

/-- The last place of a path: a name in a directory, or no name of its own. `closed` tells that a
slash follows the name. -/
inductive Slot where
  | name (dir : Route) (n : Name) (closed : Bool)
  | noName

/-- The last place of a path, following links on the way to it only. -/
def slot (d : Disk) (path : String) : Except Fault Slot := do
  checkPath path
  let parts := Text.Search.split '/' path
  let kept := (parts.reverse.dropWhile (· = "")).reverse
  match kept.getLast? with
  | none => return .noName
  | some last =>
    let dir ← follow d.tree linkLimit (d.start path) (kept.dropLast ++ [""])
    if last = "." ∨ last = ".." then return .noName
    else if nameLimit < last.utf8ByteSize then .error .nameTooLong
    else return .name dir last (kept.length < parts.length)

end Disk

end ConnectorKit
