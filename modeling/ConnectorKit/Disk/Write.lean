import ConnectorKit.Disk.Basic
import ConnectorKit.Failure

/-!
Writing files. A file is prepared beside its place and appears there whole or not at all: `writeNew`
only where nothing stands, `replace` in the stead of a file or a link. Directories made on the way
stay, also where the file is refused; the prepared file never does.
-/

set_option autoImplicit false
set_option relaxedAutoImplicit false

namespace ConnectorKit.Disk

def put (d : Disk) (r : Route) (e : Entry) : Disk :=
  { d with tree := d.tree.put r e }

/-- Makes one directory where nothing stands. -/
def makeDirectory (d : Disk) (path : String) : Except Fault Disk := do
  match ← d.slot path with
  | .noName => .error .exists
  | .name dir n _ =>
    match d.tree.lookup? (dir ++ [n]) with
    | some _ => .error .exists
    | none => return d.put (dir ++ [n]) .directory

/-- Makes the first directory of an ascent, after those above it that are missing. -/
def makeAscent (d : Disk) : List String → Except Fault Unit × Disk
  | [] => (.ok (), d)
  | path :: above =>
    match d.makeDirectory path with
    | .ok d => (.ok (), d)
    | .error .missing =>
      match d.makeAscent above with
      | (.error fault, d) => (.error fault, d)
      | (.ok (), d) => settle d path (d.makeDirectory path)
    | .error fault => settle d path (.error fault)
where
  /-- A directory that cannot be made may be there already. -/
  settle (d : Disk) (path : String) : Except Fault Disk → Except Fault Unit × Disk
    | .ok d => (.ok (), d)
    | .error fault => if d.isDirectory path then (.ok (), d) else (.error fault, d)

/-- Makes a directory and those above it, as far as they are missing. -/
def makeDirectories (d : Disk) (path : String) : Except Fault Unit × Disk :=
  d.makeAscent (Path.ascent path)

/-- Names for a prepared file; beside any place, one of them at least is free. -/
def preparedNames (t : Tree) : List Name :=
  (List.range (t.entries.length + 2)).map fun n => ".tmp" ++ toString n

/-- Where a file for a place is prepared: beside it, where nothing stands. -/
def preparedAt (t : Tree) (place : Route) : Route :=
  (((preparedNames t).map (place.dropLast ++ [·])).find? fun r =>
    r ≠ place ∧ (t.lookup? r).isNone).getD place

def remove (d : Disk) (r : Route) : Disk :=
  { d with tree := d.tree.remove r }

/-- Gives what stands at one route the place of another. -/
def rename (d : Disk) (source place : Route) : Disk :=
  match d.tree.lookup? source with
  | some e => (d.remove source).put place e
  | none => d

/-- Prepares a file beside a place and renames it to the place, if what stands there allows it;
otherwise the prepared file is removed again. Preparing never fails here, not even where the path of
the prepared file, under a longer name, would be past the limit. -/
def publishAt (d : Disk) (place : Route) (data : ByteArray)
    (check : Option Entry → Except Fault Unit) : Except Fault Unit × Disk :=
  let source := preparedAt d.tree place
  let prepared := d.put source (.file data false)
  match check (prepared.tree.lookup? place) with
  | .ok () => (.ok (), prepared.rename source place)
  | .error fault => (.error fault, prepared.remove source)

/-- Puts a file at the last place of a path, where nothing stands. -/
def publishNew (path : String) (data : ByteArray) (d : Disk) : Except Fault Unit × Disk :=
  match d.slot path with
  | .error fault => (.error fault, d)
  | .ok .noName => (.error .exists, d)
  | .ok (.name dir n closed) =>
    d.publishAt (dir ++ [n]) data fun
      | some _ => .error .exists
      | none => if closed then .error .notDirectory else .ok ()

/-- Puts a file at the last place of a path, in the stead of a file or a link. -/
def publish (path : String) (data : ByteArray) (d : Disk) : Except Fault Unit × Disk :=
  if path.toList.contains '\x00' then (.error .invalid, d)
  else match d.slot path with
    | .error fault => (.error fault, d)
    | .ok .noName => (.error .busy, d)
    | .ok (.name dir n closed) =>
      d.publishAt (dir ++ [n]) data fun standing =>
        if closed then .error .notDirectory
        else if standing = some .directory then .error .isDirectory
        else .ok ()

/-- Makes the directories of a path, then puts a file there. -/
def withDirectory (path : String) (give : Disk → Except Fault Unit × Disk)
    (failure : Fault → Failure) : Action Disk Unit := fun d =>
  match d.makeAscent (Path.above path) with
  | (.error fault, d) => (.error (.disk fault), d)
  | (.ok (), d) =>
    let (outcome, d) := give d
    (outcome.mapError failure, d)

/-- Writes a file, in the stead of the one that is there. -/
def replace (path : String) (data : ByteArray) : Action Disk Unit :=
  withDirectory path (publish path data) .disk

/-- Writes a file where nothing stands. -/
def writeNew (path : String) (data : ByteArray) : Action Disk Unit := fun d =>
  if d.holds path then (.error (.collision path), d)
  else withDirectory path (publishNew path data) (refused path) d
where
  /-- A name that is taken is a collision. -/
  refused (path : String) : Fault → Failure
    | .exists => .collision path
    | fault => .disk fault

end ConnectorKit.Disk
