import ConnectorKit.Shell.Expansion

/-!
Redirections. All words of a row of redirections are expanded first; then its descriptors are
opened from left to right, and the first one that cannot be opened ends the row. What a row changed
is put back after the command, unless the command was one that keeps it.
-/

set_option autoImplicit false
set_option relaxedAutoImplicit false

namespace ConnectorKit.Shell

/-- What a descriptor is put on. -/
inductive Target where
  | file (descriptor : Nat) (mode : Mode) (path : Octets)
  | copy (descriptor source : Nat)
  | closed (descriptor : Nat)
  | document (descriptor number : Nat)

namespace Target

def descriptor : Target → Nat
  | .file n _ _ | .copy n _ | .closed n | .document n _ => n

/-- The target of a redirection. A descriptor is told by one digit, and a dash closes it; any other
word is as bad as one that cannot be read. -/
def ofRedirection (capture : Command → Run Octets) : Redirection → Run Target
  | .file n mode path => return .file n mode (← Word.text capture path)
  | .document n number => return .document n number
  | .copy n source => do
    match ← Word.text capture source with
    | ['-'] => return .closed n
    | [c] => if c.isDigit then return .copy n (c.toNat - 48) else unknown
    | _ => unknown
where
  unknown : Run Target := do
    modify fun s => { s with line := s.reached }
    faultText ("Syntax error: " ++ Misreading.descriptor.message)

/-- Why a file cannot be opened. -/
def refusal (creates : Bool) (path : Octets) (f : Disk.Fault) : Octets :=
  let absent := if creates then "Directory nonexistent" else "No such file"
  let reason := match f with
    | .missing | .notDirectory => absent
    | f => f.words
  ("cannot " ++ if creates then "create " else "open ").toList ++ path ++ (": " ++ reason).toList

/-- The descriptor that a path of the system names. -/
def numberedPath? (path : Octets) : Option Nat :=
  match String.ofList path with
  | "/dev/stdin" => some 0
  | "/dev/stdout" => some 1
  | "/dev/stderr" => some 2
  | _ =>
    let lead := "/dev/fd/".toList
    if lead.isPrefixOf path then Number.count? (path.drop lead.length) else none

/-- The place of a new file where a path leads to nothing; a link may name it. -/
def vacancy : Nat → Disk → String → Except Disk.Fault Disk.Route
  | 0, _, _ => .error .linkLoop
  | links + 1, d, path => do
    match ← d.slot path with
    | .name dir n false =>
      match d.tree.lookup? (dir ++ [n]) with
      | some (.link target) => vacancy links { d with current := dir } target
      | _ => return dir ++ [n]
    | _ => .error .isDirectory

/-- The route of a file to be written, and the disk with that file. -/
def prepare (d : Disk) (mode : Mode) (path : String) : Except Disk.Fault (Disk.Route × Disk) :=
  match d.locate path with
  | .ok r =>
    match d.tree.lookup? r with
    | some (.file data executable) =>
      let kept := if mode = .append ∨ mode = .readWrite then data else .empty
      .ok (r, { d with tree := d.tree.put r (.file kept executable) })
    | _ => .error .isDirectory
  | .error .missing => do
    let r ← vacancy Disk.linkLimit d path
    return (r, { d with tree := d.tree.put r (.file .empty false) })
  | .error f => .error f

/-- Opens a file on a descriptor. With the option `C`, a file that is there is not overwritten. -/
def openFile (descriptor : Nat) (mode : Mode) (path : Octets) : Run Unit := do
  let s ← get
  let name := Octets.text path
  match mode with
  | .read =>
    match s.disk.locate name with
    | .ok r => modify (·.openStream descriptor ⟨.file r, 0, false⟩)
    | .error f => fault (refusal false path f)
  | mode =>
    let guarded := mode = .write && s.has 'C'
    match if guarded then s.disk.lookup? name else none with
    | some (.file _ _) => fault (refusal true path .exists)
    | some _ => fault (refusal false path .isDirectory)
    | none =>
      match prepare s.disk mode name with
      | .ok (r, d) =>
        set ((s.withDisk d).openStream descriptor ⟨.file r, 0, mode = Mode.append⟩)
      | .error f => fault (refusal true path f)

/-- Puts the descriptor on its target. One that is `cleared` for it is closed even if the target
cannot be had. -/
def connect (capture : Command → Run Octets) (cleared : Bool) : Target → Run Unit
  | .closed n => modify (·.close n)
  | .copy n source => do
    if n ≠ source then
      match (← get).descriptors.lookup source with
      | some stream => modify (·.connect n stream)
      | none =>
        if cleared then modify (·.close n)
        fault (Octets.ofInt source ++ ": Bad file descriptor".toList)
  | .document n number => do
    let word := ((← get).documents.lookup number).getD []
    let text ← Word.contents capture word
    modify (·.openStream n (.ofBytes (Octets.bytes text)))
  | .file n mode path => do
    if path = "/dev/null".toList then modify (·.openStream n .nothing)
    else match numberedPath? path with
      | none => openFile n mode path
      | some source =>
        match (← get).descriptors.lookup source with
        | some stream => modify (·.connect n stream)
        | none => fault (refusal (mode ≠ .read) path .missing)

/-- Puts descriptors on their targets, and tells whether all of them could be opened. Descriptors
that are put back later are cleared when the row comes to them first, so nobody sees what is said
of a source that is bad where messages should go. -/
def connectAll (capture : Command → Run Octets) (putBack : Bool) (targets : List Target) :
    Run Bool := do
  try
    connectFrom [] targets
    return true
  catch
    | .fault => return false
    | stop => throw stop
where
  connectFrom (seen : List Nat) : List Target → Run Unit
    | [] => return ()
    | t :: rest => do
      connect capture (putBack && !seen.contains t.descriptor) t
      connectFrom (t.descriptor :: seen) rest

end Target

/-- The descriptors of some targets as they were before. -/
def State.restored (before : State) (targets : List Target) (after : State) : State :=
  targets.foldl (fun s target =>
    match before.descriptors.lookup target.descriptor with
    | some stream => s.connect target.descriptor stream
    | none => s.close target.descriptor) after

/-- Runs a part with descriptors on their targets, and tells whether they could be opened. -/
def redirected (capture : Command → Run Octets) (targets : List Target) (keep : Bool)
    (part : Run Unit) : Run Bool := do
  let before ← get
  try
    let opened ← Target.connectAll capture true targets
    if opened then part
    return opened
  finally
    if !keep then modify (before.restored targets)

end ConnectorKit.Shell
