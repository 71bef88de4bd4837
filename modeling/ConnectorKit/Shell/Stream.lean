import ConnectorKit.Disk.Write

/-!
Streams: what the descriptors of a process lead to. Two descriptors on one stream share its
position, so each goes on where the other stopped.
-/

set_option autoImplicit false
set_option relaxedAutoImplicit false

namespace ConnectorKit.Shell

/-- Where the bytes of a stream are. -/
inductive Medium where
  /-- Bytes that are no file: those of a pipe, of a document, or what the script writes. -/
  | memory (data : ByteArray)
  | file (r : Disk.Route)
  | nothing

structure Stream where
  medium : Medium
  position : Nat
  /-- Whether each write goes to the end of the file. -/
  appending : Bool

namespace Stream

def ofBytes (data : ByteArray) : Stream :=
  ⟨.memory data, 0, false⟩

def nothing : Stream :=
  ⟨.nothing, 0, false⟩

/-- The bytes of a stream from its start. -/
def data (s : Stream) (d : Disk) : ByteArray :=
  match s.medium with
  | .memory data => data
  | .nothing => .empty
  | .file r =>
    match d.tree.lookup? r with
    | some (.file data _) => data
    | _ => .empty

/-- Bytes with others in the stead of what stood at a position; a gap is filled with zeros. -/
def patch (old : ByteArray) (position : Nat) (new : ByteArray) : ByteArray :=
  let gap : ByteArray := ⟨(List.replicate (position - old.size) (0 : UInt8)).toArray⟩
  (old ++ gap).extract 0 position ++ new ++ old.extract (position + new.size) old.size

/-- Writes bytes at the position of a stream. -/
def write (s : Stream) (d : Disk) (new : ByteArray) : Stream × Disk :=
  match s.medium with
  | .nothing => (s, d)
  | .memory data => ({ s with medium := .memory (data ++ new) }, d)
  | .file r =>
    match d.tree.lookup? r with
    | some (.file old executable) =>
      let position := if s.appending then old.size else s.position
      let data := patch old position new
      ({ s with position := position + new.size },
        { d with tree := d.tree.put r (.file data executable) })
    | _ => (s, d)

end Stream

end ConnectorKit.Shell
