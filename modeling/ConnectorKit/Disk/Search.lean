import ConnectorKit.Disk.Basic
import ConnectorKit.Failure

/-!
Searching a subtree of a repository for files. The walk opens a directory by its path, goes through
what stands in it in the order of the names, and right behind a directory through what is below that
one. Links are neither files nor followed, except at the start. A directory that cannot be opened ends
the search. A file is told by its path from the repository.
-/

set_option autoImplicit false
set_option relaxedAutoImplicit false

namespace ConnectorKit.Disk

/-- Puts an entry of a directory among others that are sorted by name. -/
def insertByName (a : Name × Entry) : List (Name × Entry) → List (Name × Entry)
  | [] => [a]
  | b :: rest => if a.1 ≤ b.1 then a :: b :: rest else b :: insertByName a rest

theorem mem_insertByName {a b : Name × Entry} {l : List (Name × Entry)} :
    b ∈ insertByName a l ↔ b = a ∨ b ∈ l := by
  induction l with
  | nil => simp [insertByName]
  | cons c rest ih =>
    unfold insertByName
    split
    · simp
    · rw [List.mem_cons, ih, List.mem_cons]
      exact or_left_comm

def sortByName (l : List (Name × Entry)) : List (Name × Entry) :=
  l.foldr insertByName []

theorem mem_sortByName {a : Name × Entry} {l : List (Name × Entry)} :
    a ∈ sortByName l ↔ a ∈ l := by
  induction l with
  | nil => rfl
  | cons b rest ih => exact mem_insertByName.trans ((or_congr_right ih).trans List.mem_cons.symm)

/-- What stands directly in a directory, sorted by name. -/
def Tree.listing (t : Tree) (r : Route) : List (Name × Entry) :=
  sortByName (t.children r)

theorem Tree.mem_listing {t : Tree} {r : Route} {n : Name} {e : Entry} :
    (n, e) ∈ t.listing r ↔ (r ++ [n], e) ∈ t.entries :=
  mem_sortByName.trans mem_children

/-- Refuses a directory that cannot be opened by its path. -/
def openDirectory (path : String) : Except Failure Unit :=
  (checkPath path).mapError (.walk path)

/-- The entries below a directory, in the order that a walk comes to them, each with the rest of its
route. The path is that of the directory. -/
def Tree.walk (t : Tree) (path : String) (r : Route) : Except Failure (List (Route × Entry)) := do
  openDirectory path
  let parts ← (t.listing r).attach.mapM fun ⟨(n, e), _⟩ => do
    if e = .directory then
      let inner ← t.walk (Path.join path n) (r ++ [n])
      return ([n], e) :: inner.map fun (q, f) => (n :: q, f)
    else return [([n], e)]
  return parts.flatten
termination_by t.depth - r.length
decreasing_by
  rename_i mem _
  have deep := Tree.length_le_depth (Tree.mem_listing.1 mem)
  rw [List.length_append, List.length_singleton] at deep ⊢
  omega

/-- A file of a walk: its path from the repository, and its own name. -/
structure Found where
  path : String
  name : Name
  deriving DecidableEq, Repr

/-- Whether a path from the repository leads to anything. -/
def stands (d : Disk) (root path : String) : Bool :=
  d.holds (Path.join root path)

/-- The directory that a search starts in, if it is one. -/
def searchStart? (d : Disk) (base : String) : Option Route :=
  match d.locate base with
  | .ok r => if d.tree.lookup? r = some .directory then some r else none
  | .error _ => none

/-- The file at a route below the start of a walk; `lead` names the start. -/
def found? (lead : List String) : Route × Entry → Option Found
  | (r, .file _ _) => some ⟨"/".intercalate (lead ++ r), r.getLastD ""⟩
  | _ => none

/-- The files below `subtree`, in the order of the walk; none where there is no such directory. A file
whose path does not start with the root is passed over. -/
def files (d : Disk) (root subtree : String) : Except Failure (List Found) :=
  let base := Path.join root subtree
  match d.searchStart? base with
  | none => .ok []
  | some start => do
    let entries ← d.tree.walk base start
    match Path.below? (Path.components root) (Path.components base) with
    | none => return []
    | some lead => return entries.filterMap (found? (lead.map Path.Component.text))

/-- The paths of the files below `subtree` with a name that the test accepts. -/
def filesNamed (d : Disk) (root subtree : String) (test : Name → Bool) :
    Except Failure (List String) := do
  return ((← d.files root subtree).filter fun f => test f.name).map Found.path

/-- The paths of the files below `subtree` that hold `needle` and end in `finish`. -/
def filesWithPath (d : Disk) (root subtree needle finish : String) :
    Except Failure (List String) := do
  return ((← d.files root subtree).map Found.path).filter fun path =>
    Text.Search.contains path needle && Text.Search.endsWith path finish

end ConnectorKit.Disk
