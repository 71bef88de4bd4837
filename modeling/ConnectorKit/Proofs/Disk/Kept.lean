import ConnectorKit.Proofs.Disk.Write
import ConnectorKit.Proofs.Text.Bytes

/-!
Insert-only change. What stands at a route stays, files gain lines at most, and what appears is a
directory or a file that was meant to.
-/

set_option autoImplicit false
set_option relaxedAutoImplicit false

namespace ConnectorKit.Disk

/-- How what stands at a route may change: `changed` tells whether a file may gain lines there,
`made` whether a file may appear. -/
inductive Kept (changed made : Prop) : Option Entry → Option Entry → Prop
  | same (e : Option Entry) : Kept changed made e e
  | directory : Kept changed made none (some .directory)
  | file {data : ByteArray} {executable : Bool} : made →
      Kept changed made none (some (.file data executable))
  | gained {old new : ByteArray} {before after : Bool} : changed →
      (Text.Bytes.lines old).Sublist (Text.Bytes.lines new) →
      Kept changed made (some (.file old before)) (some (.file new after))
  /-- Only a link may give way to a file. -/
  | replaced {target : String} {data : ByteArray} {executable : Bool} :
      Kept changed made (some (.link target)) (some (.file data executable))

namespace Kept

variable {changed changed' made made' : Prop} {a b c : Option Entry}

theorem mono (h : Kept changed made a b) (change : changed → changed') (make : made → made') :
    Kept changed' made' a b := by
  cases h with
  | same => exact .same a
  | directory => exact .directory
  | file m => exact .file (make m)
  | gained g lines => exact .gained (change g) lines
  | replaced => exact .replaced

theorem trans (h : Kept changed made a b) (h' : Kept changed made b c) : Kept changed made a c := by
  cases h with
  | same => exact h'
  | directory =>
    cases h'
    exact .directory
  | file m =>
    cases h' with
    | same => exact .file m
    | gained => exact .file m
  | gained g lines =>
    cases h' with
    | same => exact .gained g lines
    | gained _ more => exact .gained g (lines.trans more)
  | replaced =>
    cases h' with
    | same => exact .replaced
    | gained => exact .replaced

theorem of_directory (h : Kept changed made (some .directory) b) : b = some .directory := by
  cases h
  rfl

theorem of_file {data : ByteArray} {executable : Bool}
    (h : Kept changed made (some (.file data executable)) b) :
    ∃ new after, b = some (.file new after) ∧
      (Text.Bytes.lines data).Sublist (Text.Bytes.lines new) ∧ (¬ changed → new = data) := by
  cases h with
  | same => exact ⟨data, executable, rfl, .refl _, fun _ => rfl⟩
  | gained g lines => exact ⟨_, _, rfl, lines, fun unchanged => absurd g unchanged⟩

theorem of_none {e : Entry} (h : Kept changed made none (some e)) :
    e = .directory ∨ (∃ data executable, e = .file data executable) ∧ made := by
  cases h with
  | directory => exact .inl rfl
  | file m => exact .inr ⟨⟨_, _, rfl⟩, m⟩

end Kept

/-- The second disk holds all that the first does: directories as they are, files with all their
lines, in order. A file gains lines where `changed` tells so at most; what is new is a directory, or
a file that `made` tells of. -/
structure InsertOnly (changed made : Route → Prop) (d d' : Disk) : Prop where
  directory {r : Route} : d.tree.lookup? r = some .directory →
    d'.tree.lookup? r = some .directory
  file {r : Route} {data : ByteArray} {executable : Bool} :
    d.tree.lookup? r = some (.file data executable) →
    ∃ new after, d'.tree.lookup? r = some (.file new after) ∧
      (Text.Bytes.lines data).Sublist (Text.Bytes.lines new) ∧ (¬ changed r → new = data)
  fresh {r : Route} {e : Entry} : d.tree.lookup? r = none → d'.tree.lookup? r = some e →
    e = .directory ∨ (∃ data executable, e = .file data executable) ∧ made r

theorem InsertOnly.of_kept {changed made : Route → Prop} {d d' : Disk}
    (kept : ∀ r, Kept (changed r) (made r) (d.tree.lookup? r) (d'.tree.lookup? r)) :
    InsertOnly changed made d d' where
  directory {r} stands := by
    have step := kept r
    rw [stands] at step
    exact step.of_directory
  file {r data executable} stands := by
    have step := kept r
    rw [stands] at step
    exact step.of_file
  fresh {r e} free stands := by
    have step := kept r
    rw [free, stands] at step
    exact step.of_none

theorem Gains.kept {directories : Route → Prop} {files : Route → ByteArray → Prop} {d d' : Disk}
    (h : Gains directories files d d') (r : Route) :
    Kept False (∃ data, files r data ∧ d.tree.lookup? r = none ∧
      d'.tree.lookup? r = some (.file data false)) (d.tree.lookup? r) (d'.tree.lookup? r) := by
  rcases h.entry r with same | ⟨free, ⟨-, dir⟩ | ⟨data, told, file⟩⟩
  · rw [same]
    exact .same _
  · rw [free, dir]
    exact .directory
  · rw [free, file]
    exact .file ⟨data, told, rfl, rfl⟩

theorem AddsDirectories.kept {d d' : Disk} (h : AddsDirectories d d') (changed made : Prop)
    (r : Route) : Kept changed made (d.tree.lookup? r) (d'.tree.lookup? r) :=
  (Gains.kept h r).mono False.elim fun ⟨_, told, _⟩ => told.elim

private theorem kept_at_slot {path : String} {old new : ByteArray} {d d₁ : Disk} {goal dir : Route}
    {n : Name} {executable : Bool} (added : AddsDirectories d d₁)
    (last : d₁.slot path = .ok (.name dir n false))
    (beside : d₁.tree.lookup? (dir ++ [n]) ≠ some .directory)
    (found : d.locate path = .ok goal)
    (stands : d.tree.lookup? goal = some (.file old executable))
    (lines : (Text.Bytes.lines old).Sublist (Text.Bytes.lines new)) :
    Kept (dir ++ [n] = goal) False (d.tree.lookup? (dir ++ [n])) (some (.file new false)) := by
  have reached := locate_mono added.grown added.current found
  cases there : d₁.tree.lookup? (dir ++ [n]) with
  | none =>
    rw [locate_slot_free last there] at reached
    cases reached
  | some e =>
    cases e with
    | directory => exact absurd there beside
    | link target =>
      have linked : d.tree.lookup? (dir ++ [n]) = some (.link target) := by
        rcases added.entry (dir ++ [n]) with same | ⟨-, ⟨-, dir⟩ | ⟨_, told, -⟩⟩
        · rw [← same, there]
        · rw [there] at dir
          cases dir
        · exact told.elim
      rw [linked]
      exact .replaced
    | file data mode =>
      rw [locate_slot last there nofun] at reached
      cases reached
      rw [stands]
      exact .gained rfl lines

/-- Replacing the file that a path leads to by one with more lines changes that file alone; where a
link stands at the end of the path, the link gives way instead. -/
theorem replace_kept {path : String} {old new : ByteArray} {d : Disk} {goal : Route}
    {executable : Bool} (found : d.locate path = .ok goal)
    (stands : d.tree.lookup? goal = some (.file old executable))
    (lines : (Text.Bytes.lines old).Sublist (Text.Bytes.lines new)) (r : Route) :
    Kept (((replace path new).perform d).1 = .ok () ∧ r = goal) False (d.tree.lookup? r)
      (((replace path new).perform d).2.tree.lookup? r) := by
  rcases replace_cases path new d with added | ⟨d₁, dir, n, added, last, beside, put⟩
  · exact added.kept _ _ r
  · rw [put]
    have before := added.kept ((.ok () : Except Failure Unit) = .ok () ∧ r = goal) False r
    by_cases fits : d₁.tree.Fits (dir ++ [n]) (.file new false)
    · dsimp only
      rw [lookup?_put fits]
      split
      · rename_i here
        subst here
        exact (kept_at_slot added last beside found stands lines).mono (fun same => ⟨rfl, same⟩) id
      · exact before
    · rw [put_of_not_fits fits]
      exact before

end ConnectorKit.Disk
