import ConnectorKit.Proofs.Disk.Growth

/-!
Replacing a file of a repository. The directories above the file are there, so nothing is made on the
way: the new content comes to stand at the route of the file, and all the rest is as it was.
-/

set_option autoImplicit false
set_option relaxedAutoImplicit false

namespace ConnectorKit.Disk

open Disk.Path (Plain components join)
open Text.Search (split)

theorem makeAscent_possible {d : Disk} {path n : String} {front : List String} {q : Route}
    (cut : split '/' path = front ++ [n]) (plain : Plain n) (possible : checkPath path = .ok ())
    (reached : follow d.tree linkLimit (d.start path) (front ++ [""]) = .ok q)
    (there : d.tree.lookup? q = some .directory) :
    d.makeAscent (Path.above path) = (.ok (), d) := by
  refine makeAscent_above cut (by simp [leads, plain.nonempty, plain.notHere]) reached there ?_
  intro kept blanks whole kept_
  rw [whole, List.append_assoc] at cut
  exact checkPath_ofParts cut kept_ (by simp) possible

/-- A path that does not lead out of the directory that it is seen from. -/
def Inside (path : String) : Prop :=
  ∀ c ∈ components path, c ≠ .top ∧ c ≠ .up

namespace Inside

variable {path : String}

theorem relative (inside : Inside path) : Path.isAbsolute path = false := by
  rw [Path.isAbsolute_eq, decide_eq_false_iff_not]
  exact fun top => (inside _ (List.mem_of_head? top)).1 rfl

private theorem plain (inside : Inside path) {part : String} (mem : part ∈ split '/' path)
    (real : leads part = true) : Plain part := by
  have told : ¬ (part = "" ∨ part = ".") := by simpa [leads] using real
  refine ⟨fun empty => told (.inl empty), fun here => told (.inr here), ?_, ?_⟩
  · rintro rfl
    refine (inside .up ?_).2 rfl
    exact List.mem_append_right _ (List.mem_filterMap.2 ⟨"..", mem, by decide⟩)
  · exact Text.Search.not_mem_of_mem_split mem

end Inside

theorem inside_ofNames {names : List Name} (nonempty : names ≠ []) (plain : ∀ n ∈ names, Plain n) :
    Inside (Path.ofNames names) := by
  intro c mem
  rw [Path.components_ofNames nonempty plain] at mem
  obtain ⟨n, -, rfl⟩ := List.mem_map.1 mem
  exact ⟨nofun, nofun⟩

variable {d : Disk} {root path : String} {base goal : Route} {old : ByteArray} {executable : Bool}

/-- Where a file inside the repository stands: `front` and `n` are the parts of its path, and the
directory that `front` leads to is that of the file. -/
private structure Stands (d : Disk) (root path : String) (base goal : Route) (front : List String)
    (n : Name) : Prop where
  cut : split '/' (join root path) = Path.frontParts root ++ front ++ [n]
  names : ∀ m ∈ front.filter leads ++ [n], Plain m
  short : n.utf8ByteSize ≤ nameLimit
  goal_eq : goal = base ++ front.filter leads ++ [n]
  reached : follow d.tree linkLimit (d.start (join root path))
    (Path.frontParts root ++ front ++ [""]) = .ok (base ++ front.filter leads)
  above : d.tree.lookup? (base ++ front.filter leads) = some .directory
  possible : checkPath (join root path) = .ok ()

private theorem Stands.plain {front : List String} {n : Name}
    (place : Stands d root path base goal front n) : Plain n :=
  place.names n (List.mem_append_right _ List.mem_cons_self)

namespace Repository

private theorem exists_stands (repo : Repository d root base) (inside : Inside path)
    (found : d.locate (join root path) = .ok goal)
    (stands : d.tree.lookup? goal = some (.file old executable)) :
    ∃ front n, Stands d root path base goal front n := by
  obtain ⟨⟨⟩, possible, went⟩ := bind_ok found
  have cut : split '/' (join root path) = _ := Path.split_join inside.relative
  obtain ⟨front, n, whole⟩ : ∃ front n, split '/' path = front ++ [n] :=
    ⟨_, _, (List.dropLast_concat_getLast (Path.split_ne_nil path)).symm⟩
  have begun : d.start (join root path) = d.start root := by
    rw [start, start, Path.isAbsolute_join inside.relative]
  have from_base (tail : List String) : ∃ left, follow d.tree linkLimit (d.start (join root path))
      (Path.frontParts root ++ tail) = follow d.tree left base tail := by
    rw [begun]
    exact follow_split tail repo.follow_root
  rw [cut, whole] at went
  -- A path with a blank last part leads to a directory.
  have real : Disk.leads n = true := by
    refine Bool.of_not_eq_false fun blank => ?_
    obtain ⟨left, on⟩ := from_base (front ++ [n])
    rw [on, follow_leads (by simpa [Disk.leads, or_iff_not_imp_left] using blank)] at went
    have there := follow_directory repo.directory went
    rw [stands] at there
    cases there
  have names : ∀ m ∈ front.filter Disk.leads, Plain m := by
    intro m mem
    obtain ⟨part, real⟩ := List.mem_filter.1 mem
    exact inside.plain (whole ▸ List.mem_append_left _ part) real
  have own : ∀ m ∈ [n], Plain m := by
    simpa using inside.plain (whole ▸ List.mem_append_right _ List.mem_cons_self) real
  rw [whole, ← List.append_assoc] at cut
  rw [← List.append_assoc] at went
  obtain ⟨q, reached⟩ := follow_front went
  obtain ⟨left, on⟩ := from_base (front ++ [""])
  have below := reached
  rw [List.append_assoc, on, follow_leads (.inl rfl)] at below
  have above := follow_directory repo.directory below
  obtain ⟨rfl, -⟩ := repo.follow_names names below
  obtain ⟨left', last⟩ := follow_split [n] reached
  rw [last] at went
  obtain ⟨goal_eq, sizes, -⟩ := (follow_plain
    (fun r _ inner => repo.unlinked ((List.prefix_append _ _).trans inner)) own left').1 went
  exact ⟨front, n, cut, List.forall_mem_append.2 ⟨names, own⟩, sizes n List.mem_cons_self, goal_eq,
    reached, above, possible⟩

/-- A file of the repository stands below the base, and to replace it puts the new content at its
route. -/
theorem replace_found (repo : Repository d root base) (inside : Inside path) (data : ByteArray)
    (found : d.locate (join root path) = .ok goal)
    (stands : d.tree.lookup? goal = some (.file old executable)) :
    Below base goal ∧ (replace (join root path) data).perform d =
      (.ok (), d.put goal (.file data false)) := by
  obtain ⟨front, n, place⟩ := repo.exists_stands inside found stands
  obtain rfl := place.goal_eq
  have own := place.plain
  refine ⟨⟨front.filter Disk.leads, n, place.names, by rw [List.append_assoc]⟩, ?_⟩
  have slot : d.slot (join root path) = .ok (.name (base ++ front.filter Disk.leads) n false) := by
    rw [slot_of_split place.cut own.nonempty, place.possible, place.reached]
    simp [own.notHere, own.notUp, place.short, bind, Except.bind, pure, Except.pure]
  have clean := (checkPath_eq_ok_iff.1 place.possible).1
  unfold replace withDirectory Action.perform
  dsimp only
  rw [makeAscent_possible place.cut own place.possible place.reached place.above]
  dsimp only
  rw [publish, if_neg (by simpa using clean), slot]
  dsimp only
  rw [publishAt_eq, stands]
  rfl

end Repository

end ConnectorKit.Disk
