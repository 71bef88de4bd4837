import ConnectorKit.Proofs.Disk.Paving

/-!
Writing where nothing stands. A new file never takes the place of anything: not of a file or a
directory, and not of a link, whether it leads anywhere or not. Where something stands at the last
place of the path the disk is left as it is, and where the file cannot come for another reason, only
directories do.
-/

set_option autoImplicit false
set_option relaxedAutoImplicit false

namespace ConnectorKit.Disk

open Disk.Path (Plain join ofNames)

/-- What stands at the last place of a path; a link there is not followed. -/
def entryAt? (d : Disk) (path : String) : Option Entry :=
  match d.slot path with
  | .ok (.name dir n _) => d.tree.lookup? (dir ++ [n])
  | .ok .noName => some .directory
  | .error _ => none

theorem entryAt?_of_slot {d : Disk} {path : String} {dir : Route} {n : Name} {closed : Bool}
    (last : d.slot path = .ok (.name dir n closed)) :
    d.entryAt? path = d.tree.lookup? (dir ++ [n]) := by
  unfold entryAt?
  rw [last]

section Faults

private theorem descend_ne_exists (t : Tree) (dir : Route) (parts : List String) :
    descend t dir parts ≠ .stopped .exists := by
  induction parts generalizing dir with
  | nil => simp [descend]
  | cons part rest ih =>
    unfold descend
    split
    · exact ih dir
    · split
      · exact ih dir.dropLast
      · split
        · simp
        · cases d : t.lookup? (dir ++ [part]) with
          | none => simp
          | some e =>
            cases e with
            | directory => exact ih (dir ++ [part])
            | link target => simp
            | file data executable =>
              dsimp only
              split <;> simp

private theorem follow_ne_exists (t : Tree) (links : Nat) (dir : Route) (parts : List String) :
    follow t links dir parts ≠ .error .exists := by
  fun_induction follow t links dir parts with
  | case1 links dir parts goal went => simp
  | case2 links dir parts fault went =>
    intro same
    cases same
    exact descend_ne_exists t dir parts went
  | case3 dir parts base target rest went => simp
  | case4 dir parts base target rest went links ih => exact ih

theorem slot_ne_exists (d : Disk) (path : String) : d.slot path ≠ .error .exists := by
  intro refused
  unfold slot at refused
  have possible : checkPath path ≠ .error .exists := by
    unfold checkPath
    split
    · simp
    · split
      · simp
      · split <;> simp
  cases checked : checkPath path with
  | error fault =>
    rw [checked] at refused possible
    cases refused
    exact possible rfl
  | ok =>
    simp only [checked, bind, Except.bind] at refused
    split at refused
    · cases refused
    · split at refused
      · rename_i fault went
        cases refused
        exact follow_ne_exists _ _ _ _ went
      · split at refused
        · cases refused
        · split at refused <;> cases refused

end Faults

section Entry

variable {d d' : Disk} {root n : String} {base dir r : Route} {names : List Name} {e : Entry}

theorem entryAt?_eq_some_iff (plain : ∀ m ∈ names ++ [n], Plain m) :
    d.entryAt? (join root (ofNames (names ++ [n]))) = some e ↔
      ∃ dir, d.slot (join root (ofNames (names ++ [n]))) = .ok (.name dir n false) ∧
        d.tree.lookup? (dir ++ [n]) = some e := by
  constructor
  · intro stands
    cases last : d.slot (join root (ofNames (names ++ [n]))) with
    | error fault =>
      rw [entryAt?, last] at stands
      cases stands
    | ok s =>
      obtain ⟨-, -, dir, -, rfl⟩ := (slot_join_iff plain).1 last
      rw [entryAt?_of_slot last] at stands
      exact ⟨dir, rfl, stands⟩
  · rintro ⟨dir, last, stands⟩
    rw [entryAt?_of_slot last, stands]

theorem entryAt?_mono (grown : d.tree.Extends d'.tree) (same : d'.current = d.current)
    (plain : ∀ m ∈ names ++ [n], Plain m)
    (stands : d.entryAt? (join root (ofNames (names ++ [n]))) = some e) :
    d'.entryAt? (join root (ofNames (names ++ [n]))) = some e := by
  obtain ⟨dir, last, there⟩ := (entryAt?_eq_some_iff plain).1 stands
  exact (entryAt?_eq_some_iff plain).2 ⟨dir, slot_mono grown same last, grown _ _ there⟩

theorem slot_of_locate (plain : ∀ m ∈ names ++ [n], Plain m)
    (found : d.locate (join root (ofNames (names ++ [n]))) = .ok r) :
    ∃ dir e, d.slot (join root (ofNames (names ++ [n]))) = .ok (.name dir n false) ∧
      d.tree.lookup? (dir ++ [n]) = some e := by
  have own := plain n (List.mem_append_right _ List.mem_cons_self)
  obtain ⟨⟨⟩, possible, went⟩ := bind_ok found
  rw [split_join_names plain, start_join_names plain] at went
  obtain ⟨dir, reached⟩ := follow_front went
  obtain ⟨left, on⟩ := follow_split [n] reached
  rw [went] at on
  by_cases short : n.utf8ByteSize ≤ nameLimit
  · have last : d.slot (join root (ofNames (names ++ [n]))) = .ok (.name dir n false) :=
      (slot_join_iff plain).2 ⟨possible, short, dir, reached, rfl⟩
    cases stands : d.tree.lookup? (dir ++ [n]) with
    | some e => exact ⟨dir, e, last, stands⟩
    | none =>
      rw [follow, descend_name own short, stands] at on
      cases on
  · rw [follow, descend_long own short] at on
    cases on

theorem not_holds_of_free (plain : ∀ m ∈ names ++ [n], Plain m)
    (free : d.entryAt? (join root (ofNames (names ++ [n]))) = none) :
    d.holds (join root (ofNames (names ++ [n]))) = false := by
  unfold holds
  cases found : d.locate (join root (ofNames (names ++ [n]))) with
  | error fault => rfl
  | ok r =>
    obtain ⟨dir, e, last, stands⟩ := slot_of_locate plain found
    rw [entryAt?_of_slot last, stands] at free
    cases free

theorem Paved.entryAt?_eq (paved : Paved d root names d') (plain : ∀ m ∈ names ++ [n], Plain m) :
    d'.entryAt? (join root (ofNames (names ++ [n]))) =
      d.entryAt? (join root (ofNames (names ++ [n]))) := by
  have inner : ∀ m ∈ names, Plain m := fun m mem => plain m (List.mem_append_left _ mem)
  refine Option.ext fun e => ⟨fun stands => ?_, ?_⟩
  · obtain ⟨dir, last, there⟩ := (entryAt?_eq_some_iff plain).1 stands
    obtain ⟨-, -, _, went, same⟩ := (slot_join_iff plain).1 last
    cases same
    obtain ⟨before, idle⟩ := paved.lookup?_eq inner went n
    rw [idle (by rw [← before, there]; nofun)] at stands
    exact stands
  · exact entryAt?_mono paved.gains.grown paved.gains.current plain

theorem link_of_not_holds (plain : ∀ m ∈ names ++ [n], Plain m)
    (stands : d.entryAt? (join root (ofNames (names ++ [n]))) = some e)
    (lost : d.holds (join root (ofNames (names ++ [n]))) = false) : ∃ target, e = .link target := by
  obtain ⟨dir, last, there⟩ := (entryAt?_eq_some_iff plain).1 stands
  have reached (direct : ∀ target, e ≠ .link target) : False := by
    unfold holds at lost
    rw [locate_slot last there direct] at lost
    cases lost
  cases e with
  | link target => exact ⟨target, rfl⟩
  | directory => exact (reached nofun).elim
  | file data executable => exact (reached nofun).elim

/-- Names of one length in a directory have paths that are possible together. -/
theorem checkPath_beside {n' : Name} (nonempty : names ≠ []) (plain : ∀ m ∈ names ++ [n], Plain m)
    (plain' : ∀ m ∈ names ++ [n'], Plain m) (clean' : '\x00' ∉ n'.toList)
    (size : n'.utf8ByteSize = n.utf8ByteSize)
    (possible : checkPath (join root (ofNames (names ++ [n]))) = .ok ()) :
    checkPath (join root (ofNames (names ++ [n']))) = .ok () := by
  have cut {k : Name} (plain : ∀ m ∈ names ++ [k], Plain m) : join root (ofNames (names ++ [k])) =
      (if root = "" ∨ root.toList.getLast? = some '/' then root else root ++ "/") ++
        (ofNames names ++ "/") ++ k := by
    rw [Path.join_relative (Path.not_isAbsolute_ofNames (by simp) plain), String.append_assoc]
    refine congrArg _ ?_
    rw [ofNames, String.intercalate_append_of_ne_nil nonempty (by simp),
      String.intercalate_singleton]
    rfl
  rw [cut plain] at possible
  rw [cut plain']
  generalize (if root = "" ∨ root.toList.getLast? = some '/' then root else root ++ "/") ++
    (ofNames names ++ "/") = front at possible ⊢
  obtain ⟨clean, real, short⟩ := checkPath_eq_ok_iff.1 possible
  rw [String.toList_append, List.mem_append, not_or] at clean
  rw [String.utf8ByteSize_append] at short
  refine checkPath_eq_ok_iff.2 ⟨?_, fun empty => ?_, ?_⟩
  · rw [String.toList_append, List.mem_append, not_or]
    exact ⟨clean.1, clean'⟩
  · have own := plain' n' (List.mem_append_right _ List.mem_cons_self)
    have none : n'.toList = [] := by
      have whole := congrArg String.toList empty
      rw [String.toList_append] at whole
      exact (List.append_eq_nil_iff.1 whole).2
    exact own.nonempty (String.toList_eq_nil_iff.1 none)
  · rw [String.utf8ByteSize_append, size]
    exact short

theorem slot_beside {n' : Name} (plain : ∀ m ∈ names ++ [n], Plain m)
    (plain' : ∀ m ∈ names ++ [n'], Plain m)
    (possible : checkPath (join root (ofNames (names ++ [n']))) = .ok ())
    (short : n'.utf8ByteSize ≤ nameLimit)
    (last : d.slot (join root (ofNames (names ++ [n]))) = .ok (.name dir n false)) :
    d.slot (join root (ofNames (names ++ [n']))) = .ok (.name dir n' false) := by
  obtain ⟨-, -, _, went, same⟩ := (slot_join_iff plain).1 last
  cases same
  exact (slot_join_iff plain').2 ⟨possible, short, dir, went, rfl⟩

end Entry

section Writing

variable {d : Disk} {root n : String} {base dir : Route} {names : List Name} {e : Entry}
  {data : ByteArray}

/-- Where the directory of a path is there, all depends on what stands in it. -/
theorem writeNew_of_slot (rooted : Rooted d root base) (plain : ∀ m ∈ names ++ [n], Plain m)
    (last : d.slot (join root (ofNames (names ++ [n]))) = .ok (.name dir n false))
    (data : ByteArray) : (writeNew (join root (ofNames (names ++ [n]))) data).perform d =
      match d.tree.lookup? (dir ++ [n]) with
      | some _ => (.error (.collision (join root (ofNames (names ++ [n])))), d)
      | none => (.ok (), d.put (dir ++ [n]) (.file data false)) := by
  have own := plain n (List.mem_append_right _ List.mem_cons_self)
  obtain ⟨possible, -, _, reached, same⟩ := (slot_join_iff plain).1 last
  cases same
  have above := rooted.beneath_directory reached
  rw [beneath, ← start_join_names plain] at reached
  have made := makeAscent_possible (split_join_names plain) own possible reached above
  cases held : d.holds (join root (ofNames (names ++ [n]))) with
  | true =>
    have taken : d.entryAt? (join root (ofNames (names ++ [n]))) ≠ none := by
      intro free
      rw [not_holds_of_free plain free] at held
      cases held
    rw [entryAt?_of_slot last] at taken
    obtain ⟨e, stands⟩ := Option.ne_none_iff_exists'.1 taken
    rw [stands, writeNew_of_holds held]
  | false =>
    have given := writeNew_of_not_holds held data
    generalize join root (ofNames (names ++ [n])) = path at *
    rw [given, withDirectory_perform, made]
    dsimp only
    rw [publishNew, last]
    dsimp only
    rw [publishAt_eq]
    cases d.tree.lookup? (dir ++ [n]) with
    | some e => rfl
    | none => rfl

theorem writeNew_taken (rooted : Rooted d root base) (plain : ∀ m ∈ names ++ [n], Plain m)
    (stands : d.entryAt? (join root (ofNames (names ++ [n]))) = some e) :
    (writeNew (join root (ofNames (names ++ [n]))) data).perform d =
      (.error (.collision (join root (ofNames (names ++ [n])))), d) := by
  obtain ⟨dir, last, there⟩ := (entryAt?_eq_some_iff plain).1 stands
  rw [writeNew_of_slot rooted plain last, there]

private theorem fits_in_slot (rooted : Rooted d root base) (plain : ∀ m ∈ names ++ [n], Plain m)
    (last : d.slot (join root (ofNames (names ++ [n]))) = .ok (.name dir n false))
    (free : d.tree.lookup? (dir ++ [n]) = none) (data : ByteArray) :
    d.tree.Fits (dir ++ [n]) (.file data false) := by
  obtain ⟨-, -, _, went, same⟩ := (slot_join_iff plain).1 last
  cases same
  refine ⟨by simp, ?_, by rw [free]; nofun⟩
  rw [List.dropLast_concat]
  exact rooted.beneath_directory went

/-- What writing comes to where nothing stands: the directories are made, and then the file, unless
that fails for another reason. -/
theorem writeNew_free (rooted : Rooted d root base) (plain : ∀ m ∈ names ++ [n], Plain m)
    (free : d.entryAt? (join root (ofNames (names ++ [n]))) = none) (data : ByteArray) :
    ∃ d₁, Paved d root names d₁ ∧
      ((∃ fault, (writeNew (join root (ofNames (names ++ [n]))) data).perform d =
          (.error (.disk fault), d₁)) ∨
        ∃ dir, d₁.slot (join root (ofNames (names ++ [n]))) = .ok (.name dir n false) ∧
          d₁.tree.lookup? (dir ++ [n]) = none ∧
          (writeNew (join root (ofNames (names ++ [n]))) data).perform d =
            (.ok (), d₁.put (dir ++ [n]) (.file data false))) := by
  have paved := makeAscent_above_paved rooted plain
  have still := paved.entryAt?_eq plain
  rw [free] at still
  have slots (d₁ : Disk) (s : Slot) := @slot_join_iff d₁ root n names s plain
  have given := writeNew_of_not_holds (not_holds_of_free plain free) data
  generalize join root (ofNames (names ++ [n])) = path at *
  rw [given, withDirectory_perform]
  generalize d.makeAscent (Path.above path) = made at still paved ⊢
  obtain ⟨fault | ⟨⟩, d₁⟩ := made
  · exact ⟨d₁, paved, .inl ⟨fault, rfl⟩⟩
  · refine ⟨d₁, paved, ?_⟩
    dsimp only at still ⊢
    cases last : d₁.slot path with
    | error fault =>
      have other : fault ≠ .exists := by
        rintro rfl
        exact slot_ne_exists d₁ path last
      refine .inl ⟨fault, ?_⟩
      rw [publishNew, last]
      cases fault <;> first | rfl | exact absurd rfl other
    | ok s =>
      obtain ⟨-, -, dir, -, rfl⟩ := (slots d₁ s).1 last
      rw [entryAt?_of_slot last] at still
      refine .inr ⟨dir, rfl, still, ?_⟩
      rw [publishNew, last]
      dsimp only
      rw [publishAt_eq, still]
      rfl

theorem writeNew_came {d' : Disk} (rooted : Rooted d root base)
    (plain : ∀ m ∈ names ++ [n], Plain m)
    (came : (writeNew (join root (ofNames (names ++ [n]))) data).perform d = (.ok (), d')) :
    d.entryAt? (join root (ofNames (names ++ [n]))) = none ∧
      d'.entryAt? (join root (ofNames (names ++ [n]))) = some (.file data false) ∧
      ∃ goal, d'.locate (join root (ofNames (names ++ [n]))) = .ok goal ∧
        Gains (Lacking d root names) (fun r bytes => r = goal ∧ bytes = data) d d' := by
  cases before : d.entryAt? (join root (ofNames (names ++ [n]))) with
  | some e =>
    rw [writeNew_taken rooted plain before] at came
    cases came
  | none =>
    obtain ⟨d₁, paved, ⟨fault, failed⟩ | ⟨dir, last, free, put⟩⟩ :=
      writeNew_free rooted plain before data
    · rw [failed] at came
      cases came
    · rw [put] at came
      cases came
      have fits := fits_in_slot (rooted.grown paved.gains) plain last free data
      have grown : Gains (Lacking d root names) (fun r bytes => r = dir ++ [n] ∧ bytes = data) d₁
          (d₁.put (dir ++ [n]) (.file data false)) := .put_file free ⟨rfl, rfl⟩
      have after := slot_mono grown.grown grown.current last
      have stands : (d₁.put (dir ++ [n]) (.file data false)).tree.lookup? (dir ++ [n]) =
          some (.file data false) := by rw [lookup?_put fits, if_pos rfl]
      refine ⟨rfl, ?_, dir ++ [n], locate_slot after stands nofun, ?_⟩
      · rw [entryAt?_of_slot after, stands]
      · exact (paved.gains.mono (fun _ => id) fun _ _ => False.elim).trans grown

theorem writeNew_failed {d' : Disk} {f : Failure} (rooted : Rooted d root base)
    (plain : ∀ m ∈ names ++ [n], Plain m)
    (failed : (writeNew (join root (ofNames (names ++ [n]))) data).perform d = (.error f, d')) :
    (f = .collision (join root (ofNames (names ++ [n]))) ↔
      d.entryAt? (join root (ofNames (names ++ [n]))) ≠ none) ∧ Paved d root names d' := by
  cases before : d.entryAt? (join root (ofNames (names ++ [n]))) with
  | some e =>
    rw [writeNew_taken rooted plain before] at failed
    cases failed
    exact ⟨⟨fun _ => nofun, fun _ => rfl⟩, .idle⟩
  | none =>
    obtain ⟨d₁, paved, ⟨fault, refused⟩ | ⟨dir, last, free, put⟩⟩ :=
      writeNew_free rooted plain before data
    · rw [refused] at failed
      cases failed
      exact ⟨⟨nofun, fun taken => absurd rfl taken⟩, paved⟩
    · rw [put] at failed
      cases failed

theorem writeNew_beside {n' : Name} (rooted : Rooted d root base)
    (plain : ∀ m ∈ names ++ [n], Plain m) (plain' : ∀ m ∈ names ++ [n'], Plain m)
    (other : n' ≠ n) (data : ByteArray) :
    ((writeNew (join root (ofNames (names ++ [n]))) data).perform d).2.entryAt?
      (join root (ofNames (names ++ [n']))) =
        d.entryAt? (join root (ofNames (names ++ [n']))) := by
  cases before : d.entryAt? (join root (ofNames (names ++ [n]))) with
  | some e => rw [writeNew_taken rooted plain before]
  | none =>
    obtain ⟨d₁, paved, ⟨fault, failed⟩ | ⟨dir, last, free, put⟩⟩ :=
      writeNew_free rooted plain before data
    · rw [failed]
      exact paved.entryAt?_eq plain'
    · rw [put, ← paved.entryAt?_eq plain']
      dsimp only
      have fits := fits_in_slot (rooted.grown paved.gains) plain last free data
      have grown : Gains (fun _ => False) (fun r _ => r = dir ++ [n]) d₁
          (d₁.put (dir ++ [n]) (.file data false)) := .put_file free rfl
      obtain ⟨-, -, _, went, same⟩ := (slot_join_iff plain).1 last
      cases same
      refine Option.ext fun e => ⟨fun stands => ?_, entryAt?_mono grown.grown grown.current plain'⟩
      obtain ⟨dir', last', there⟩ := (entryAt?_eq_some_iff plain').1 stands
      obtain ⟨possible, short, _, went', same⟩ := (slot_join_iff plain').1 last'
      cases same
      obtain rfl : dir = dir' :=
        Except.ok.inj ((beneath_mono grown.grown grown.current went).symm.trans went')
      have apart : dir ++ [n'] ≠ dir ++ [n] := by simpa using other
      rw [lookup?_put fits, if_neg apart] at there
      exact (entryAt?_eq_some_iff plain').2 ⟨dir, slot_beside plain plain' possible short last, there⟩

/-- A new file never takes the place of anything. Where something stands at the last place of the
path, links included, that is a collision and nothing changes; where the file comes nothing stood
there, and all else that comes are directories that were missing on the way; and where it fails
nothing comes but such directories. -/
theorem writeNew_never_replaces (rooted : Rooted d root base)
    (plain : ∀ m ∈ names ++ [n], Plain m) (data : ByteArray) :
    let path := join root (ofNames (names ++ [n]))
    let outcome := (writeNew path data).perform d
    (∀ e, d.entryAt? path = some e → outcome = (.error (.collision path), d)) ∧
    (outcome.1 = .ok () → d.entryAt? path = none ∧
      outcome.2.entryAt? path = some (.file data false) ∧
      ∃ goal, outcome.2.locate path = .ok goal ∧
        Gains (Lacking d root names) (fun r bytes => r = goal ∧ bytes = data) d outcome.2) ∧
    (∀ f, outcome.1 = .error f → (f = .collision path ↔ d.entryAt? path ≠ none) ∧
      Gains (Lacking d root names) (fun _ _ => False) d outcome.2) := by
  dsimp only
  refine ⟨fun e stands => writeNew_taken rooted plain stands, fun came => ?_, fun f failed => ?_⟩
  · exact writeNew_came rooted plain (Prod.ext came rfl)
  · obtain ⟨told, paved⟩ := writeNew_failed rooted plain (Prod.ext failed rfl)
    exact ⟨told, paved.gains⟩

end Writing

/-- A repository with a link to a directory, and a link that leads nowhere. -/
def withLinks : Disk :=
  ⟨((Tree.empty.withFile ["repo", "apis", "a", "x.go"]).put ["repo", "pkg"] (.link "apis")).put
    ["repo", "apis", "b"] (.link "gone"), []⟩

/-- A new file comes where the link to the directory leads; in the stead of the other link it does
not come. -/
theorem writeNew_never_replaces_link : Rooted withLinks "/repo" ["repo"] ∧
    (∀ m ∈ ["pkg", "c"] ++ ["x.go"], Plain m) ∧ (∀ m ∈ ["apis"] ++ ["b"], Plain m) ∧
    (writeNew (join "/repo" (ofNames ["apis", "b"])) .empty).perform withLinks =
      (.error (.collision "/repo/apis/b"), withLinks) ∧
    ∃ d', (writeNew (join "/repo" (ofNames ["pkg", "c", "x.go"])) .empty).perform withLinks =
        (.ok (), d') ∧
      d'.tree.lookup? ["repo", "apis", "c", "x.go"] = some (.file .empty false) ∧
      d'.tree.lookup? ["repo", "apis", "b"] = some (.link "gone") := by
  have rooted : Rooted withLinks "/repo" ["repo"] := ⟨by decide +kernel, by decide +kernel⟩
  have plain : ∀ m ∈ ["pkg", "c"] ++ ["x.go"], Plain m := by decide
  have plain' : ∀ m ∈ ["apis"] ++ ["b"], Plain m := by decide
  obtain ⟨taken, -⟩ := writeNew_never_replaces rooted plain' .empty
  have dangling : withLinks.entryAt? (join "/repo" (ofNames ["apis", "b"])) =
      some (.link "gone") := by decide +kernel
  obtain ⟨-, free, -⟩ := writeNew_never_replaces rooted plain .empty
  have went : ((writeNew (join "/repo" (ofNames ["pkg", "c", "x.go"])) .empty).perform
      withLinks).1.isOk = true := by decide +kernel
  obtain ⟨⟨⟩, d', made⟩ := Action.exists_of_isOk went
  obtain ⟨-, file, goal, led, gains⟩ := free (congrArg Prod.fst made)
  refine ⟨rooted, plain, plain', taken _ dangling, d', made, ?_, ?_⟩
  · have place : ((writeNew (join "/repo" (ofNames ["pkg", "c", "x.go"])) .empty).perform
        withLinks).2.tree.lookup? ["repo", "apis", "c", "x.go"] = some (.file .empty false) := by
      decide +kernel
    rwa [made] at place
  · have before : withLinks.tree.lookup? ["repo", "apis", "b"] = some (.link "gone") := by
      decide +kernel
    have after := gains.grown _ _ before
    change (((writeNew (join "/repo" (ofNames ["pkg", "c", "x.go"])) .empty).perform
      withLinks).2).tree.lookup? _ = _ at after
    rwa [made] at after

end ConnectorKit.Disk
