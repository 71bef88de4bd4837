import ConnectorKit.Field.Insertion
import ConnectorKit.Proofs.Disk.Kept
import ConnectorKit.Proofs.Disk.Path
import ConnectorKit.Proofs.Text.Line

/-!
What the insertion of a block does to the lines of a text: they all stay, in order, and the lines of
the block come between them.
-/

set_option autoImplicit false
set_option relaxedAutoImplicit false

namespace ConnectorKit.Field

theorem rows_insertAt (place : Nat) (block content : String) :
    let rows := Text.Line.rows content
    Text.Line.rows (Text.Line.ofRows (insertAt place block rows)) =
      rows.take place ++ (Text.Line.rows block ++ rows.drop place) := by
  dsimp only
  rw [insertAt, Text.Line.rows_ofRows (by simp), List.flatMap_append, List.flatMap_cons,
    Text.Line.flatMap_rows fun _ => List.mem_of_mem_take,
    Text.Line.flatMap_rows fun _ => List.mem_of_mem_drop]

theorem lines_insert? {parent block content changed : String}
    (h : insert? parent block content = some changed) :
    (Text.Bytes.lines content.toUTF8).Sublist (Text.Bytes.lines changed.toUTF8) := by
  obtain ⟨place, -, made⟩ := Option.bind_eq_some_iff.1 h
  cases made
  rw [Text.Line.lines_toUTF8, Text.Line.lines_toUTF8]
  refine List.Sublist.map _ ?_
  rw [rows_insertAt place block content]
  conv => lhs; rw [← List.take_append_drop place (Text.Line.rows content)]
  exact (List.Sublist.refl _).append (List.sublist_append_right _ _)

theorem readText_ok {d : Disk} {path content : String} (h : d.readText path = .ok content) :
    ∃ r executable, d.locate path = .ok r ∧
      d.tree.lookup? r = some (.file content.toUTF8 executable) := by
  obtain ⟨data, read, h⟩ := bind_ok h
  have text : String.fromUTF8? data = some content := by
    cases decoded : String.fromUTF8? data with
    | none =>
      rw [decoded] at h
      cases h
    | some text =>
      rw [decoded] at h
      cases h
      rfl
  obtain ⟨r, found, read⟩ := bind_ok read
  split at read
  · rename_i stored executable stands
    cases read
    rw [Text.Bytes.toUTF8_of_fromUTF8? text]
    exact ⟨r, executable, found, stands⟩
  · cases read
  · cases read

theorem readText_of_lookup? {d : Disk} {path content : String} {executable : Bool}
    (stands : d.lookup? path = some (.file content.toUTF8 executable)) :
    d.readText path = .ok content := by
  unfold Disk.lookup? at stands
  unfold Disk.readText Disk.read
  cases found : d.locate path with
  | error fault =>
    rw [found] at stands
    cases stands
  | ok r =>
    rw [found] at stands
    simp only [bind, Except.bind, stands, Text.Bytes.fromUTF8?_toUTF8]

theorem prepare_ok {engine : Text.Glob.Engine} {r : Request} {d : Disk}
    {root path changed block : String}
    (h : r.prepare engine d root = .ok (path, changed, block)) :
    ∃ kind content, Kind.ofText r.fieldType = .ok kind ∧ r.target engine d root = .ok path ∧
      d.readText (Disk.Path.join root path) = .ok content ∧ block = r.block kind ∧
      insert? r.parent block content = some changed := by
  obtain ⟨kind, typed, h⟩ := bind_ok h
  obtain ⟨target, aimed, h⟩ := bind_ok h
  obtain ⟨content, read, h⟩ := bind_ok h
  split at h
  · rename_i inserted put
    cases h
    exact ⟨kind, content, typed, aimed, mapError_ok read, rfl, put⟩
  · cases h

theorem prepare_eq {engine : Text.Glob.Engine} {r : Request} {d : Disk}
    {root path content changed : String} {kind : Kind}
    (typed : Kind.ofText r.fieldType = .ok kind) (aimed : r.target engine d root = .ok path)
    (read : d.readText (Disk.Path.join root path) = .ok content)
    (put : insert? r.parent (r.block kind) content = some changed) :
    r.prepare engine d root = .ok (path, changed, r.block kind) := by
  unfold Request.prepare
  rw [typed, aimed]
  simp only [bind, Except.bind, read, Except.mapError, put]
  rfl

theorem add_perform (engine : Text.Glob.Engine) (root : String) (r : Request) (d : Disk) :
    (add engine root r).perform d = match r.prepare engine d root with
      | .error f => (.error f, d)
      | .ok (path, content, block) =>
        match (Disk.replace (Disk.Path.join root path) content.toUTF8).perform d with
        | (.error f, d) => (.error f, d)
        | (.ok (), d) => (.ok ("Added field to " ++ path ++ "\n\n" ++ block), d) := by
  have seen : (get : Action Disk Disk).perform d = (.ok d, d) := rfl
  unfold add
  rw [Action.perform_bind, seen]
  dsimp only
  rw [Action.perform_bind]
  have prepared : (Action.ofExcept (r.prepare engine d root)).perform d =
    (r.prepare engine d root, d) := rfl
  rw [prepared]
  cases r.prepare engine d root with
  | error f => rfl
  | ok result =>
    obtain ⟨path, content, block⟩ := result
    dsimp only
    rw [Action.perform_bind]
    generalize (Disk.replace (Disk.Path.join root path) content.toUTF8).perform d = written
    rcases written with ⟨f | _, after⟩ <;> rfl

theorem add_of_target {engine : Text.Glob.Engine} {r : Request} {d : Disk} {root : String}
    {file : Option String}
    (aimed : r.target engine d root = Request.target engine { r with typesFile := file } d root) :
    (add engine root r).perform d = (add engine root { r with typesFile := file }).perform d := by
  have prepared : r.prepare engine d root =
      Request.prepare engine { r with typesFile := file } d root := by
    unfold Request.prepare
    rw [aimed]
    rfl
  rw [add_perform, add_perform, prepared]

theorem checkInside_ofNames {names : List String} (nonempty : names ≠ [])
    (plain : ∀ n ∈ names, Disk.Path.Plain n)
    (filled : Text.Blank.isBlankText (Disk.Path.ofNames names) = false) :
    checkInside (Disk.Path.ofNames names) = .ok () := by
  unfold checkInside
  rw [Disk.Path.components_ofNames nonempty plain, filled]
  simp

/-- Adding a field changes the file of the request alone, and only where it succeeds. -/
theorem add_kept (engine : Text.Glob.Engine) (root : String) (r : Request) (d : Disk)
    (route : Disk.Route) :
    Disk.Kept (((add engine root r).perform d).1.isOk ∧ ∃ path, r.target engine d root = .ok path ∧
        d.locate (Disk.Path.join root path) = .ok route) False
      (d.tree.lookup? route) (((add engine root r).perform d).2.tree.lookup? route) := by
  rw [add_perform]
  cases prepared : r.prepare engine d root with
  | error f => exact .same _
  | ok result =>
    obtain ⟨path, changed, block⟩ := result
    obtain ⟨_, content, -, aimed, read, -, inserted⟩ := prepare_ok prepared
    obtain ⟨goal, executable, found, stands⟩ := readText_ok read
    dsimp only
    have kept := Disk.replace_kept found stands (lines_insert? inserted) route
    generalize (Disk.replace (Disk.Path.join root path) changed.toUTF8).perform d = written
      at kept ⊢
    rcases written with ⟨f | _, after⟩
    · exact kept.mono (fun h => nomatch h.1) id
    · exact kept.mono (fun h => ⟨rfl, path, aimed, h.2 ▸ found⟩) id

end ConnectorKit.Field
