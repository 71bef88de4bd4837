import ConnectorKit.Proofs.Controller.Agreement
import ConnectorKit.Proofs.Disk.Replace
import ConnectorKit.Proofs.Field.Place

/-!
Adding a field to a repository. One file gets the block at the site of its rows, from where it can be
taken out again, and nothing else changes; where the addition fails nothing changes at all.
-/

set_option autoImplicit false
set_option relaxedAutoImplicit false

namespace ConnectorKit.Field

open Disk (Below Inside Repository Route)

section Rows

variable {parent content : String}

namespace Site

theorem rows_withBlock (site : Site parent) (whole : Text.Line.rows content = site.rows)
    (block : String) : Text.Line.rows (Text.Line.ofRows (site.withBlock block)) =
      (Text.Line.rows content).take site.place ++
        (Text.Line.rows block ++ (Text.Line.rows content).drop site.place) := by
  rw [← site.insertAt_place, ← whole]
  exact rows_insertAt site.place block content

theorem place_le (site : Site parent) : site.place ≤ site.rows.length := by
  simp only [place, rows, List.length_append, List.length_cons]
  omega

theorem take_changed (site : Site parent) (whole : Text.Line.rows content = site.rows)
    (block : String) :
    (Text.Line.rows (Text.Line.ofRows (site.withBlock block))).take site.place = site.above := by
  rw [site.rows_withBlock whole, whole, site.rows_eq_above, ← site.length_above, List.take_left,
    List.take_left]

theorem delete_block (site : Site parent) (whole : Text.Line.rows content = site.rows)
    (block : String) :
    let changed := Text.Line.rows (Text.Line.ofRows (site.withBlock block))
    Text.Line.ofRows (changed.take site.place ++
      changed.drop (site.place + (Text.Line.rows block).length)) = content := by
  dsimp only
  have long : ((Text.Line.rows content).take site.place).length = site.place := by
    rw [List.length_take, whole]
    exact Nat.min_eq_left site.place_le
  rw [site.rows_withBlock whole, List.take_left' long, ← List.drop_drop, List.drop_left' long,
    List.drop_left, List.take_append_drop, Text.Line.ofRows_rows]

theorem changed_ne (site : Site parent) (whole : Text.Line.rows content = site.rows)
    (block : String) : Text.Line.ofRows (site.withBlock block) ≠ content := by
  intro same
  have cut := site.rows_withBlock whole block
  rw [same] at cut
  have longer := congrArg List.length cut
  have some_ := List.length_pos_iff.2 (Text.Line.rows_ne_nil block)
  simp only [List.length_append, List.length_take, List.length_drop] at longer
  omega

end Site

end Rows

variable {engine : Text.Glob.Engine} {d : Disk} {root : String} {base : Route} {r : Request}

theorem inside_of_target (repo : Repository d root base) {path : String}
    (aimed : r.target engine d root = .ok path) : Inside path := by
  unfold Request.target at aimed
  cases named : r.typesFile with
  | some given =>
    rw [named] at aimed
    obtain ⟨⟨⟩, checked, same⟩ := bind_ok aimed
    cases same
    unfold checkInside at checked
    dsimp only at checked
    split at checked
    · cases checked
    · rename_i inner
      intro c mem
      refine ⟨?_, ?_⟩ <;>
      · rintro rfl
        exact inner (.inr (List.any_eq_true.2 ⟨_, mem, rfl⟩))
  | none =>
    rw [named] at aimed
    obtain ⟨l, located, same⟩ := bind_ok aimed
    cases same
    have first := Controller.taken_of_locate located
    have mem := List.mem_of_head? first
    rw [Controller.findings, Layout.apisDirectory_eq,
      Controller.mem_listedNamed_iff repo (by decide) (by decide)] at mem
    obtain ⟨-, front, n, data, x, stands, -, told⟩ := mem
    rw [told]
    exact Disk.inside_ofNames (by simp) (repo.plain_of_stands stands)

/-- The addition of a field to one file of a repository, at the site of its rows; `text` is the
confirmation. -/
structure Addition (engine : Text.Glob.Engine) (root : String) (base : Route) (r : Request)
    (text : String) (d d' : Disk) where
  kind : Kind
  path : String
  goal : Route
  content : String
  executable : Bool
  site : Site r.parent
  typed : Kind.ofText r.fieldType = .ok kind
  aimed : r.target engine d root = .ok path
  found : d.locate (Disk.Path.join root path) = .ok goal
  below : Below base goal
  stood : d.tree.lookup? goal = some (.file content.toUTF8 executable)
  rows_eq : Text.Line.rows content = site.rows
  /-- The file has the old rows, with the block at the site. -/
  stands : d'.tree.lookup? goal =
    some (.file (Text.Line.ofRows (site.withBlock (r.block kind))).toUTF8 false)
  others : ∀ route, route ≠ goal → d'.tree.lookup? route = d.tree.lookup? route
  current : d'.current = d.current
  confirmed : text = "Added field to " ++ path ++ "\n\n" ++ r.block kind

theorem add_found (repo : Repository d root base) {goal : Route} {kind : Kind}
    {path content : String} {executable : Bool} (typed : Kind.ofText r.fieldType = .ok kind)
    (aimed : r.target engine d root = .ok path) (found : d.locate (Disk.Path.join root path) = .ok goal)
    (stood : d.tree.lookup? goal = some (.file content.toUTF8 executable)) (site : Site r.parent)
    (whole : Text.Line.rows content = site.rows) : (add engine root r).perform d =
      (.ok ("Added field to " ++ path ++ "\n\n" ++ r.block kind),
        d.put goal (.file (Text.Line.ofRows (site.withBlock (r.block kind))).toUTF8 false)) := by
  have stands : d.lookup? (Disk.Path.join root path) = some (.file content.toUTF8 executable) := by
    rw [Disk.lookup?, found]
    exact stood
  have put : insert? r.parent (r.block kind) content =
      some (Text.Line.ofRows (site.withBlock (r.block kind))) :=
    insert?_eq_some_iff.2 ⟨site, whole, rfl⟩
  rw [add_perform, prepare_eq typed aimed (readText_of_lookup? stands) put]
  dsimp only
  rw [(repo.replace_found (inside_of_target repo aimed) _ found stood).2]

theorem addition_of_prepare (repo : Repository d root base) {path changed block : String}
    (prepared : r.prepare engine d root = .ok (path, changed, block)) :
    ∃ text d', (add engine root r).perform d = (.ok text, d') ∧
      Nonempty (Addition engine root base r text d d') := by
  obtain ⟨kind, content, typed, aimed, read, rfl, put⟩ := prepare_ok prepared
  obtain ⟨goal, executable, found, stood⟩ := readText_ok read
  obtain ⟨site, rows_eq, rfl⟩ := insert?_eq_some_iff.1 put
  have below := (repo.replace_found (inside_of_target repo aimed) .empty found stood).1
  refine ⟨_, _, add_found repo typed aimed found stood site rows_eq, ⟨{
    kind, path, goal, content, executable, site, typed, aimed, found, below, stood, rows_eq
    stands := ?_, others := ?_, current := rfl, confirmed := rfl }⟩⟩
  · rw [Disk.lookup?_put (Disk.fits_of_file stood), if_pos rfl]
  · intro route other
    rw [Disk.lookup?_put (Disk.fits_of_file stood), if_neg other]

/-- An addition is prepared in full before anything is written, and then it does not fail. -/
theorem add_cases (repo : Repository d root base) (r : Request) :
    (∃ f, (add engine root r).perform d = (.error f, d)) ∨
      ∃ text d', (add engine root r).perform d = (.ok text, d') ∧
        Nonempty (Addition engine root base r text d d') := by
  cases prepared : r.prepare engine d root with
  | error f =>
    rw [add_perform, prepared]
    exact .inl ⟨f, rfl⟩
  | ok result => exact .inr (addition_of_prepare repo prepared)

theorem addition_of_ok (repo : Repository d root base) {text : String} {d' : Disk}
    (added : (add engine root r).perform d = (.ok text, d')) :
    Nonempty (Addition engine root base r text d d') := by
  rcases add_cases repo r with ⟨f, failed⟩ | ⟨text', d₁, went, some_⟩
  · rw [failed] at added
    cases added
  · rw [went] at added
    cases added
    exact some_

/-- A successful addition changes one file below the root, and that by the block alone: without its
rows the file is the old one, byte for byte, and the block is what the confirmation ends in. A failed
one changes nothing. -/
theorem add_inserts_block (repo : Repository d root base) (r : Request) :
    (∀ text d', (add engine root r).perform d = (.ok text, d') →
      ∃ a : Addition engine root base r text d d',
        let changed := Text.Line.ofRows (a.site.withBlock (r.block a.kind))
        changed ≠ a.content ∧
        changed = Text.Line.ofRows ((Text.Line.rows a.content).take a.site.place ++
          r.block a.kind :: (Text.Line.rows a.content).drop a.site.place) ∧
        Text.Line.ofRows ((Text.Line.rows changed).take a.site.place ++
          (Text.Line.rows changed).drop
            (a.site.place + (Text.Line.rows (r.block a.kind)).length)) = a.content ∧
        ∃ front, text = front ++ r.block a.kind) ∧
    ∀ f d', (add engine root r).perform d = (.error f, d') → d' = d := by
  rcases add_cases repo r with ⟨f, failed⟩ | ⟨text, d', added, ⟨a⟩⟩
  · rw [failed]
    exact ⟨nofun, fun _ _ same => (Prod.mk.inj same).2.symm⟩
  · rw [added]
    refine ⟨?_, nofun⟩
    rintro _ _ ⟨⟩
    refine ⟨a, a.site.changed_ne a.rows_eq _, ?_, a.site.delete_block a.rows_eq _, _, a.confirmed⟩
    rw [← a.site.insertAt_place, ← a.rows_eq]
    rfl

/-- A repository with one types file. -/
def withTypes (content : String) : Disk :=
  ⟨(Disk.Tree.empty.put ["repo"] .directory).put ["repo", "disk_types.go"]
    (.file content.toUTF8 false), []⟩

theorem Addition.content_eq {content text : String} {d' : Disk}
    (repo : Repository (withTypes content) "/repo" ["repo"]) (named : r.typesFile = some "disk_types.go")
    (a : Addition .unlimited "/repo" ["repo"] r text (withTypes content) d') : a.content = content := by
  obtain ⟨kind, path, goal, old, executable, site, typed, aimed, found, below, stood, -⟩ := a
  dsimp only
  have stands : (withTypes content).tree.lookup? ["repo", "disk_types.go"] =
      some (.file content.toUTF8 false) := by
    have free : (Disk.Tree.empty.put ["repo"] .directory).lookup? ["repo", "disk_types.go"] = none := by
      decide
    exact (Disk.Tree.lookup?_put ⟨by simp, by decide, by rw [free]; nofun⟩ _).trans (if_pos rfl)
  have told : path = "disk_types.go" := by
    unfold Request.target at aimed
    rw [named] at aimed
    obtain ⟨-, -, same⟩ := bind_ok aimed
    exact (Except.ok.inj same).symm
  have file : "disk_types.go" = Disk.Path.ofNames ["disk_types.go"] := by decide
  rw [told, file, repo.locate_iff (by decide) (by decide)] at found
  obtain ⟨-, rfl, -⟩ := found
  rw [List.singleton_append, stands, Option.some.injEq, Disk.Entry.file.injEq] at stood
  exact (String.toByteArray_inj.1 stood.1).symm

/-- A size for a disk, with the file named. -/
def sizeRequest : Request where
  resource := "Disk"
  fieldName := "Size"
  fieldType := "int64"
  protoPath := "a.Disk.size"
  parentType := none
  description := none
  jsonName := none
  typesFile := some "disk_types.go"

/-- A struct with carriage returns and without a line feed at its end keeps both. -/
theorem add_inserts_block_returns :
    let d := withTypes "type DiskSpec struct \x7b\r\n\tName string `json:\"name\"`\r\n\x7d"
    Repository d "/repo" ["repo"] ∧
      (∃ text d', (add .unlimited "/repo" sizeRequest).perform d = (.ok text, d') ∧
        ∃ a : Addition .unlimited "/repo" ["repo"] sizeRequest text d d', a.path = "disk_types.go") ∧
      ((add .unlimited "/repo" sizeRequest).perform d).2.tree.lookup? ["repo", "disk_types.go"] =
        some (.file ("type DiskSpec struct \x7b\r\n\tName string `json:\"name\"`\r\n" ++
          "\t// +kcc:proto=a.Disk.size\n\tSize *int64 `json:\"size,omitempty\"`\n\x7d").toUTF8
          false) := by
  intro d
  have repo : Repository d "/repo" ["repo"] := by decide +kernel
  refine ⟨repo, ?_, by decide +kernel⟩
  obtain ⟨text, d', added⟩ := Action.exists_of_isOk
    (by decide +kernel : ((add .unlimited "/repo" sizeRequest).perform d).1.isOk = true)
  obtain ⟨a, -⟩ := (add_inserts_block repo sizeRequest).1 text d' added
  exact ⟨text, d', added, a, (Except.ok.inj a.aimed).symm⟩

end ConnectorKit.Field
