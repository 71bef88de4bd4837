import ConnectorKit.Proofs.Disk.Fresh
import ConnectorKit.Proofs.Scaffold.Placement

/-!
The two fixtures of a resource come together or not at all, with one exception. Whether they are there
already is seen by following links, but a new file does not take the place of a link: where nothing
stands in the way of the first and a link that leads nowhere stands in that of the second, the first
comes alone.
-/

set_option autoImplicit false
set_option relaxedAutoImplicit false

namespace ConnectorKit.Scaffold

open Disk (Rooted Route checkPath)
open Disk.Path (Plain join ofNames)
open Layout (Artifact)

/-- Nothing stands at the first path, and a link that leads nowhere at the second. -/
structure Lopsided (d : Disk) (create update : String) : Prop where
  free : d.entryAt? create = none
  linked : ∃ target, d.entryAt? update = some (.link target)
  lost : d.holds update = false

section Pair

variable {d d₁ : Disk} {root : String} {base : Route} {names : List Disk.Name} {m n : Disk.Name}
  {c u : Skeleton}

/-- Two skeletons for names in one directory, the paths of which are both possible or both not. -/
structure Pair (root : String) (names : List Disk.Name) (m n : Disk.Name) (c u : Skeleton) :
    Prop where
  first : c.path = ofNames (names ++ [m])
  second : u.path = ofNames (names ++ [n])
  plain : ∀ k ∈ names ++ [m], Plain k
  plain' : ∀ k ∈ names ++ [n], Plain k
  other : n ≠ m
  alike : checkPath (join root (ofNames (names ++ [m]))) = .ok () ↔
    checkPath (join root (ofNames (names ++ [n]))) = .ok ()
  short : m.utf8ByteSize ≤ Disk.nameLimit
  short' : n.utf8ByteSize ≤ Disk.nameLimit

/-- What creating two files may come to: both come, or neither does, or the first comes alone. -/
inductive Created {α : Type} (d : Disk) (create update : String) (c u : Skeleton) :
    Except Failure α × Disk → Prop
  | both {x : α} {d' : Disk} : d.entryAt? create = none → d.entryAt? update = none →
      d'.entryAt? create = some (.file c.content.toUTF8 false) →
      d'.entryAt? update = some (.file u.content.toUTF8 false) →
      Created d create update c u (.ok x, d')
  | neither {f : Failure} {d' : Disk} : d'.entryAt? create = d.entryAt? create →
      d'.entryAt? update = d.entryAt? update → ¬ Lopsided d create update →
      Created d create update c u (.error f, d')
  | first {d' : Disk} : Lopsided d create update →
      d'.entryAt? create = some (.file c.content.toUTF8 false) →
      d'.entryAt? update = d.entryAt? update →
      Created d create update c u (.error (.collision u.path), d')

theorem Created.retold {α β : Type} {create update : String} {confirm : α → β}
    {outcome : Except Failure α × Disk} (h : Created d create update c u outcome) :
    Created d create update c u (outcome.1.map confirm, outcome.2) := by
  cases h with
  | both free free' file file' => exact .both free free' file file'
  | neither same same' even => exact .neither same same' even
  | first lop file same => exact .first lop file same

namespace Pair

private theorem not_lopsided (pair : Pair root names m n c u) (rooted : Rooted d root base)
    {f : Failure} (failed : (c.create root).perform d = (.error f, d₁)) :
    ¬ Lopsided d (join root c.path) (join root u.path) := by
  rintro ⟨free, ⟨target, linked⟩, -⟩
  rw [pair.first] at free
  rw [pair.second] at linked
  obtain ⟨dir, last, -⟩ := (Disk.entryAt?_eq_some_iff pair.plain').1 linked
  obtain ⟨possible, -⟩ := (Disk.slot_join_iff pair.plain').1 last
  have here := Disk.slot_beside pair.plain' pair.plain (pair.alike.2 possible) pair.short last
  rw [Disk.entryAt?_of_slot here] at free
  have wrote := Disk.writeNew_of_slot rooted pair.plain here c.content.toUTF8
  rw [free] at wrote
  rw [create_perform, pair.first, wrote] at failed
  cases failed

theorem created (pair : Pair root names m n c u) (rooted : Rooted d root base)
    (lost : d.holds (join root u.path) = false) :
    Created d (join root c.path) (join root u.path) c u ((createAll root [c, u]).perform d) := by
  have beside := Disk.writeNew_beside rooted pair.plain pair.plain' pair.other c.content.toUTF8
  rw [createAll_cons]
  rcases made : (c.create root).perform d with ⟨f | ⟨⟩, d₁⟩
  · have lop := pair.not_lopsided rooted made
    rw [create_perform, pair.first] at made
    rw [pair.first, pair.second] at lop ⊢
    rcases wrote : (Disk.writeNew (join root (ofNames (names ++ [m]))) c.content.toUTF8).perform d
      with ⟨f' | ⟨⟩, d'⟩
    · rw [wrote] at made
      cases made
      obtain ⟨-, paved⟩ := Disk.writeNew_failed rooted pair.plain wrote
      exact .neither (paved.entryAt?_eq pair.plain) (paved.entryAt?_eq pair.plain') lop
    · rw [wrote] at made
      cases made
  · have wrote := create_ok_iff.1 made
    rw [pair.first] at wrote
    rw [wrote] at beside
    obtain ⟨free, file, goal, -, gains⟩ := Disk.writeNew_came rooted pair.plain wrote
    have rooted₁ := rooted.grown gains
    dsimp only at beside ⊢
    rw [createAll_cons, create_perform]
    rw [pair.first, pair.second] at *
    cases before : d.entryAt? (join root (ofNames (names ++ [n]))) with
    | some e =>
      obtain ⟨target, rfl⟩ := Disk.link_of_not_holds pair.plain' before lost
      rw [before] at beside
      rw [Disk.writeNew_taken rooted₁ pair.plain' beside]
      exact .first ⟨free, ⟨target, before⟩, lost⟩ file (beside.trans before.symm)
    | none =>
      obtain ⟨dir, last, -⟩ := (Disk.entryAt?_eq_some_iff pair.plain).1 file
      obtain ⟨possible, -⟩ := (Disk.slot_join_iff pair.plain).1 last
      have here := Disk.slot_beside pair.plain pair.plain' (pair.alike.1 possible) pair.short' last
      have came := Disk.writeNew_of_slot rooted₁ pair.plain' here u.content.toUTF8
      rw [before] at beside
      rw [← Disk.entryAt?_of_slot here, beside] at came
      obtain ⟨-, file', goal', -, gains'⟩ := Disk.writeNew_came rooted₁ pair.plain' came
      rw [came]
      have still := Disk.entryAt?_mono gains'.grown gains'.current pair.plain file
      exact .both free before still file'

end Pair

end Pair

section Request

variable {d : Disk} {root : String} {base : Route} {r : FixturesRequest} {names : Names}

private theorem fixtures_pair (root : String) (named : r.names = .ok names) :
    ∃ c u, r.skeletons names = [c, u] ∧
      c.path = Layout.fixtureFile r.service r.version (Text.Case.lower r.resource)
        Layout.createFixture ∧
      u.path = Layout.fixtureFile r.service r.version (Text.Case.lower r.resource)
        Layout.updateFixture ∧
      c.content = manifest names r.version none ∧
      u.content = manifest names r.version (some "Updated description") ∧
      Pair root (Artifact.create.directories r.service r.version (Text.Case.lower r.resource))
        "create.yaml" "update.yaml" c u := by
  have placed := FixturesRequest.skeletons_placed named
  obtain _ | ⟨first, _ | ⟨second, _ | _⟩⟩ := placed
  have plain := first.plain .create
  have plain' := first.plain .update
  refine ⟨_, _, rfl, first.path, second.path, rfl, rfl, ?_⟩
  have size : "update.yaml".utf8ByteSize = "create.yaml".utf8ByteSize := by decide
  exact {
    first := first.path.trans (Artifact.path_eq _ _ _ .create)
    second := second.path.trans (Artifact.path_eq _ _ _ .update)
    plain := plain
    plain' := plain'
    other := by decide
    alike := ⟨Disk.checkPath_beside nofun plain plain' (by decide) size,
      Disk.checkPath_beside nofun plain' plain (by decide) size.symm⟩
    short := by decide
    short' := by decide }

private theorem fixtures_created (rooted : Rooted d root base) (named : r.names = .ok names) :
    ∃ c u, c.path = Layout.fixtureFile r.service r.version (Text.Case.lower r.resource)
        Layout.createFixture ∧
      u.path = Layout.fixtureFile r.service r.version (Text.Case.lower r.resource)
        Layout.updateFixture ∧
      c.content = manifest names r.version none ∧
      u.content = manifest names r.version (some "Updated description") ∧
      Created d (join root c.path) (join root u.path) c u ((fixtures root r).perform d) := by
  obtain ⟨c, u, planned, first, second, content, content', pair⟩ := fixtures_pair root named
  refine ⟨c, u, first, second, content, content', ?_⟩
  rw [fixtures_perform, named]
  dsimp only
  rw [planned, List.find?_cons, Disk.stands]
  cases held : d.holds (join root c.path) with
  | true =>
    refine .neither rfl rfl fun lop => ?_
    have free := lop.free
    rw [pair.first] at free held
    rw [Disk.not_holds_of_free pair.plain free] at held
    cases held
  | false =>
    rw [List.find?_cons, Disk.stands]
    cases lost : d.holds (join root u.path) with
    | true =>
      refine .neither rfl rfl fun lop => ?_
      rw [lop.lost] at lost
      cases lost
    | false => exact (pair.created rooted lost).retold

/-- The fixtures of a resource come together where nothing stands at either path, and otherwise both
paths are as they were; except that the first comes alone exactly where nothing stands at its path and
a link that leads nowhere at the other. -/
theorem fixtures_come_together (rooted : Rooted d root base) (r : FixturesRequest) :
    let path := Layout.fixtureFile r.service r.version (Text.Case.lower r.resource)
    let create := join root (path Layout.createFixture)
    let update := join root (path Layout.updateFixture)
    let outcome := (fixtures root r).perform d
    (∀ text, outcome.1 = .ok text → d.entryAt? create = none ∧ d.entryAt? update = none ∧
      ∃ names, r.names = .ok names ∧
        outcome.2.entryAt? create = some (.file (manifest names r.version none).toUTF8 false) ∧
        outcome.2.entryAt? update =
          some (.file (manifest names r.version (some "Updated description")).toUTF8 false)) ∧
    (∀ f, outcome.1 = .error f → (outcome.2.entryAt? create = d.entryAt? create ∧
        outcome.2.entryAt? update = d.entryAt? update ↔
      ¬ (r.names.isOk = true ∧ Lopsided d create update))) ∧
    ∀ names, r.names = .ok names → Lopsided d create update →
      outcome.1 = .error (.collision (path Layout.updateFixture)) ∧
      outcome.2.entryAt? create = some (.file (manifest names r.version none).toUTF8 false) ∧
      outcome.2.entryAt? update = d.entryAt? update := by
  dsimp only
  cases named : r.names with
  | error f =>
    rw [fixtures_perform, named]
    refine ⟨nofun, fun f same => ?_, nofun⟩
    exact ⟨fun _ lop => (nomatch lop.1), fun _ => ⟨rfl, rfl⟩⟩
  | ok names =>
    obtain ⟨c, u, first, second, content, content', created⟩ := fixtures_created rooted named
    rw [← first, ← second]
    generalize (fixtures root r).perform d = outcome at created ⊢
    cases created with
    | both free free' file file' =>
      rw [content] at file
      rw [content'] at file'
      refine ⟨fun _ _ => ⟨free, free', names, rfl, file, file'⟩, nofun, fun _ _ lop => ?_⟩
      obtain ⟨target, linked⟩ := lop.linked
      rw [free'] at linked
      cases linked
    | neither same same' even =>
      refine ⟨nofun, fun _ _ => ⟨fun _ lop => even lop.2, fun _ => ⟨same, same'⟩⟩, ?_⟩
      exact fun _ _ lop => absurd lop even
    | first lop file same =>
      rw [content] at file
      refine ⟨nofun, fun _ _ => ⟨fun kept _ => ?_, fun even => absurd ⟨rfl, lop⟩ even⟩, ?_⟩
      · rw [file, lop.free] at kept
        cases kept.1
      · rintro _ ⟨⟩ -
        exact ⟨rfl, file, same⟩

end Request

/-- A repository with a link that leads nowhere where the second fixture of a resource should be. -/
def withLostUpdate : Disk :=
  let place := ["repo", "pkg", "test", "resourcefixture", "testdata", "basic", "compute", "v1beta1",
    "urlmap", "update.yaml"]
  ⟨(Disk.Tree.empty.withFile place).put place (.link "missing.yaml"), []⟩

/-- The fixtures of that resource. -/
def lostRequest : FixturesRequest :=
  ⟨"URLMap", "compute", "v1beta1"⟩

/-- The path of one of them. -/
def lostPath (name : String) : String :=
  Layout.fixtureFile "compute" "v1beta1" "urlmap" name

private theorem rooted_lost : Rooted withLostUpdate "/repo" ["repo"] :=
  ⟨by decide +kernel, by decide +kernel⟩

private theorem names_lost : lostRequest.names = .ok {
    resource := "URLMap"
    lower := "urlmap"
    service := "compute"
    kind := "ComputeURLMap" } := by
  decide +kernel

private theorem lopsided_lost : Lopsided withLostUpdate
    (join "/repo" (lostPath Layout.createFixture)) (join "/repo" (lostPath Layout.updateFixture)) :=
  ⟨by decide +kernel, ⟨"missing.yaml", by decide +kernel⟩, by decide +kernel⟩

/-- There the first comes, and the failure for the second leaves it. -/
theorem fixtures_come_together_lost : Rooted withLostUpdate "/repo" ["repo"] ∧
    ∃ d' data target, (fixtures "/repo" lostRequest).perform withLostUpdate =
        (.error (.collision (lostPath Layout.updateFixture)), d') ∧
      d'.entryAt? (join "/repo" (lostPath Layout.createFixture)) = some (.file data false) ∧
      d'.entryAt? (join "/repo" (lostPath Layout.updateFixture)) = some (.link target) := by
  have lower : Text.Case.lower lostRequest.resource = "urlmap" := by decide +kernel
  have placed (name : String) : Layout.fixtureFile lostRequest.service lostRequest.version "urlmap"
      name = lostPath name := rfl
  obtain ⟨-, -, alone⟩ := fixtures_come_together rooted_lost lostRequest
  simp only [lower, placed] at alone
  obtain ⟨collides, file, same⟩ := alone _ names_lost lopsided_lost
  obtain ⟨target, linked⟩ := lopsided_lost.linked
  rcases done : (fixtures "/repo" lostRequest).perform withLostUpdate with ⟨outcome, d'⟩
  rw [done] at collides file same
  subst collides
  exact ⟨rooted_lost, d', _, target, rfl, file, same.trans linked⟩

/-- So a scaffold that fails may have created a fixture. -/
theorem first_fixture_comes_alone : Rooted withLostUpdate "/repo" ["repo"] ∧
    ∃ f d', (fixtures "/repo" lostRequest).perform withLostUpdate = (.error f, d') ∧
      withLostUpdate.entryAt? (join "/repo" (lostPath Layout.createFixture)) = none ∧
      d'.entryAt? (join "/repo" (lostPath Layout.createFixture)) ≠ none := by
  have lower : Text.Case.lower lostRequest.resource = "urlmap" := by decide +kernel
  obtain ⟨c, u, first, second, -, -, created⟩ := fixtures_created rooted_lost names_lost
  rw [lower] at first second
  rw [first, second] at created
  have even := lopsided_lost
  rcases done : (fixtures "/repo" lostRequest).perform withLostUpdate with ⟨outcome, d'⟩
  rw [done] at created
  cases created with
  | both free free' file file' =>
    obtain ⟨target, linked⟩ := even.linked
    exact absurd (free'.symm.trans linked) nofun
  | neither same same' other => exact absurd even other
  | first lop file same =>
    refine ⟨rooted_lost, _, _, rfl, even.free, fun none => ?_⟩
    exact absurd (file.symm.trans none) nofun

end ConnectorKit.Scaffold
