import ConnectorKit.Proofs.Disk.Write
import ConnectorKit.Scaffold.Controller
import ConnectorKit.Scaffold.Fixtures
import ConnectorKit.Scaffold.Identity
import ConnectorKit.Scaffold.Mock
import ConnectorKit.Scaffold.Types

/-!
What a scaffold does to a disk. Each is told from the skeletons that its request gives: they are
created in order, and nothing else comes but directories.
-/

set_option autoImplicit false
set_option relaxedAutoImplicit false

namespace ConnectorKit.Scaffold

open Disk (Adds Route)

/-- The data belongs to one of the skeletons, and stands where its path leads. -/
def Laid (root : String) (skeletons : List Skeleton) (d : Disk) (r : Route) (data : ByteArray) :
    Prop :=
  ∃ s ∈ skeletons, data = s.content.toUTF8 ∧ d.locate (Disk.Path.join root s.path) = .ok r

/-- A failure to write tells the path as it is seen from the repository. -/
def Skeleton.retell (s : Skeleton) : Failure → Failure
  | .collision _ => .collision s.path
  | f => f

theorem create_perform (root : String) (s : Skeleton) (d : Disk) : (s.create root).perform d =
    (((Disk.writeNew (Disk.Path.join root s.path) s.content.toUTF8).perform d).1.mapError s.retell,
      ((Disk.writeNew (Disk.Path.join root s.path) s.content.toUTF8).perform d).2) := by
  unfold Skeleton.create Action.perform
  dsimp only
  rcases Disk.writeNew (Disk.Path.join root s.path) s.content.toUTF8 d with ⟨f | _, after⟩
  · cases f <;> rfl
  · rfl

theorem create_ok_iff {root : String} {s : Skeleton} {d d' : Disk} :
    (s.create root).perform d = (.ok (), d') ↔
      (Disk.writeNew (Disk.Path.join root s.path) s.content.toUTF8).perform d = (.ok (), d') := by
  rw [create_perform]
  rcases (Disk.writeNew (Disk.Path.join root s.path) s.content.toUTF8).perform d with ⟨f | ⟨⟩, after⟩
  · exact ⟨nofun, nofun⟩
  · exact Iff.rfl

theorem create_adds (root : String) (s : Skeleton) (d : Disk) :
    Adds (Laid root [s] ((s.create root).perform d).2) d ((s.create root).perform d).2 := by
  rw [create_perform]
  refine (Disk.writeNew_adds (Disk.Path.join root s.path) s.content.toUTF8 d).mono (fun _ => id) ?_
  rintro r data ⟨rfl, found⟩
  exact ⟨s, List.mem_singleton_self s, rfl, found⟩

private theorem Laid.mono {root : String} {some all : List Skeleton} {d d' : Disk} {r : Route}
    {data : ByteArray} (h : Laid root some d r data) (sub : ∀ s ∈ some, s ∈ all)
    (grown : d.tree.Extends d'.tree) (same : d'.current = d.current) : Laid root all d' r data := by
  obtain ⟨s, mem, told, found⟩ := h
  exact ⟨s, sub s mem, told, Disk.locate_mono grown same found⟩

theorem createAll_cons (root : String) (s : Skeleton) (rest : List Skeleton) (d : Disk) :
    (createAll root (s :: rest)).perform d = match (s.create root).perform d with
      | (.ok (), d₁) => (createAll root rest).perform d₁
      | (.error f, d₁) => (.error f, d₁) := by
  have split : (createAll root (s :: rest)).perform d =
      (s.create root >>= fun _ => createAll root rest).perform d := rfl
  rw [split, Action.perform_bind]
  rcases (s.create root).perform d with ⟨f | ⟨⟩, d₁⟩
  · rfl
  · rfl

theorem createAll_adds (root : String) (skeletons : List Skeleton) (d : Disk) :
    Adds (Laid root skeletons ((createAll root skeletons).perform d).2) d
      ((createAll root skeletons).perform d).2 := by
  induction skeletons generalizing d with
  | nil => exact .refl d
  | cons s rest ih =>
    have first := create_adds root s d
    rw [createAll_cons]
    rcases created : (s.create root).perform d with ⟨f | _, d₁⟩
    · rw [created] at first
      exact first.mono (fun _ => id) fun r data laid =>
        laid.mono (by simp) (fun _ _ => id) rfl
    · rw [created] at first
      have later := ih d₁
      dsimp only
      refine .trans (first.mono (fun _ => id) fun r data laid => ?_)
        (later.mono (fun _ => id) fun r data laid => ?_)
      · exact laid.mono (by simp) later.grown later.current
      · exact laid.mono (fun _ => List.mem_cons_of_mem s) (fun _ _ => id) rfl

theorem createOne_perform (root what : String) (steps : List String)
    (given : Except Failure Skeleton) (d : Disk) :
    (createOne root what steps given).perform d = match given with
      | .error f => (.error f, d)
      | .ok s => (((s.create root).perform d).1.map fun _ => confirmation what s.path steps,
          ((s.create root).perform d).2) := by
  unfold createOne
  rw [Action.perform_bind]
  have result : (Action.ofExcept given).perform d = (given, d) := rfl
  rw [result]
  cases given with
  | error f => rfl
  | ok s =>
    dsimp only
    rw [Action.perform_bind]
    rcases (s.create root).perform d with ⟨f | _, after⟩ <;> rfl

theorem createOne_ok {root what text : String} {steps : List String}
    {given : Except Failure Skeleton} {d d' : Disk}
    (h : (createOne root what steps given).perform d = (.ok text, d')) :
    ∃ s, given = .ok s ∧ (s.create root).perform d = (.ok (), d') := by
  rw [createOne_perform] at h
  cases given with
  | error f => cases h
  | ok s =>
    dsimp only at h
    rcases made : (s.create root).perform d with ⟨f | ⟨⟩, after⟩
    · rw [made] at h
      cases h
    · rw [made] at h
      cases h
      exact ⟨s, rfl, made⟩

theorem createOne_adds (root what : String) (steps : List String)
    (given : Except Failure Skeleton) (d : Disk) :
    Adds (Laid root given.toOption.toList ((createOne root what steps given).perform d).2) d
      ((createOne root what steps given).perform d).2 := by
  rw [createOne_perform]
  cases given with
  | error f => exact .refl d
  | ok s => exact create_adds root s d

/-- The manifests of the request, if it is not refused. -/
def FixturesRequest.planned (r : FixturesRequest) : List Skeleton :=
  match r.names with
  | .error _ => []
  | .ok names => r.skeletons names

theorem fixtures_perform (root : String) (r : FixturesRequest) (d : Disk) :
    (fixtures root r).perform d = match r.names with
      | .error f => (.error f, d)
      | .ok names =>
        match (r.skeletons names).find? fun s => d.stands root s.path with
        | some s => (.error (.collision s.path), d)
        | none => (((createAll root (r.skeletons names)).perform d).1.map fun _ =>
            confirmation "test fixtures"
              (Layout.fixturesOf names.service r.version names.lower) FixturesRequest.nextSteps,
            ((createAll root (r.skeletons names)).perform d).2) := by
  unfold fixtures
  rw [Action.perform_bind]
  have result : (Action.ofExcept r.names).perform d = (r.names, d) := rfl
  rw [result]
  cases r.names with
  | error f => rfl
  | ok names =>
    have seen : (get : Action Disk Disk).perform d = (.ok d, d) := rfl
    dsimp only
    rw [Action.perform_bind, seen]
    dsimp only
    cases (r.skeletons names).find? fun s => d.stands root s.path with
    | some s => rfl
    | none =>
      dsimp only
      rw [Action.perform_bind]
      rcases (createAll root (r.skeletons names)).perform d with ⟨f | _, after⟩ <;> rfl

theorem fixtures_adds (root : String) (r : FixturesRequest) (d : Disk) :
    Adds (Laid root r.planned ((fixtures root r).perform d).2) d
      ((fixtures root r).perform d).2 := by
  rw [fixtures_perform]
  unfold FixturesRequest.planned
  cases r.names with
  | error f => exact .refl d
  | ok names =>
    dsimp only
    generalize r.skeletons names = skeletons
    cases skeletons.find? fun s => d.stands root s.path with
    | some s => exact .refl d
    | none => exact createAll_adds root skeletons d

end ConnectorKit.Scaffold
