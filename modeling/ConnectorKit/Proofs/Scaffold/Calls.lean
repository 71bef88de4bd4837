import ConnectorKit.Proofs.Disk.Confined
import ConnectorKit.Proofs.Scaffold.Placement
import Mathlib.Logic.Relation

/-!
Scaffolds by the files that they make. A scaffold is refused, or it creates files of its resource one
after the other; so it is confined to the ways to these files, and two scaffolds with nothing to make
in common can be swapped.
-/

set_option autoImplicit false
set_option relaxedAutoImplicit false

namespace ConnectorKit.Scaffold

open Disk (AgreeOn Below Confined GainsFile OnTheWay Repository Route)
open Disk.Path (Plain ofNames)
open Layout (Artifact)

variable {d d' : Disk} {root : String} {base : Route} {a : Artifact} {as bs all : List Artifact}
  {resource service version : String} {skeletons : List Skeleton} {α β : Type}

/-- The routes on the way to files of a resource, if it has a name. -/
def Way (base : Route) (resource service version : String) (as : List Artifact) (r : Route) : Prop :=
  Plain resource ∧ ∃ a ∈ as, OnTheWay base (a.names service version (Text.Case.lower resource)) r

theorem Way.below {r : Route} (served : Plain service) (versioned : Plain version)
    (way : Way base resource service version as r) : Below base r := by
  obtain ⟨owned, a, -, inside⟩ := way
  exact inside.below (Artifact.plain_names served versioned (Text.Case.plain_lower owned) a)

/-- One file of a resource comes, with directories on the way to it. -/
def Lay (root : String) (base : Route) (resource service version : String) (as : List Artifact)
    (d d' : Disk) : Prop :=
  Plain resource ∧ ∃ a ∈ as, ∃ data,
    GainsFile root base (a.directories service version (Text.Case.lower resource))
      (a.name (Text.Case.lower resource)) data d d'

/-- Files of a resource come one after the other. -/
def Lays (root : String) (base : Route) (resource service version : String)
    (as : List Artifact) : Disk → Disk → Prop :=
  Relation.ReflTransGen (Lay root base resource service version as)

namespace Lays

theorem mono (lays : Lays root base resource service version as d d') (sub : ∀ a ∈ as, a ∈ all) :
    Lays root base resource service version all d d' :=
  Relation.ReflTransGen.mono (fun _ _ ⟨owned, a, mem, gained⟩ => ⟨owned, a, sub a mem, gained⟩) _ _
    lays

theorem repository (served : Plain service) (versioned : Plain version)
    (lays : Lays root base resource service version as d d') (repo : Repository d root base) :
    Repository d' root base := by
  induction lays with
  | refl => exact repo
  | tail _ step ih =>
    obtain ⟨owned, a, -, data, gains⟩ := step
    exact gains.repository ih
      (Artifact.plain_names served versioned (Text.Case.plain_lower owned) a)

theorem keeps (served : Plain service) (versioned : Plain version) (view : Disk → α)
    (step : ∀ {d d' : Disk} {a : Artifact} {data : ByteArray}, Plain resource → a ∈ as →
      Repository d root base →
      GainsFile root base (a.directories service version (Text.Case.lower resource))
        (a.name (Text.Case.lower resource)) data d d' → view d' = view d)
    (lays : Lays root base resource service version as d d') (repo : Repository d root base) :
    view d' = view d := by
  induction lays with
  | refl => rfl
  | tail before gained ih =>
    obtain ⟨owned, a, mem, data, gains⟩ := gained
    exact (step owned mem (repository served versioned before repo) gains).trans ih

end Lays

/-- What it is to make files of a resource. They come one after the other, and nothing but the ways
to them is read or changed; and where that succeeds, each of them is there and was not. -/
structure Makes (root : String) (base : Route) (resource service version : String)
    (as : List Artifact) (act : Action Disk α) : Prop where
  confined : Confined root base (Way base resource service version as) act
  lays {d : Disk} : Repository d root base →
    Lays root base resource service version as d (act.perform d).2
  new {d d' : Disk} {x : α} : Repository d root base → act.perform d = (.ok x, d') → ∀ a ∈ as,
    d.stands root (a.path service version (Text.Case.lower resource)) = false ∧
      d'.stands root (a.path service version (Text.Case.lower resource)) = true

namespace Makes

variable {act : Action Disk α} {act' : Action Disk β}

theorem of_refused {f : Failure} (served : Plain service) (versioned : Plain version)
    (refused : ∀ d, act.perform d = (.error f, d)) : Makes root base resource service version as act where
  confined := .of_idle refused fun _ way => way.below served versioned
  lays repo := by
    rw [refused]
    exact .refl
  new repo made := by
    rw [refused] at made
    cases made

theorem retold (makes : Makes root base resource service version as act) {confirm : α → β}
    (told : ∀ d, act'.perform d = ((act.perform d).1.map confirm, (act.perform d).2)) :
    Makes root base resource service version as act' where
  confined := makes.confined.retold told
  lays repo := by
    rw [told]
    exact makes.lays repo
  new {d d' x} repo made := by
    rw [told] at made
    rcases given : act.perform d with ⟨f | y, after⟩
    · rw [given] at made
      cases made
    · rw [given] at made
      cases made
      exact makes.new repo given

theorem guarded {careful : Action Disk α} (makes : Makes root base resource service version as act)
    (refused : Disk → Option Failure)
    (look : ∀ {d d' : Disk}, Repository d root base → Repository d' root base →
      AgreeOn (Way base resource service version as) d d' → refused d' = refused d)
    (told : ∀ d, careful.perform d = match refused d with
      | some f => (.error f, d)
      | none => act.perform d) : Makes root base resource service version as careful where
  confined := makes.confined.guarded look told
  lays {d} repo := by
    rw [told]
    cases refused d with
    | some f => exact .refl
    | none => exact makes.lays repo
  new {d d' x} repo made := by
    rw [told] at made
    cases found : refused d with
    | some f =>
      rw [found] at made
      cases made
    | none =>
      rw [found] at made
      exact makes.new repo made

theorem bind {next : α → Action Disk β} (served : Plain service) (versioned : Plain version)
    (makes : Makes root base resource service version as act)
    (later : ∀ x, Makes root base resource service version bs (next x)) :
    Makes root base resource service version (as ++ bs) (act >>= next) where
  confined := by
    have below (r : Route) (way : Way base resource service version (as ++ bs) r) :=
      way.below served versioned
    refine (makes.confined.mono ?_ below).bind fun x => (later x).confined.mono ?_ below
    · exact fun r ⟨owned, a, mem, way⟩ => ⟨owned, a, List.mem_append_left _ mem, way⟩
    · exact fun r ⟨owned, a, mem, way⟩ => ⟨owned, a, List.mem_append_right _ mem, way⟩
  lays {d} repo := by
    have first := (makes.lays repo).mono fun a mem => List.mem_append_left bs mem
    have kept := makes.confined.keeps repo
    rw [Action.perform_bind]
    generalize act.perform d = made at first kept
    obtain ⟨f | x, d₁⟩ := made
    · exact first
    · exact first.trans (((later x).lays kept).mono fun a mem => List.mem_append_right as mem)
  new {d d' x} repo made := by
    rw [Action.perform_bind] at made
    have gained := makes.confined.gains repo
    have kept := makes.confined.keeps repo
    rcases created : act.perform d with ⟨f | y, d₁⟩
    · rw [created] at made
      cases made
    · rw [created] at made gained kept
      dsimp only at made gained kept
      have grown := (later y).confined.gains kept
      rw [made] at grown
      intro a mem
      rcases List.mem_append.1 mem with first | second
      · obtain ⟨free, there⟩ := makes.new repo created a first
        exact ⟨free, grown.stands there⟩
      · -- the first half only adds, so what it left free was free before it
        obtain ⟨free, there⟩ := (later y).new kept made a second
        refine ⟨Bool.eq_false_iff.2 fun before => ?_, there⟩
        rw [gained.stands before] at free
        cases free

end Makes

theorem Placed.create_makes {s : Skeleton} (placed : Placed a resource service version s) :
    Makes root base resource service version [a] (s.create root) where
  confined := (placed.create_confined root base).mono
    (fun r way => ⟨placed.owned, a, List.mem_singleton_self a, way⟩)
    fun r way => way.below placed.served placed.versioned
  lays repo :=
    .single ⟨placed.owned, a, List.mem_singleton_self a, _, placed.create_gains repo⟩
  new repo made b mem := by
    rw [List.mem_singleton.1 mem, ← placed.path]
    obtain ⟨free, file⟩ := placed.create_ok repo made
    exact ⟨free, Disk.stands_of_lookup? file⟩

theorem createAll_makes (served : Plain service) (versioned : Plain version)
    (planned : List.Forall₂ (Placed · resource service version) as skeletons) :
    Makes root base resource service version as (createAll root skeletons) := by
  induction planned with
  | nil => exact ⟨.of_idle (fun _ => rfl) fun _ way => way.below served versioned, fun _ => .refl, nofun⟩
  | cons placed _ ih => exact placed.create_makes.bind served versioned fun _ => ih

theorem createOne_makes {what : String} {steps : List String} {given : Except Failure Skeleton}
    (served : Plain service) (versioned : Plain version)
    (placed : ∀ s, given = .ok s → Placed a resource service version s) :
    Makes root base resource service version [a] (createOne root what steps given) := by
  have told := createOne_perform root what steps given
  cases given with
  | error f => exact .of_refused served versioned told
  | ok s => exact (placed s rfl).create_makes.retold told

theorem fixtures_makes (served : Plain service) (versioned : Plain version) :
    Makes root base resource service version [.create, .update]
      (fixtures root ⟨resource, service, version⟩) := by
  have told := fixtures_perform root ⟨resource, service, version⟩
  cases named : FixturesRequest.names ⟨resource, service, version⟩ with
  | error f =>
    simp only [named] at told
    exact .of_refused served versioned told
  | ok names =>
    simp only [named] at told
    have planned := FixturesRequest.skeletons_placed named
    generalize FixturesRequest.skeletons ⟨resource, service, version⟩ names = skeletons at planned told
    generalize confirmation _ _ _ = text at told
    have confirmed (d : Disk) : (createAll root skeletons >>= fun _ => pure text).perform d =
        (((createAll root skeletons).perform d).1.map fun _ => text,
          ((createAll root skeletons).perform d).2) := by
      rw [Action.perform_bind]
      rcases (createAll root skeletons).perform d with ⟨f | ⟨⟩, after⟩ <;> rfl
    have makes : Makes root base resource service version [.create, .update] _ :=
      (createAll_makes served versioned planned).retold confirmed
    -- whether one of the two is there already is seen on the ways to them
    refine makes.guarded
      (fun d => (skeletons.find? fun s => d.stands root s.path).map fun s => .collision s.path) ?_ ?_
    · intro d d' repo repo' same
      have here {a : Artifact} {s : Skeleton} (placed : Placed a resource service version s)
          (mem : a ∈ [.create, .update]) : d'.stands root s.path = d.stands root s.path := by
        rw [placed.path, a.path_eq]
        refine repo.stands_congr repo' (by simp [Artifact.names]) (placed.plain a) ?_
        exact same.mono fun r way => ⟨placed.owned, a, mem, way⟩
      obtain _ | ⟨first, _ | ⟨second, _ | _⟩⟩ := planned
      simp only [List.find?_cons, List.find?_nil, here first (by decide), here second (by decide)]
    · intro d
      rw [told, confirmed]
      cases skeletons.find? fun s => d.stands root s.path <;> rfl

/-- The scaffolds of the phases after the types, each with what it takes besides the coordinates of a
resource. -/
inductive Call where
  | identity (year : Nat) (nameFormat : String)
  | controller (year : Nat) (protoPackage protoMessage : String)
  | mock (year : Nat) (protoPackage protoMessage nameFormat : String)
  | fixtures
  deriving DecidableEq, Repr

namespace Call

/-- The phase that the scaffold is for. -/
def phase : Call → Nat
  | identity .. => 3
  | controller .. => 5
  | mock .. => 6
  | fixtures => 7

/-- The files that it makes. -/
def artifacts : Call → List Artifact
  | identity .. => [.identity]
  | controller .. => [.controller]
  | mock .. => [.mock]
  | fixtures => [.create, .update]

def run (root resource service version : String) : Call → Action Disk String
  | identity year nameFormat =>
    Scaffold.identity root year ⟨resource, service, version, nameFormat⟩
  | controller year protoPackage protoMessage =>
    Scaffold.controller root year ⟨resource, service, version, protoPackage, protoMessage⟩
  | mock year protoPackage protoMessage nameFormat =>
    Scaffold.mock root year ⟨resource, service, protoPackage, protoMessage, nameFormat⟩
  | fixtures => Scaffold.fixtures root ⟨resource, service, version⟩

theorem makes (served : Plain service) (versioned : Plain version) (c : Call) :
    Makes root base resource service version c.artifacts (c.run root resource service version) := by
  cases c with
  | identity => exact createOne_makes served versioned fun _ => IdentityRequest.skeleton_placed
  | controller => exact createOne_makes served versioned fun _ => ControllerRequest.skeleton_placed
  | mock => exact createOne_makes served versioned fun _ => MockRequest.skeleton_placed versioned
  | fixtures => exact fixtures_makes served versioned

theorem phase_of_mem {c : Call} (mem : a ∈ c.artifacts) :
    a.phase = c.phase ∧ a ≠ .types ∧ a ≠ .mapper := by
  cases c <;> simp only [artifacts, List.mem_cons, List.not_mem_nil, or_false] at mem
  case fixtures => rcases mem with rfl | rfl <;> decide
  all_goals
    subst mem
    exact ⟨rfl, by decide⟩

theorem mem_of_phase {c : Call} (same : a.phase = c.phase) : a ∈ c.artifacts := by
  cases c <;> cases a <;> cases same <;> simp [artifacts]

theorem swap (served : Plain service) (versioned : Plain version) (repo : Repository d root base)
    (shared : d.tree.lookup? (base ++ ["pkg"]) = some .directory) {c c' : Call}
    (other : c.phase ≠ c'.phase) : Disk.Swappable (c.run root resource service version)
      (c'.run root resource service version) d := by
  refine (c.makes served versioned).confined.swap (c'.makes served versioned).confined repo ?_
  rintro r ⟨-, a, mem, front, nonempty, one, rfl⟩ ⟨-, b, mem', front', -, two, same⟩
  obtain rfl := List.append_cancel_left same
  obtain ⟨number, later⟩ := phase_of_mem mem
  obtain ⟨number', later'⟩ := phase_of_mem mem'
  have apart : a.phase ≠ b.phase := by rwa [number, number']
  rw [Artifact.eq_pkg_of_prefix nonempty later later' apart one two]
  exact ⟨_, shared⟩

/-- The disk after scaffolds one after the other, whichever of them succeed. -/
def runAll (root resource service version : String) : List Call → Disk → Disk
  | [], d => d
  | c :: calls, d =>
    runAll root resource service version calls ((c.run root resource service version).perform d).2

/-- Scaffolds of different phases come to the same disk in any order. -/
theorem runAll_perm (served : Plain service) (versioned : Plain version)
    {calls calls' : List Call} (perm : calls.Perm calls')
    (apart : calls.Pairwise fun c c' => c.phase ≠ c'.phase) (repo : Repository d root base)
    (shared : d.tree.lookup? (base ++ ["pkg"]) = some .directory) :
    runAll root resource service version calls d = runAll root resource service version calls' d := by
  induction perm generalizing d with
  | nil => rfl
  | cons c _ ih =>
    have confined : Confined root base _ (c.run root resource service version) :=
      (c.makes served versioned).confined
    exact ih (List.pairwise_cons.1 apart).2 (confined.keeps repo)
      ((confined.gains repo).grown _ _ shared)
  | swap c c' calls =>
    -- the others start from the same disk, so they need not be looked at
    have other := (List.pairwise_cons.1 apart).1 c List.mem_cons_self
    rw [runAll, runAll, runAll, runAll, (swap served versioned repo shared other.symm).disk]
  | trans first _ ih ih' =>
    have later := (first.pairwise_iff fun other => other.symm).1 apart
    exact (ih apart repo shared).trans (ih' later repo shared)

end Call

end ConnectorKit.Scaffold
