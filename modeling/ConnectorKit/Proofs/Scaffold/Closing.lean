import ConnectorKit.Proofs.Layout.Pattern
import ConnectorKit.Proofs.Migration.Progress
import ConnectorKit.Proofs.Scaffold.Calls
import Mathlib.Data.List.Forall2

/-!
What the scaffolds of the later phases do to the report on their resource. None changes how any
resource is classified, so the report asks for the same files after it; and among these it makes those
of its own phase.
-/

set_option autoImplicit false
set_option relaxedAutoImplicit false

namespace ConnectorKit.Scaffold

open Disk (GainsFile Repository Route)
open Disk.Path (Plain)
open Layout (Artifact)
open Migration (PhaseStatus)

variable {engine : Text.Glob.Engine} {d d' : Disk} {root : String} {base : Route} {a : Artifact}
  {resource service version : String} {data : ByteArray} {info : Controller.Classification}

section Files

variable {lower : String}

theorem classify_eq_of_artifact
    (gains : GainsFile root base (a.directories service version lower) (a.name lower) data d d')
    (repo : Repository d root base) (plain : ∀ n ∈ a.names service version lower, Plain n)
    (other : a ≠ .types) (name : String) :
    Controller.classify engine d' root name = Controller.classify engine d root name :=
  Controller.classify_eq gains repo plain name (Layout.not_covered other) a.not_under_clients
    a.not_under_protos

end Files

namespace Call

variable {c : Call} (served : Plain service) (versioned : Plain version)
  (repo : Repository d root base) (went : ((c.run root resource service version).perform d).2 = d')
include served versioned repo went

theorem classify_eq (name : String) :
    Controller.classify engine d' root name = Controller.classify engine d root name := by
  rw [← went]
  refine ((c.makes served versioned).lays repo).keeps served versioned
    (fun d => Controller.classify engine d root name) (fun owned mem repo gains => ?_) repo
  exact classify_eq_of_artifact gains repo
    (Artifact.plain_names served versioned (Text.Case.plain_lower owned) _) (phase_of_mem mem).2.1 name

theorem stands_eq {b : Artifact} (other : b.phase ≠ c.phase) :
    d'.stands root (b.path service version (Text.Case.lower resource)) =
      d.stands root (b.path service version (Text.Case.lower resource)) := by
  rw [← went]
  refine ((c.makes served versioned).lays repo).keeps served versioned
    (fun d => d.stands root _) (fun owned mem repo gains => ?_) repo
  have named := Text.Case.plain_lower owned
  refine Migration.stands_artifact_eq gains repo
    (Artifact.plain_names served versioned named _) served versioned named fun inside => ?_
  obtain ⟨number, -, own⟩ := phase_of_mem mem
  rw [(Artifact.eq_of_prefix inside own).1, number] at other
  exact other rfl

theorem stands_proto_eq {name : String}
    (classified : Controller.classify engine d root name = .ok info) :
    d'.stands root (Migration.expectedProto info service) =
      d.stands root (Migration.expectedProto info service) := by
  obtain ⟨q, inner, told⟩ := Migration.expectedProto_below repo served classified
  rw [told, ← went]
  refine ((c.makes served versioned).lays repo).keeps served versioned
    (fun d => d.stands root _) (fun owned mem repo gains => ?_) repo
  exact Migration.stands_proto_eq gains repo
    (Artifact.plain_names served versioned (Text.Case.plain_lower owned) _) inner
    (Artifact.not_under_protos _)

end Call

/-- The phase of that number was not started and is completed; any other is as it was. -/
def Closes (number : Nat) (before after : PhaseStatus) : Prop :=
  if before.number = number then
    after.number = number ∧ before.completion = .notStarted ∧ after.completion = .completed
  else after = before

theorem Call.closes {c : Call} (repo : Repository d root base)
    (classified : Controller.classify engine d root resource = .ok info)
    (known : info.coordinates? = some (service, version)) {text : String}
    (made : (c.run root resource service version).perform d = (.ok text, d')) :
    List.Forall₂ (Closes c.phase) (Migration.probed d root info service version)
      (Migration.probed d' root info service version) := by
  obtain ⟨served, versioned⟩ := Controller.plain_of_coordinates? repo classified known
  have own := Controller.resource_of_classify classified
  have went : ((c.run root resource service version).perform d).2 = d' := congrArg Prod.snd made
  have proto := stands_proto_eq served versioned repo went classified
  have new := (c.makes served versioned).new repo made
  unfold Migration.probed
  rw [own, List.forall₂_map_left_iff, List.forall₂_map_right_iff, List.forall₂_same]
  intro phase mem
  change if phase.number = c.phase then _ else _
  split
  · rename_i number
    have own {artifact : String × String} (inside : artifact ∈ phase.artifacts) :
        ∃ a ∈ c.artifacts, artifact.2 = a.path service version (Text.Case.lower resource) := by
      rcases Migration.mem_artifacts mem inside with ⟨one, -⟩ | ⟨a, made, told⟩
      · rw [one] at number
        cases c <;> cases number
      · exact ⟨a, mem_of_phase (made.trans number), told⟩
    refine ⟨number, Migration.probe_none (Migration.artifacts_ne_nil mem) fun artifact inside => ?_,
      Migration.probe_all fun artifact inside => ?_⟩
    · obtain ⟨a, mem, told⟩ := own inside
      rw [told]
      exact (new a mem).1
    · obtain ⟨a, mem, told⟩ := own inside
      rw [told]
      exact (new a mem).2
  · rename_i other
    refine Migration.probe_congr fun artifact inside => ?_
    rcases Migration.mem_artifacts mem inside with ⟨-, told⟩ | ⟨b, number, told⟩
    · rw [told, proto]
    · rw [told]
      exact stands_eq served versioned repo went (number ▸ other)

private theorem directory_of_legacy (repo : Repository d root base)
    (classified : Controller.classify engine d root resource = .ok info)
    (legacy : info.style = .legacy) : d.tree.lookup? (base ++ ["pkg"]) = some .directory := by
  obtain ⟨-, rfl⟩ := Controller.classify_eq_ok_iff.1 classified
  cases Controller.described_decision d root resource with
  | direct _ _ style => rw [style] at legacy; cases legacy
  | unknown _ _ style => rw [style] at legacy; cases legacy
  | legacy path _ first =>
    obtain ⟨-, front, n, data, x, stands, -⟩ :=
      (Controller.mem_legacyFiles_iff repo).1 (List.mem_of_head? first)
    exact Disk.Tree.lookup?_above stands
      (List.prefix_append_right_inj base |>.2 (by simp [List.cons_prefix_cons])) (by simp)

/-- A scaffold that succeeds for a legacy resource closes its own phase and nothing else, and changes
the classification of no resource; and scaffolds of different phases can be swapped, so that any order
of them comes to the same disk. -/
theorem calls_close_their_phases (repo : Repository d root base)
    (classified : Controller.classify engine d root resource = .ok info)
    (legacy : info.style = .legacy) (known : info.coordinates? = some (service, version)) :
    (∀ (c : Call) (text : String) (d' : Disk),
      (c.run root resource service version).perform d = (.ok text, d') →
        (∀ name, Controller.classify engine d' root name = Controller.classify engine d root name) ∧
        ∃ before after, Migration.status engine d root resource = .ok before ∧
          Migration.status engine d' root resource = .ok after ∧
          before.phases.map (·.number) = [1, 2, 3, 4, 5, 6, 7] ∧
          List.Forall₂ (Closes c.phase) before.phases after.phases) ∧
    (∀ c c' : Call, c.phase ≠ c'.phase →
      Disk.Swappable (c.run root resource service version) (c'.run root resource service version)
        d) ∧
    ∀ calls calls' : List Call, calls.Perm calls' →
      calls.Pairwise (fun c c' => c.phase ≠ c'.phase) →
      Call.runAll root resource service version calls d =
        Call.runAll root resource service version calls' d := by
  obtain ⟨served, versioned⟩ := Controller.plain_of_coordinates? repo classified known
  have other : info.style ≠ .direct := by simp [legacy]
  have shared := directory_of_legacy repo classified legacy
  refine ⟨fun c text d' made => ?_, fun c c' apart => Call.swap served versioned repo shared apart,
    fun calls calls' perm apart => Call.runAll_perm served versioned perm apart repo shared⟩
  have went : ((c.run root resource service version).perform d).2 = d' := congrArg Prod.snd made
  have same (name : String) : Controller.classify engine d' root name = _ :=
    Call.classify_eq served versioned repo went name
  have told := (Migration.status_of_classify classified).trans
    (Migration.evaluate_of_coordinates other known)
  have told' := (Migration.status_of_classify ((same resource).trans classified)).trans
    (Migration.evaluate_of_coordinates other known)
  exact ⟨same, _, _, told, told', rfl, Call.closes repo classified known made⟩

/-- A scaffold of an identity file. -/
def redisIdentity : Call :=
  .identity 2026 "projects/\x7bproject\x7d/locations/\x7blocation\x7d/instances/\x7binstance\x7d"

/-- The identity file of a legacy resource is made, its phase alone is closed by it, and the fixtures
can be made before or after. -/
theorem calls_close_their_phases_redis :
    (∃ text d', (redisIdentity.run "/repo" "RedisInstance" "redis" "v1beta1").perform
        Migration.openMigration = (.ok text, d') ∧
      ∃ before after,
        Migration.status .unlimited Migration.openMigration "/repo" "RedisInstance" = .ok before ∧
        Migration.status .unlimited d' "/repo" "RedisInstance" = .ok after ∧
        List.Forall₂ (Closes 3) before.phases after.phases) ∧
    Disk.Swappable (redisIdentity.run "/repo" "RedisInstance" "redis" "v1beta1")
      (Call.fixtures.run "/repo" "RedisInstance" "redis" "v1beta1") Migration.openMigration := by
  have repo : Repository Migration.openMigration "/repo" ["repo"] := by decide +kernel
  obtain ⟨closes, swaps, -⟩ :=
    calls_close_their_phases repo Migration.classify_openMigration rfl rfl
  refine ⟨?_, swaps _ _ (by decide)⟩
  have succeeds : ((redisIdentity.run "/repo" "RedisInstance" "redis" "v1beta1").perform
      Migration.openMigration).1.isOk = true := by decide +kernel
  rcases made : (redisIdentity.run "/repo" "RedisInstance" "redis" "v1beta1").perform
    Migration.openMigration with ⟨f | text, d'⟩
  · rw [made] at succeeds
    cases succeeds
  · obtain ⟨-, before, after, told, told', -, closed⟩ := closes _ _ _ made
    exact ⟨text, d', rfl, before, after, told, told', closed⟩

end ConnectorKit.Scaffold
