import ConnectorKit.Migration.Progress
import ConnectorKit.Proofs.Controller.Classification

/-!
What the status of a migration depends on: the classification of the resource, and which of its
files are there. A file of another resource, or one that no phase asks for, changes no status.
-/

set_option autoImplicit false
set_option relaxedAutoImplicit false

namespace ConnectorKit.Migration

open Disk (GainsFile Name Repository Route)
open Disk.Path (Plain ofNames)
open Layout (Artifact)

variable {d d' : Disk} {root : String}

/-- A repository with the legacy types file of one resource. -/
def openMigration : Disk :=
  ⟨Disk.Tree.empty.withFile
    ["repo", "pkg", "clients", "generated", "apis", "redis", "v1beta1", "redisinstance_types.go"], []⟩

def openResource : Controller.Classification :=
  { resource := "RedisInstance", style := .legacy
    location := some "pkg/clients/generated/apis/redis/v1beta1/redisinstance_types.go"
    migrationNeeded := true, hasDirectTypes := false, hasLegacyTypes := true, hasProto := false
    protoLocation := none, service := some "redis", version := some "v1beta1", layoutError := none }

theorem classify_openMigration :
    Controller.classify .unlimited openMigration "/repo" "RedisInstance" = .ok openResource := by
  decide +kernel

section Reports

variable {engine : Text.Glob.Engine} {info : Controller.Classification}
  {resource service version : String} {report : Progress}

/-- Where the proto of a resource is expected: where it was found, or in its usual place. -/
def expectedProto (info : Controller.Classification) (service : String) : String :=
  info.protoLocation.getD (Layout.defaultProto service)

/-- What is there of each phase of a resource. -/
def probed (d : Disk) (root : String) (info : Controller.Classification) (service version : String) :
    List PhaseStatus :=
  (phases service version (Text.Case.lower info.resource) (expectedProto info service)).map
    (probe d root)

theorem status_of_classify (went : Controller.classify engine d root resource = .ok info) :
    status engine d root resource = evaluate d root info := by
  unfold status
  rw [went]
  rfl

theorem status_of_failed {f : Failure}
    (failed : Controller.classify engine d root resource = .error f) :
    status engine d root resource = .error f := by
  unfold status
  rw [failed]
  rfl

theorem evaluate_of_direct (direct : info.style = .direct) :
    evaluate d root info = .ok (alreadyDirect info) :=
  if_pos direct

theorem evaluate_of_coordinates (other : info.style ≠ .direct)
    (known : info.coordinates? = some (service, version)) :
    evaluate d root info = .ok { summarize info.resource (probed d root info service version) with
      service := some service, version := some version } := by
  unfold evaluate
  rw [if_neg other, known]
  rfl

theorem evaluate_of_unresolved (other : info.style ≠ .direct) (unknown : info.coordinates? = none) :
    evaluate d root info = .error (.unresolvedLayout info.resource info.layoutError) := by
  unfold evaluate
  rw [if_neg other, unknown]

theorem status_open (told : status engine d root resource = .ok report) (some_ : report.phases ≠ []) :
    ∃ info service version, Controller.classify engine d root resource = .ok info ∧
      info.style ≠ .direct ∧ info.coordinates? = some (service, version) ∧
      report = { summarize info.resource (probed d root info service version) with
        service := some service, version := some version } := by
  cases went : Controller.classify engine d root resource with
  | error f =>
    rw [status_of_failed went] at told
    cases told
  | ok info =>
    rw [status_of_classify went] at told
    by_cases direct : info.style = .direct
    · rw [evaluate_of_direct direct] at told
      cases told
      exact absurd rfl some_
    · cases known : info.coordinates? with
      | none =>
        rw [evaluate_of_unresolved direct known] at told
        cases told
      | some found =>
        obtain ⟨service, version⟩ := found
        rw [evaluate_of_coordinates direct known] at told
        exact ⟨info, service, version, rfl, direct, known, (Except.ok.inj told).symm⟩

end Reports

theorem probe_one (d : Disk) (root : String) (number : Nat) (name key path : String) :
    probe d root ⟨number, name, [(key, path)]⟩ =
      ⟨number, name, if d.stands root path = true then .completed else .notStarted,
        [(key, d.stands root path)]⟩ := by
  have told (there : Bool) : Completion.ofPresence [there] =
      if there = true then .completed else .notStarted := by cases there <;> rfl
  rw [← told]
  rfl

theorem probe_none {phase : Phase} (some_ : phase.artifacts ≠ [])
    (free : ∀ artifact ∈ phase.artifacts, d.stands root artifact.2 = false) :
    (probe d root phase).completion = .notStarted := by
  have none : ((phase.artifacts.map fun x => (x.1, d.stands root x.2)).map (·.2)).any id = false := by
    simpa using free
  have all : ((phase.artifacts.map fun x => (x.1, d.stands root x.2)).map (·.2)).all id = false := by
    obtain ⟨artifact, mem⟩ := List.exists_mem_of_ne_nil _ some_
    simpa using ⟨_, _, mem, free _ mem⟩
  change Completion.ofPresence _ = _
  rw [Completion.ofPresence, all, none]
  rfl

theorem probe_all {phase : Phase}
    (there : ∀ artifact ∈ phase.artifacts, d.stands root artifact.2 = true) :
    (probe d root phase).completion = .completed := by
  have all : ((phase.artifacts.map fun x => (x.1, d.stands root x.2)).map (·.2)).all id = true := by
    simpa using there
  change Completion.ofPresence _ = _
  rw [Completion.ofPresence, all]
  rfl

theorem probe_congr {phase : Phase}
    (same : ∀ artifact ∈ phase.artifacts, d'.stands root artifact.2 = d.stands root artifact.2) :
    probe d' root phase = probe d root phase := by
  have present : (phase.artifacts.map fun x => (x.1, d'.stands root x.2)) =
      phase.artifacts.map fun x => (x.1, d.stands root x.2) :=
    List.map_congr_left fun artifact mem => by rw [same artifact mem]
  change PhaseStatus.mk _ _ (.ofPresence ((phase.artifacts.map fun x =>
    (x.1, d'.stands root x.2)).map (·.2))) (phase.artifacts.map fun x => (x.1, d'.stands root x.2)) = _
  rw [present]
  rfl

/-- Every file that a phase looks for is the proto, for the first, or a file of the resource that the
phase makes. -/
theorem mem_artifacts {service version lower proto : String} {phase : Phase}
    (mem : phase ∈ phases service version lower proto) {artifact : String × String}
    (inside : artifact ∈ phase.artifacts) : phase.number = 1 ∧ artifact.2 = proto ∨
      ∃ a : Artifact, a.phase = phase.number ∧ artifact.2 = a.path service version lower := by
  simp only [phases, List.mem_cons, List.not_mem_nil, or_false] at mem
  rcases mem with rfl | rfl | rfl | rfl | rfl | rfl | rfl <;>
    simp only [List.mem_cons, List.not_mem_nil, or_false] at inside
  · exact .inl ⟨rfl, inside ▸ rfl⟩
  · exact .inr ⟨.types, rfl, inside ▸ rfl⟩
  · exact .inr ⟨.identity, rfl, inside ▸ rfl⟩
  · exact .inr ⟨.mapper, rfl, inside ▸ rfl⟩
  · exact .inr ⟨.controller, rfl, inside ▸ rfl⟩
  · exact .inr ⟨.mock, rfl, inside ▸ rfl⟩
  · rcases inside with rfl | rfl
    · exact .inr ⟨.create, rfl, rfl⟩
    · exact .inr ⟨.update, rfl, rfl⟩

theorem artifacts_ne_nil {service version lower proto : String} {phase : Phase}
    (mem : phase ∈ phases service version lower proto) : phase.artifacts ≠ [] := by
  simp only [phases, List.mem_cons, List.not_mem_nil, or_false] at mem
  rcases mem with rfl | rfl | rfl | rfl | rfl | rfl | rfl <;> nofun

theorem phases_congr {service version lower proto : String}
    (protos : d'.stands root proto = d.stands root proto)
    (same : ∀ a : Artifact, d'.stands root (a.path service version lower) =
      d.stands root (a.path service version lower)) :
    (phases service version lower proto).map (probe d' root) =
      (phases service version lower proto).map (probe d root) := by
  refine List.map_congr_left fun phase mem => probe_congr fun artifact inside => ?_
  rcases mem_artifacts mem inside with ⟨-, told⟩ | ⟨a, -, told⟩
  · rw [told, protos]
  · rw [told, same a]

section Apart

variable {base : Route} {names : List Name} {n : Name} {data : ByteArray}
  {engine : Text.Glob.Engine} {info : Controller.Classification} {resource service version : String}

theorem defaultProto_eq (service : String) : Layout.defaultProto service =
    ofNames (["mockgcp", "third_party", "googleapis"] ++
      ["google", "cloud", service, "v1", "*.proto"]) := by
  refine String.toList_inj.1 ?_
  simp [Layout.defaultProto, Layout.protoDirectory, ofNames]

theorem expectedProto_below (repo : Repository d root base) (served : Plain service)
    (went : Controller.classify engine d root resource = .ok info) :
    ∃ q, (∀ m ∈ Controller.protoNames ++ q, Plain m) ∧
      expectedProto info service = ofNames (Controller.protoNames ++ q) := by
  obtain ⟨-, rfl⟩ := Controller.classify_eq_ok_iff.1 went
  unfold expectedProto
  cases location : (Controller.described d root resource).protoLocation with
  | none =>
    have literals : ∀ m ∈ ["mockgcp", "third_party", "googleapis", "google", "cloud", "v1",
      "*.proto"], Plain m := by decide
    simp only [List.forall_mem_cons] at literals
    exact ⟨["google", "cloud", service, "v1", "*.proto"], by simp [literals, served],
      defaultProto_eq service⟩
  | some path =>
    obtain ⟨q, data, x, rfl, stands⟩ := Controller.file_of_protoLocation repo location
    exact ⟨q, repo.plain_of_stands stands, rfl⟩

theorem stands_proto_eq (gains : GainsFile root base names n data d d') (repo : Repository d root base)
    (plain : ∀ m ∈ names ++ [n], Plain m) {q : List Name}
    (inner : ∀ m ∈ Controller.protoNames ++ q, Plain m)
    (proto : ¬ Controller.protoNames <+: names ++ [n]) :
    d'.stands root (ofNames (Controller.protoNames ++ q)) =
      d.stands root (ofNames (Controller.protoNames ++ q)) :=
  gains.stands_eq repo plain (by simp) inner fun inside =>
    proto ((List.prefix_append _ _).trans inside)

theorem stands_artifact_eq (gains : GainsFile root base names n data d d') (repo : Repository d root base)
    (plain : ∀ m ∈ names ++ [n], Plain m) (served : Plain service) (versioned : Plain version)
    {lower : String} (named : Plain lower) {a : Artifact}
    (apart : ¬ a.names service version lower <+: names ++ [n]) :
    d'.stands root (a.path service version lower) = d.stands root (a.path service version lower) := by
  rw [a.path_eq]
  exact gains.stands_eq repo plain (by simp [Artifact.names])
    (Artifact.plain_names served versioned named a) apart

/-- A new file that is neither looked for by the classification nor on the way to one of the files
of the resource leaves its status as it was. -/
theorem status_eq (gains : GainsFile root base names n data d d') (repo : Repository d root base)
    (plain : ∀ m ∈ names ++ [n], Plain m) (named : Plain (Text.Case.lower resource))
    (classified : Controller.classify engine d' root resource =
      Controller.classify engine d root resource)
    (proto : ¬ Controller.protoNames <+: names ++ [n])
    (apart : ∀ (service version : String) (a : Artifact),
      ¬ a.names service version (Text.Case.lower resource) <+: names ++ [n]) :
    status engine d' root resource = status engine d root resource := by
  cases went : Controller.classify engine d root resource with
  | error f => rw [status_of_failed went, status_of_failed (classified.trans went)]
  | ok info =>
    rw [status_of_classify went, status_of_classify (classified.trans went)]
    by_cases direct : info.style = .direct
    · rw [evaluate_of_direct direct, evaluate_of_direct direct]
    · cases known : info.coordinates? with
      | none => rw [evaluate_of_unresolved direct known, evaluate_of_unresolved direct known]
      | some found =>
        obtain ⟨service, version⟩ := found
        obtain ⟨served, versioned⟩ := Controller.plain_of_coordinates? repo went known
        obtain ⟨q, inner, told⟩ := expectedProto_below repo served went
        have there := stands_proto_eq gains repo plain inner proto
        rw [← told] at there
        have own : info.resource = resource := Controller.resource_of_classify went
        rw [evaluate_of_coordinates direct known, evaluate_of_coordinates direct known, probed, probed,
          own, phases_congr there fun a =>
            stands_artifact_eq gains repo plain served versioned named (apart service version a)]

end Apart

end ConnectorKit.Migration
