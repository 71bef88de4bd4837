import ConnectorKit.Proofs.Layout.Pattern
import ConnectorKit.Proofs.Migration.Progress

/-!
The second phase of a migration. The types file that it waits for is one that a classification looks
for, so as soon as it is there the resource is direct; a report on phases is never one that has it.
-/

set_option autoImplicit false
set_option relaxedAutoImplicit false

namespace ConnectorKit.Migration

open Disk (Repository Route)
open Disk.Path (Plain join ofNames)
open Layout (Artifact)

/-- The advice of a report none of whose phases is left. -/
def completeAdvice : String :=
  "All phases complete. Verify tests pass, then use kcc_add_field to add new fields."

/-- The second phase is not started, and the report goes no further. -/
structure Waits (report : Progress) : Prop where
  types : ∃ p, report.phases.filter (·.number = 2) = [p] ∧ p.name = "API Types" ∧
    p.completion = .notStarted
  current : report.current.number = 1 ∨ report.current.number = 2
  core : report.coreComplete = false
  completed : report.phases.countP PhaseStatus.isCompleted ≤ 6
  advice : report.nextAction ≠ completeAdvice

theorem Waits.at_coordinates {report : Progress} (h : Waits report) (service version : Option String) :
    Waits { report with service := service, version := version } :=
  ⟨h.types, h.current, h.core, h.completed, h.advice⟩

section Report

variable {first types : PhaseStatus} {rest : List PhaseStatus} {resource : String}

private theorem nextAction_ne {p : PhaseStatus} (left : p.completion ≠ .completed) :
    nextAction p ≠ completeAdvice := by
  have start : completeAdvice.toList.head? = some 'A' := by decide
  intro same
  have head := start
  rw [← same, nextAction] at head
  cases state : p.completion with
  | completed => exact left state
  | inProgress =>
    rw [state] at head
    simp at head
  | notStarted =>
    rw [state] at head
    dsimp only at head
    unfold startAdvice at head
    split at head <;> revert head <;> decide

private theorem countP_le (first : PhaseStatus) (l : List PhaseStatus)
    (undone : types.isCompleted = false) :
    (first :: types :: l).countP PhaseStatus.isCompleted ≤ l.length + 1 := by
  have few := List.countP_le_length (p := PhaseStatus.isCompleted) (l := l)
  rw [List.countP_cons, List.countP_cons_of_neg (by simp [undone])]
  split <;> omega

private theorem summarize_waits (one : first.number = 1) (two : types.number = 2)
    (later : rest.map (·.number) = [3, 4, 5, 6, 7]) (named : types.name = "API Types")
    (free : types.completion = .notStarted) :
    Waits (summarize resource (first :: types :: rest)) := by
  have open_ : types.isCompleted = false := by simp [PhaseStatus.isCompleted, free]
  have numbered : ∀ p ∈ rest, p.number ∈ [3, 4, 5, 6, 7] := fun p mem =>
    later ▸ List.mem_map_of_mem mem
  have many : rest.length = 5 := by simpa using congrArg List.length later
  have core : (rest.filter (·.number ≤ 5)).length = 3 := by
    have numbers : ((rest.map (·.number)).filter (· ≤ 5)).length = 3 := by rw [later]; decide
    rwa [List.filter_map, List.length_map] at numbers
  have current : currentPhase (first :: types :: rest) = if first.isCompleted then types else first := by
    unfold currentPhase
    cases done : first.isCompleted <;> simp [done, open_]
  have left : (currentPhase (first :: types :: rest)).completion ≠ .completed := by
    rw [current]
    split
    · simp [free]
    · rename_i undone
      simpa [PhaseStatus.isCompleted] using undone
  refine ⟨⟨types, ?_, named, free⟩, ?_, ?_, ?_, nextAction_ne left⟩
  · have none : rest.filter (·.number = 2) = [] := by
      refine List.filter_eq_nil_iff.2 fun p mem same => ?_
      have other := numbered p mem
      rw [of_decide_eq_true same] at other
      revert other
      decide
    change (first :: types :: rest).filter _ = _
    simp [one, two, none]
  · change (currentPhase (first :: types :: rest)).number = 1 ∨
      (currentPhase (first :: types :: rest)).number = 2
    rw [current]
    split
    · exact .inr two
    · exact .inl one
  · have few := countP_le first (rest.filter (·.number ≤ 5)) open_
    have kept : (first :: types :: rest).filter (·.number ≤ 5) =
        first :: types :: rest.filter (·.number ≤ 5) := by simp [one, two]
    refine decide_eq_false ?_
    rw [kept]
    omega
  · have few := countP_le first rest open_
    change (first :: types :: rest).countP PhaseStatus.isCompleted ≤ 6
    omega

end Report

section Types

variable {engine : Text.Glob.Engine} {d d' : Disk} {root resource service version : String}
  {base base' : Route} {info : Controller.Classification} {report : Progress}

private theorem typesFile_eq (service version lower : String) :
    Layout.typesFile service version lower =
      ofNames (["apis"] ++ ([service, version] ++ [lower ++ "_types.go"])) :=
  Artifact.types.path_eq service version lower

private theorem plain_typesFile (served : Plain service) (versioned : Plain version)
    {lower : String} (own : '/' ∉ lower.toList) :
    ∀ n ∈ ["apis"] ++ ([service, version] ++ [lower ++ "_types.go"]), Plain n :=
  Artifact.plain_types served versioned own

private theorem coordinates_of_legacy (repo : Repository d root base)
    (went : Controller.classify engine d root resource = .ok info) (other : info.style ≠ .direct)
    (known : info.coordinates? = some (service, version)) :
    Plain service ∧ Plain version ∧ '/' ∉ (Text.Case.lower resource).toList := by
  obtain ⟨served, versioned⟩ := Controller.plain_of_coordinates? repo went known
  refine ⟨served, versioned, ?_⟩
  obtain ⟨-, rfl⟩ := Controller.classify_eq_ok_iff.1 went
  cases Controller.described_decision d root resource with
  | direct _ _ style => exact absurd style other
  | legacy path _ first =>
    obtain ⟨-, front, n, data, x, stands, covered, -⟩ :=
      (Controller.mem_legacyFiles_iff repo).1 (List.mem_of_head? first)
    exact Layout.unslashed_of_covers covered
      (repo.plain_of_stands stands n (by simp)).unslashed
  | unknown _ _ _ none =>
    rw [Controller.coordinates?_eq_some_iff, none] at known
    cases known.1

private theorem isDirectory_of_stands (repo : Repository d root base) (served : Plain service)
    (versioned : Plain version) (own : '/' ∉ (Text.Case.lower resource).toList)
    (other : (Controller.described d root resource).style ≠ .direct)
    (there : d.stands root (Layout.typesFile service version (Text.Case.lower resource)) = true) :
    d.isDirectory (join root (Layout.typesFile service version (Text.Case.lower resource))) = true := by
  have plain := plain_typesFile served versioned own
  have led := fun e => repo.lookup?_iff (e := e) (by simp) plain
  rw [typesFile_eq, repo.stands_iff (by simp) plain] at there
  obtain ⟨allowed, e, stands⟩ := there
  have found := (led e).2 ⟨allowed, stands⟩
  cases e with
  | directory =>
    rw [typesFile_eq, Disk.isDirectory, found]
    rfl
  | file data x =>
    rw [← typesFile_eq] at found
    exact absurd (Controller.direct_of_typesFile repo served versioned own
      (Layout.covers_typesFile _) found) other
  | link target => exact absurd stands (repo.unlinked (List.prefix_append _ _))

private theorem map_probe_shape {lower proto : String}
    (free : d.stands root (Layout.typesFile service version lower) = false) :
    ∃ first types rest, (phases service version lower proto).map (probe d root) =
        first :: types :: rest ∧ first.number = 1 ∧ types.number = 2 ∧ types.name = "API Types" ∧
      types.completion = .notStarted ∧ rest.map (·.number) = [3, 4, 5, 6, 7] := by
  refine ⟨_, _, _, rfl, rfl, rfl, rfl, ?_, rfl⟩
  rw [probe_one, free]
  rfl

private theorem waits_of_not_stands
    (free : d.stands root (Layout.typesFile service version (Text.Case.lower info.resource)) = false) :
    Waits { summarize info.resource (probed d root info service version) with
      service := some service, version := some version } := by
  unfold probed
  generalize expectedProto info service = proto
  obtain ⟨first, types, rest, shape, one, two, named, none, later⟩ := map_probe_shape free
  rw [shape]
  exact (summarize_waits one two later named none).at_coordinates _ _

/-- Whoever has a report on phases has no types file: a directory stands in its place, or the second
phase waits. And with a types file there, in any repository with the same root, the resource is
direct, if the searches for it come to an end. -/
theorem report_waits_for_types (repo : Repository d root base)
    (told : status engine d root resource = .ok report) (open_ : report.phases ≠ []) :
    ∃ service version, report.service = some service ∧ report.version = some version ∧
      (d.isDirectory (join root (Layout.typesFile service version (Text.Case.lower resource))) = true ∨
        Waits report) ∧
      ∀ (d' : Disk) (base' : Route), Repository d' root base' →
        (∃ data x, d'.lookup? (join root
          (Layout.typesFile service version (Text.Case.lower resource))) = some (.file data x)) →
        (∀ info, Controller.classify engine d' root resource = .ok info → info.style = .direct) ∧
        ((∀ names ∈ Controller.searched, d'.Searchable root (ofNames names)) →
          ∃ info, Controller.classify engine d' root resource = .ok info ∧ info.style = .direct) := by
  obtain ⟨info, service, version, went, other, known, rfl⟩ := status_open told open_
  obtain ⟨served, versioned, own⟩ := coordinates_of_legacy repo went other known
  obtain ⟨searches, rfl⟩ := Controller.classify_eq_ok_iff.1 went
  refine ⟨service, version, rfl, rfl, ?_, fun d' base' repo' ⟨data, x, file⟩ => ?_⟩
  · cases there : d.stands root (Layout.typesFile service version (Text.Case.lower resource)) with
    | true => exact .inl (isDirectory_of_stands repo served versioned own other there)
    | false => exact .inr (waits_of_not_stands there)
  · have direct := Controller.direct_of_typesFile repo' served versioned own
      (Layout.covers_typesFile _) file
    refine ⟨fun info went' => ?_, fun opens => ⟨_, ?_, direct⟩⟩
    · rw [(Controller.classify_eq_ok_iff.1 went').2]
      exact direct
    · exact Controller.classify_eq_ok_iff.2 ⟨searches.taken.searches opens, rfl⟩

end Types

/-- The report on that resource waits for its types file, with which the resource would be direct. -/
theorem report_waits_for_redis :
    Repository openMigration "/repo" ["repo"] ∧
    ∃ report, status .unlimited openMigration "/repo" "RedisInstance" = .ok report ∧
      report.phases ≠ [] ∧ Waits report ∧
      ∀ (d' : Disk) (base' : Route), Repository d' "/repo" base' →
        (∃ data x, d'.lookup? (join "/repo" "apis/redis/v1beta1/redisinstance_types.go") =
          some (.file data x)) →
        ∀ info, Controller.classify .unlimited d' "/repo" "RedisInstance" = .ok info →
          info.style = .direct := by
  have repo : Repository openMigration "/repo" ["repo"] := by decide +kernel
  have known : openResource.coordinates? = some ("redis", "v1beta1") := rfl
  have told := (status_of_classify classify_openMigration).trans
    (evaluate_of_coordinates (by decide) known)
  have open_ : probed openMigration "/repo" openResource "redis" "v1beta1" ≠ [] := nofun
  obtain ⟨service, version, served, versioned, waits, direct⟩ :=
    report_waits_for_types repo told open_
  obtain rfl := Option.some.inj served
  obtain rfl := Option.some.inj versioned
  have path : Layout.typesFile "redis" "v1beta1" (Text.Case.lower "RedisInstance") =
      "apis/redis/v1beta1/redisinstance_types.go" := by decide +kernel
  rw [path] at direct
  exact ⟨repo, _, told, open_, waits.resolve_left (by decide +kernel), fun d' base' repo' file =>
    (direct d' base' repo' file).1⟩

end ConnectorKit.Migration
