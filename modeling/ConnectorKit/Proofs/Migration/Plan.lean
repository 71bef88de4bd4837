import ConnectorKit.Migration.Plan
import ConnectorKit.Proofs.Migration.Progress
import ConnectorKit.Proofs.Text.Search

/-!
The plan of a migration beside the report on it. Both are told from the same classification, so the
files of the one are those that the other looks for; and the plan counts on a proto where the report
finds one, unless the path of the proto is too long to be looked up.
-/

set_option autoImplicit false
set_option relaxedAutoImplicit false

namespace ConnectorKit.Migration

open Disk (Name Repository Route)
open Disk.Path (Plain join ofNames)

variable {engine : Text.Glob.Engine} {d : Disk} {root resource service version : String}
  {base : Route} {info : Controller.Classification}

section Targets

/-- A target of a plan is the one file that a phase looks for. -/
def SameFile (targets : List (String × String)) (definitions : List Phase) (number : Nat)
    (key : String) : Prop :=
  ∃ phase path, definitions.filter (·.number = number) = [phase] ∧
    phase.artifacts.map (·.2) = [path] ∧ targets.lookup key = some path

/-- The targets of a plan are what the phases look for; the fixtures are named by their directory. -/
structure SameFiles (targets : List (String × String)) (definitions : List Phase) : Prop where
  types : SameFile targets definitions 2 "types_file"
  identity : SameFile targets definitions 3 "identity_file"
  mapper : SameFile targets definitions 4 "mapper_file"
  controller : SameFile targets definitions 5 "controller_file"
  mock : SameFile targets definitions 6 "mockgcp_file"
  fixtures : ∃ phase directory, definitions.filter (·.number = 7) = [phase] ∧
    targets.lookup "test_fixtures_dir" = some directory ∧ phase.artifacts.length = 2 ∧
    ∀ a ∈ phase.artifacts, ∃ name, Plain name ∧ a.2 = directory ++ "/" ++ name

theorem sameFiles_targets (service version lower proto : String) :
    SameFiles (planTargets service version lower) (phases service version lower proto) where
  types := ⟨_, _, rfl, rfl, rfl⟩
  identity := ⟨_, _, rfl, rfl, rfl⟩
  mapper := ⟨_, _, rfl, rfl, rfl⟩
  controller := ⟨_, _, rfl, rfl, rfl⟩
  mock := ⟨_, _, rfl, rfl, rfl⟩
  fixtures := by
    refine ⟨_, Layout.fixturesOf service version lower, rfl, rfl, rfl, ?_⟩
    simp only [List.forall_mem_cons, List.not_mem_nil, false_implies, implies_true, and_true]
    exact ⟨⟨Layout.createFixture, by decide, rfl⟩, Layout.updateFixture, by decide, rfl⟩

end Targets

section Protos

/-- A path is too long to be looked up, or a name in it is. -/
def OutOfReach (root path : String) : Prop :=
  Disk.checkPath (join root path) ≠ .ok () ∨
    ∃ n ∈ Text.Search.split '/' path, Disk.nameLimit < n.utf8ByteSize

instance (root path : String) : Decidable (OutOfReach root path) :=
  inferInstanceAs (Decidable (_ ∨ _))

/-- A proto was found whose path cannot be looked up. -/
def ProtoOutOfReach (root : String) (info : Controller.Classification) : Prop :=
  ∃ path, info.protoLocation = some path ∧ OutOfReach root path

/-- No directory below that of the protos is named as protos are. -/
def ProtosAreFiles (d : Disk) (base : Route) : Prop :=
  ∀ r n, base ++ Controller.protoNames <+: r → d.tree.lookup? (r ++ [n]) = some .directory →
    Text.Search.endsWith n ".proto" = false

theorem outOfReach_iff {names : List Name} (nonempty : names ≠ []) (plain : ∀ n ∈ names, Plain n) :
    OutOfReach root (ofNames names) ↔ ¬ Disk.Allowed root names := by
  unfold OutOfReach Disk.Allowed
  rw [Disk.Path.split_ofNames nonempty plain, not_and_or]
  simp only [not_forall, Nat.not_le, exists_prop]

theorem protosAreFiles_iff : ProtosAreFiles d base ↔
    ∀ a ∈ d.tree.entries, base ++ Controller.protoNames <+: a.1.dropLast → a.2 = .directory →
      Text.Search.endsWith (a.1.getLastD "") ".proto" = false := by
  constructor
  · rintro files ⟨r, e⟩ mem inside rfl
    have inner := (d.tree.rooted r _ mem).1
    obtain ⟨front, n, rfl⟩ : ∃ front n, r = front ++ [n] :=
      ⟨_, _, (List.dropLast_concat_getLast inner).symm⟩
    rw [List.dropLast_concat] at inside
    rw [List.getLastD_concat]
    exact files front n inside ((Disk.Tree.lookup?_iff inner).2 mem)
  · intro entries r n inside stands
    have mem := (Disk.Tree.lookup?_iff (by simp)).1 stands
    have told := entries _ mem (by rwa [List.dropLast_concat]) rfl
    rwa [List.getLastD_concat] at told

instance : Decidable (ProtosAreFiles d base) :=
  decidable_of_iff _ protosAreFiles_iff.symm

private theorem defaultProto_found (service : String) :
    Text.Search.contains (Layout.defaultProto service) ("/" ++ service ++ "/") = true ∧
      Text.Search.endsWith (Layout.defaultProto service) ".proto" = true := by
  constructor
  · rw [Text.Search.contains_iff]
    refine ⟨"mockgcp/third_party/googleapis/google/cloud".toList, "v1/*.proto".toList, ?_⟩
    simp [Layout.defaultProto, Layout.protoDirectory]
  · refine List.isSuffixOf_iff_suffix.2
      ⟨("mockgcp/third_party/googleapis/google/cloud/" ++ service ++ "/v1/*").toList, ?_⟩
    simp [Layout.defaultProto, Layout.protoDirectory]

private theorem plain_defaultNames (served : Plain service) :
    ∀ n ∈ Controller.protoNames ++ ["google", "cloud", service, "v1", "*.proto"], Plain n := by
  have literals : ∀ n ∈ ["mockgcp", "third_party", "googleapis", "google", "cloud", "v1",
    "*.proto"], Plain n := by decide
  simp only [List.forall_mem_cons] at literals
  simp [Controller.protoNames, literals, served]

private theorem not_stands_defaultProto (repo : Repository d root base) (files : ProtosAreFiles d base)
    (served : Plain service) (none_ : (Controller.protoFiles d root service).head? = none) :
    d.stands root (Layout.defaultProto service) = false := by
  refine Bool.eq_false_iff.2 fun stands => ?_
  have plain := plain_defaultNames served
  obtain ⟨holds, ends⟩ := defaultProto_found service
  rw [defaultProto_eq] at stands holds ends
  obtain ⟨allowed, e, there⟩ := (repo.stands_iff (by simp) plain).1 stands
  cases e with
  | link target => exact repo.unlinked (List.prefix_append _ _) there
  | directory =>
    have last : base ++ (Controller.protoNames ++ ["google", "cloud", service, "v1", "*.proto"]) =
        base ++ Controller.protoNames ++ ["google", "cloud", service, "v1"] ++ ["*.proto"] := by simp
    rw [last] at there
    have other := files _ _ (List.prefix_append _ _) there
    revert other
    decide
  | file data x =>
    rw [List.head?_eq_none_iff] at none_
    have mem : _ ∈ Controller.protoFiles d root service :=
      (Controller.mem_protos_iff repo).2
        ⟨allowed.above (by decide) plain, _, data, x, by simp, there, rfl, holds, ends⟩
    rw [none_] at mem
    cases mem

/-- A proto is where it is expected when the classification found one that can be looked up. -/
theorem stands_expectedProto_iff (repo : Repository d root base) (files : ProtosAreFiles d base)
    (went : Controller.classify engine d root resource = .ok info)
    (known : info.coordinates? = some (service, version)) :
    d.stands root (expectedProto info service) = true ↔
      info.hasProto = true ∧ ¬ ProtoOutOfReach root info := by
  have served := (Controller.plain_of_coordinates? repo went known).1
  obtain ⟨-, rfl⟩ := Controller.classify_eq_ok_iff.1 went
  unfold expectedProto ProtoOutOfReach
  rw [Controller.hasProto_eq]
  cases location : (Controller.described d root resource).protoLocation with
  | some path =>
    obtain ⟨q, data, x, rfl, there⟩ := Controller.file_of_protoLocation repo location
    have plain := repo.plain_of_stands there
    have found : ∃ e, d.tree.lookup? (base ++ (Controller.protoNames ++ q)) = some e := ⟨_, there⟩
    have reach : OutOfReach root (ofNames (Controller.protoNames ++ q)) ↔ _ :=
      outOfReach_iff (by simp) plain
    rw [Option.getD_some, repo.stands_iff (by simp) plain, and_iff_left found]
    simp only [Option.isSome_some, true_and, Option.some.injEq, exists_eq_left', reach, not_not]
  | none =>
    rw [Controller.protoLocation_of_coordinates known] at location
    rw [Option.getD_none, not_stands_defaultProto repo files served location]
    simp

end Protos

section Reports

/-- The advice of a plan that has its proto. -/
def secondPhaseAdvice : String :=
  "Start with Phase 2: Create API types using kcc_scaffold_types"

/-- A plan and a report are on the same files, and start at the same phase as far as protos can be
looked up. -/
structure Matches (d : Disk) (root : String) (info : Controller.Classification) (plan : Plan)
    (report : Progress) : Prop where
  files : ∃ service version, report.service = some service ∧ report.version = some version ∧
    report.phases = (phases service version (Text.Case.lower info.resource)
      (expectedProto info service)).map (probe d root) ∧
    SameFiles plan.targets (phases service version (Text.Case.lower info.resource)
      (expectedProto info service))
  proto : (∃ p, report.phases.filter (·.number = 1) = [p] ∧ p.completion = .completed) ↔
    plan.hasProto = true ∧ ¬ ProtoOutOfReach root info
  next : report.current.number ≠ 1 ↔
    plan.nextAction = secondPhaseAdvice ∧ ¬ ProtoOutOfReach root info

private theorem map_probe_first (d : Disk) (root service version lower proto : String) :
    ∃ first rest, (phases service version lower proto).map (probe d root) = first :: rest ∧
      first.number = 1 ∧
      first.completion = (if d.stands root proto = true then .completed else .notStarted) ∧
      rest.map (·.number) = [2, 3, 4, 5, 6, 7] :=
  ⟨_, _, rfl, rfl, by rw [probe_one], rfl⟩

private theorem current_ne_one_iff {first : PhaseStatus} {rest : List PhaseStatus}
    (one : first.number = 1) (later : rest.map (·.number) = [2, 3, 4, 5, 6, 7]) :
    (currentPhase (first :: rest)).number ≠ 1 ↔ first.completion = .completed := by
  cases done : first.isCompleted with
  | false =>
    have current : currentPhase (first :: rest) = first := by simp [currentPhase, done]
    rw [current, one]
    exact ⟨fun no => absurd rfl no, fun same => by simp [PhaseStatus.isCompleted, same] at done⟩
  | true =>
    refine ⟨fun _ => of_decide_eq_true done, fun _ => ?_⟩
    have inside : currentPhase (first :: rest) ∈ rest := by
      have filled : rest ≠ [] := by
        rintro rfl
        cases later
      unfold currentPhase
      rw [List.find?_cons_of_neg (by simp [done]), List.getLast?_cons_of_ne_nil filled]
      cases found : rest.find? fun p => !p.isCompleted with
      | some p => exact List.mem_of_find?_eq_some found
      | none =>
        rw [Option.none_or, List.getLast?_eq_some_getLast filled]
        exact List.getLast_mem filled
    have numbered : (currentPhase (first :: rest)).number ∈ [2, 3, 4, 5, 6, 7] :=
      later ▸ List.mem_map_of_mem inside
    intro same
    rw [same] at numbered
    revert numbered
    decide

private theorem filter_first {first : PhaseStatus} {rest : List PhaseStatus}
    (one : first.number = 1) (later : rest.map (·.number) = [2, 3, 4, 5, 6, 7]) :
    (first :: rest).filter (·.number = 1) = [first] := by
  have none_ : rest.filter (·.number = 1) = [] := by
    refine List.filter_eq_nil_iff.2 fun p mem same => ?_
    have numbered : p.number ∈ [2, 3, 4, 5, 6, 7] := later ▸ List.mem_map_of_mem mem
    rw [of_decide_eq_true same] at numbered
    revert numbered
    decide
  rw [List.filter_cons_of_pos (by simp [one]), none_]

theorem plan_of_classify (went : Controller.classify engine d root resource = .ok info) :
    plan engine d root resource = buildPlan info := by
  unfold plan
  rw [went]
  rfl

private theorem plan_of_coordinates (style : info.style = .legacy)
    (known : info.coordinates? = some (service, version)) :
    ∃ p, buildPlan info = .ok p ∧
      p.targets = planTargets service version (Text.Case.lower info.resource) ∧
      p.hasProto = info.hasProto ∧ (p.nextAction = secondPhaseAdvice ↔ p.hasProto = true) := by
  rw [buildPlan, style, known]
  refine ⟨_, rfl, rfl, rfl, ?_⟩
  dsimp only
  split <;> simp_all [secondPhaseAdvice]

private theorem matches_of_coordinates (repo : Repository d root base)
    (files : ProtosAreFiles d base) (went : Controller.classify engine d root resource = .ok info)
    (known : info.coordinates? = some (service, version)) {p : Plan}
    (targets : p.targets = planTargets service version (Text.Case.lower info.resource))
    (counted : p.hasProto = info.hasProto)
    (advice : p.nextAction = secondPhaseAdvice ↔ p.hasProto = true) :
    Matches d root info p { summarize info.resource (probed d root info service version) with
      service := some service, version := some version } := by
  obtain ⟨first, rest, shape, one, state, later⟩ := map_probe_first d root service version
    (Text.Case.lower info.resource) (expectedProto info service)
  have reached := stands_expectedProto_iff repo files went known
  have completed : first.completion = .completed ↔
      p.hasProto = true ∧ ¬ ProtoOutOfReach root info := by
    rw [counted, ← reached, state]
    split <;> simp_all
  refine ⟨⟨service, version, rfl, rfl, rfl, ?_⟩, ?_, ?_⟩
  · rw [targets]
    exact sameFiles_targets ..
  · change (∃ q, (probed d root info service version).filter _ = [q] ∧ _) ↔ _
    rw [probed, shape, filter_first one later, ← completed]
    simp
  · change (currentPhase (probed d root info service version)).number ≠ 1 ↔ _
    rw [probed, shape, current_ne_one_iff one later, advice, completed]

/-- How plan and report go together. -/
private inductive Outcome (engine : Text.Glob.Engine) (d : Disk) (root resource : String) : Prop
  | migrated (report : Progress) (location : Option String) :
      plan engine d root resource = .error (.alreadyMigrated resource location) →
      status engine d root resource = .ok report → report.overall = "Migration complete" →
      report.phases = [] → Outcome engine d root resource
  | failed (f f' : Failure) : plan engine d root resource = .error f →
      (∀ r l, f ≠ .alreadyMigrated r l) → status engine d root resource = .error f' →
      Outcome engine d root resource
  | planned (info : Controller.Classification) (p : Plan) (report : Progress) :
      Controller.classify engine d root resource = .ok info →
      plan engine d root resource = .ok p → status engine d root resource = .ok report →
      report.phases.length = 7 → report.overall ≠ "Migration complete" →
      Matches d root info p report → Outcome engine d root resource

private theorem overall_ne (resource : String) (statuses : List PhaseStatus) :
    (summarize resource statuses).overall ≠ "Migration complete" := by
  intro same
  have slashed : '/' ∈ (summarize resource statuses).overall.toList := by simp [summarize]
  rw [same] at slashed
  revert slashed
  decide

private theorem outcome (repo : Repository d root base) (files : ProtosAreFiles d base) :
    Outcome engine d root resource := by
  rcases Controller.classify_cases engine d root resource with ⟨-, went⟩ | ⟨f, barred, -, failed⟩
  rotate_left
  · refine .failed f f ?_ ?_ (status_of_failed failed)
    · unfold plan
      rw [failed]
      rfl
    · rintro r l rfl
      cases barred
  have planned := plan_of_classify went
  have told := status_of_classify went
  have own := Controller.resource_of_classify went
  have decided := Controller.described_decision d root resource
  generalize Controller.described d root resource = info at went planned told own decided
  cases style : info.style with
  | direct =>
    refine .migrated _ info.location ?_ (told.trans (evaluate_of_direct style)) rfl rfl
    rw [planned, buildPlan, style, own]
  | unknown =>
    have unresolved : info.coordinates? = none := by
      cases decided with
      | direct _ _ other => exact nomatch style.symm.trans other
      | legacy _ _ _ other => exact nomatch style.symm.trans other
      | unknown _ _ _ none_ => simp [Controller.Classification.coordinates?, none_]
    refine .failed (.resourceNotFound resource (searchedTypes (Text.Case.lower resource))) _
      ?_ nofun (told.trans (evaluate_of_unresolved (by simp [style]) unresolved))
    rw [planned, buildPlan, style, own]
  | legacy =>
    cases known : info.coordinates? with
    | none =>
      refine .failed (.unresolvedLocation resource info.location) _
        ?_ nofun (told.trans (evaluate_of_unresolved (by simp [style]) known))
      rw [planned, buildPlan, style, known, own]
    | some found =>
      obtain ⟨service, version⟩ := found
      obtain ⟨p, made, targets, counted, advice⟩ := plan_of_coordinates style known
      exact .planned info p _ went (planned.trans made)
        (told.trans (evaluate_of_coordinates (by simp [style]) known)) rfl
        (overall_ne info.resource _)
        (matches_of_coordinates repo files went known targets counted advice)

end Reports

/-- A resource has a plan when the report on it has phases, and then the two match; it is refused as
migrated when the report says so; otherwise there is neither. -/
theorem plan_matches_status (repo : Repository d root base) (files : ProtosAreFiles d base) :
    (∀ p, plan engine d root resource = .ok p → ∃ info report,
      Controller.classify engine d root resource = .ok info ∧
      status engine d root resource = .ok report ∧
      report.phases.length = 7 ∧ Matches d root info p report) ∧
    (∀ report, status engine d root resource = .ok report → report.phases.length = 7 →
      ∃ p, plan engine d root resource = .ok p) ∧
    ((∃ r location, plan engine d root resource = .error (.alreadyMigrated r location)) ↔
      ∃ report, status engine d root resource = .ok report ∧
        report.overall = "Migration complete") ∧
    ((∃ p, plan engine d root resource = .ok p) ∨
      (∃ r location, plan engine d root resource = .error (.alreadyMigrated r location)) ∨
      (∃ f, plan engine d root resource = .error f) ∧
        ∃ f, status engine d root resource = .error f) := by
  have decided : Outcome engine d root resource := outcome repo files
  cases decided with
  | migrated report location refused told complete none_ =>
    rw [refused, told]
    refine ⟨nofun, ?_, ⟨fun _ => ⟨_, rfl, complete⟩, fun _ => ⟨_, _, rfl⟩⟩, .inr (.inl ⟨_, _, rfl⟩)⟩
    intro report' same seven
    obtain rfl := Except.ok.inj same
    rw [none_] at seven
    cases seven
  | failed f f' refused other failed =>
    rw [refused, failed]
    refine ⟨nofun, nofun, ⟨?_, nofun⟩, .inr (.inr ⟨⟨_, rfl⟩, _, rfl⟩)⟩
    rintro ⟨r, location, same⟩
    exact absurd (Except.error.inj same) (other r location)
  | planned info p report went planned told seven incomplete same =>
    rw [planned, told]
    refine ⟨?_, fun _ _ _ => ⟨p, rfl⟩, ⟨nofun, ?_⟩, .inl ⟨p, rfl⟩⟩
    · intro p' own
      obtain rfl := Except.ok.inj own
      exact ⟨info, report, went, rfl, seven, same⟩
    · rintro ⟨report', own, complete⟩
      obtain rfl := Except.ok.inj own
      exact absurd complete incomplete

/-- A repository with a legacy types file and a proto for it. -/
def withProto : Disk :=
  ⟨(Disk.Tree.empty.withFile
      ["repo", "pkg", "clients", "generated", "apis", "redis", "v1beta1", "redisinstance_types.go"]).withFile
    ["repo", "mockgcp", "third_party", "googleapis", "google", "cloud", "redis", "v1", "redis.proto"],
    []⟩

private theorem repository_withProto : Repository withProto "/repo" ["repo"] := by
  decide +kernel

private theorem protosAreFiles_withProto : ProtosAreFiles withProto ["repo"] := by
  decide +kernel

/-- What is known of the resource in it. -/
def protoResource : Controller.Classification :=
  { openResource with
    hasProto := true
    protoLocation := some "mockgcp/third_party/googleapis/google/cloud/redis/v1/redis.proto" }

private theorem classify_withProto :
    Controller.classify .unlimited withProto "/repo" "RedisInstance" = .ok protoResource := by
  decide +kernel

/-- With its proto a resource has a plan and a report that starts after the first phase. -/
theorem plan_matches_status_redis :
    Repository withProto "/repo" ["repo"] ∧ ProtosAreFiles withProto ["repo"] ∧
      ∃ p report, plan .unlimited withProto "/repo" "RedisInstance" = .ok p ∧
        status .unlimited withProto "/repo" "RedisInstance" = .ok report ∧
        Matches withProto "/repo" protoResource p report ∧
        p.nextAction = secondPhaseAdvice ∧ report.current.number ≠ 1 := by
  have known : protoResource.coordinates? = some ("redis", "v1beta1") := rfl
  obtain ⟨p, made, -, counted, advice⟩ := plan_of_coordinates rfl known
  have planned := (plan_of_classify classify_withProto).trans made
  obtain ⟨info, report, went, told, -, same⟩ :=
    (plan_matches_status repository_withProto protosAreFiles_withProto).1 p planned
  obtain rfl := Except.ok.inj (classify_withProto.symm.trans went)
  have proto : p.hasProto = true := counted
  have reached : ¬ ProtoOutOfReach "/repo" protoResource := by
    rintro ⟨path, ⟨rfl⟩, far⟩
    revert far
    decide +kernel
  exact ⟨repository_withProto, protosAreFiles_withProto, p, report, planned, told, same,
    advice.2 proto, same.next.2 ⟨advice.2 proto, reached⟩⟩

section Unreachable

/-- A root of 4037 characters, of which a path in the repository leaves no more than 58. -/
@[irreducible] def longRoot : String :=
  "/repo" ++ Disk.slashes (4031 + 1)

private theorem repository_longRoot : Repository withProto longRoot ["repo"] := by
  rw [longRoot]
  exact repository_withProto.slashes (by decide) (by decide) (by decide)

private theorem allowed_longRoot_iff {names : List Name} (nonempty : names ≠ [])
    (plain : ∀ m ∈ names, Plain m) : Disk.Allowed longRoot names ↔
      ('\x00' ∉ (ofNames names).toList ∧ (ofNames names).utf8ByteSize < 59) ∧
        ∀ m ∈ names, m.utf8ByteSize ≤ Disk.nameLimit := by
  have size : "/repo".utf8ByteSize = 5 := by decide
  have limit : Disk.pathLimit = 4096 := rfl
  rw [longRoot, Disk.allowed_slashes_iff (by decide) (by decide) 4031 nonempty plain, size, limit]
  refine and_congr_left fun _ => and_congr_right fun _ => ?_
  omega

private theorem classify_longRoot :
    Controller.classify .unlimited withProto longRoot "RedisInstance" = .ok protoResource := by
  have short : ∀ names ∈ Controller.searched, Disk.Allowed "/repo" names := by decide +kernel
  have allowed : ∀ names ∈ Controller.searched, Disk.Allowed longRoot names := by
    intro names mem
    obtain ⟨nonempty, own⟩ := Controller.plain_searched names mem
    refine (allowed_longRoot_iff nonempty own).2 ?_
    clear nonempty own
    revert names
    decide +kernel
  -- the files may be out of reach, but every directory is within it
  have opens : ∀ names ∈ Controller.searched, withProto.Searchable "/repo" (ofNames names) ∧
      withProto.Searchable longRoot (ofNames names) := by
    have near : ∀ a ∈ withProto.tree.entries, a.2 = .directory → a.1.drop 1 ≠ [] →
        (∀ n ∈ a.1.drop 1, Plain n) ∧ Disk.checkPath (join "/repo" (ofNames (a.1.drop 1))) = .ok () ∧
          ('\x00' ∉ (ofNames (a.1.drop 1)).toList ∧ (ofNames (a.1.drop 1)).utf8ByteSize < 59) ∧
            ∀ m ∈ a.1.drop 1, m.utf8ByteSize ≤ Disk.nameLimit := by
      decide +kernel
    intro names mem
    obtain ⟨nonempty, own⟩ := Controller.plain_searched names mem
    constructor
    · refine repository_withProto.searchable_of_entries nonempty own fun a inside dir before => ?_
      exact (near a inside dir fun none => nonempty (List.prefix_nil.1 (none ▸ before))).2.1
    · refine repository_longRoot.searchable_of_entries nonempty own fun a inside dir before => ?_
      have inner : a.1.drop 1 ≠ [] := fun none => nonempty (List.prefix_nil.1 (none ▸ before))
      obtain ⟨names', -, sizes⟩ := near a inside dir inner
      exact ((allowed_longRoot_iff inner names').2 sizes).1
  rw [Controller.classify_root repository_withProto repository_longRoot
    (fun names mem => ⟨short names mem, allowed names mem⟩) opens]
  exact classify_withProto

private theorem protoOutOfReach_longRoot : ProtoOutOfReach longRoot protoResource := by
  have path : "mockgcp/third_party/googleapis/google/cloud/redis/v1/redis.proto" =
      ofNames (Controller.protoNames ++ ["google", "cloud", "redis", "v1", "redis.proto"]) := by
    decide +kernel
  have plain : ∀ n ∈ Controller.protoNames ++ ["google", "cloud", "redis", "v1", "redis.proto"],
      Plain n := by decide
  refine ⟨_, rfl, ?_⟩
  rw [path, outOfReach_iff (by simp) plain, allowed_longRoot_iff (by simp) plain]
  decide +kernel

/-- A plan counts on a proto that the report does not find: from a long root its path is beyond what
can be looked up, though the directory that it is in can be walked. -/
theorem plan_counts_unreachable_proto :
    Repository withProto longRoot ["repo"] ∧ ProtosAreFiles withProto ["repo"] ∧
      ∃ p report, plan .unlimited withProto longRoot "RedisInstance" = .ok p ∧
        status .unlimited withProto longRoot "RedisInstance" = .ok report ∧
        p.hasProto = true ∧ p.nextAction = secondPhaseAdvice ∧ report.current.number = 1 ∧
        ¬ ∃ q, report.phases.filter (·.number = 1) = [q] ∧ q.completion = .completed := by
  have known : protoResource.coordinates? = some ("redis", "v1beta1") := rfl
  obtain ⟨p, made, targets, counted, advice⟩ := plan_of_coordinates rfl known
  have planned := (plan_of_classify classify_longRoot).trans made
  have told := (status_of_classify classify_longRoot).trans (evaluate_of_coordinates (by decide) known)
  have same := matches_of_coordinates repository_longRoot protosAreFiles_withProto classify_longRoot
    known targets counted advice
  have proto : p.hasProto = true := counted
  refine ⟨repository_longRoot, protosAreFiles_withProto, p, _, planned, told, proto, advice.2 proto,
    ?_, fun completed => (same.proto.1 completed).2 protoOutOfReach_longRoot⟩
  by_contra other
  exact (same.next.1 other).2 protoOutOfReach_longRoot

end Unreachable

end ConnectorKit.Migration
