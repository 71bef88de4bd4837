import ConnectorKit.Proofs.Migration.Progress
import Mathlib.Data.List.Forall2

/-!
Progress over a growing repository. A file that comes sets no phase back, so it sets back neither the
count of completed phases nor the phase that a report is at. In each report, the current phase parts the
phases that are completed from the first one that is not.
-/

set_option autoImplicit false
set_option relaxedAutoImplicit false

namespace ConnectorKit.Migration

namespace Completion

/-- How far a phase is. -/
def rank : Completion → Nat
  | notStarted => 0
  | inProgress => 1
  | completed => 2

instance : LE Completion :=
  ⟨fun a b => a.rank ≤ b.rank⟩

theorem eq_completed_of_le {c : Completion} (reached : completed ≤ c) : c = completed := by
  have far : 2 ≤ c.rank := reached
  cases c with
  | completed => rfl
  | inProgress => simp [rank] at far
  | notStarted => simp [rank] at far

theorem ofPresence_mono {α : Type} {files : List α} {before after : α → Bool}
    (kept : ∀ file ∈ files, before file = true → after file = true) :
    ofPresence (files.map before) ≤ ofPresence (files.map after) := by
  have all : (files.map before).all id = true → (files.map after).all id = true := by
    simp only [List.all_map, List.all_eq_true, Function.comp_apply, id]
    intro there file mem
    exact kept file mem (there file mem)
  have any : (files.map before).any id = true → (files.map after).any id = true := by
    simp only [List.any_map, List.any_eq_true, Function.comp_apply, id]
    rintro ⟨file, mem, there⟩
    exact ⟨file, mem, kept file mem there⟩
  show rank _ ≤ rank _
  unfold ofPresence
  by_cases done : (files.map after).all id = true
  · rw [if_pos done]
    split
    · exact Nat.le_refl _
    · split <;> simp [rank]
  · have undone : ¬ (files.map before).all id = true := fun before => done (all before)
    rw [if_neg done, if_neg undone]
    by_cases begun : (files.map before).any id = true
    · rw [if_pos begun, if_pos (any begun)]
    · rw [if_neg begun]
      exact Nat.zero_le _

end Completion

/-- The same phase, and the second time at least as far. -/
structure PhaseStatus.NotBeyond (p q : PhaseStatus) : Prop where
  number : q.number = p.number
  name : q.name = p.name
  completion : p.completion ≤ q.completion

theorem PhaseStatus.NotBeyond.isCompleted {p q : PhaseStatus} (h : p.NotBeyond q)
    (done : p.isCompleted = true) : q.isCompleted = true := by
  have state : p.completion = .completed := of_decide_eq_true done
  have reached := h.completion
  rw [state] at reached
  exact decide_eq_true (Completion.eq_completed_of_le reached)

/-- Phases are parted at the current one: those before it are completed, and it is not, unless it is the
last. -/
structure Parted (phases before : List PhaseStatus) (current : PhaseStatus)
    (after : List PhaseStatus) : Prop where
  split : phases = before ++ current :: after
  done : ∀ p ∈ before, p.isCompleted = true
  last : current.isCompleted = true → after = []

theorem exists_parted {phases : List PhaseStatus} (some_ : phases ≠ []) :
    ∃ before after, Parted phases before (currentPhase phases) after := by
  unfold currentPhase
  cases found : phases.find? fun p => !p.isCompleted with
  | some p =>
    obtain ⟨left, before, after, split, done⟩ := List.find?_eq_some_iff_append.1 found
    have open_ : p.isCompleted = false := by simpa using left
    refine ⟨before, after, split, fun q mem => ?_, fun completed => ?_⟩
    · simpa using done q mem
    · simp [open_] at completed
  | none =>
    have all : ∀ p ∈ phases, p.isCompleted = true := by simpa using List.find?_eq_none.1 found
    have last : phases.getLast? = some (phases.getLast some_) := List.getLast?_eq_some_getLast some_
    rw [Option.none_or, last]
    refine ⟨phases.dropLast, [], ?_, fun p mem => all p (List.dropLast_subset _ mem), fun _ => rfl⟩
    exact (List.dropLast_concat_getLast some_).symm

section Numbers

variable {phases phases' before after before' after' : List PhaseStatus}
  {current current' : PhaseStatus}

private theorem number_eq (numbered : phases.map (·.number) = [1, 2, 3, 4, 5, 6, 7])
    (split : phases = before ++ current :: after) :
    current.number = before.length + 1 ∧ before.length + after.length = 6 := by
  have many : phases.length = 7 := by simpa using congrArg List.length numbered
  have short : before.length + after.length = 6 := by
    rw [split] at many
    simp only [List.length_append, List.length_cons] at many
    omega
  refine ⟨?_, short⟩
  have place : (phases.map (·.number))[before.length]? = some current.number := by
    rw [split]
    simp
  have row : [1, 2, 3, 4, 5, 6, 7] = List.range' 1 7 := rfl
  rw [numbered, row, List.getElem?_range' (by omega)] at place
  have same := Option.some.inj place
  omega

private theorem core_iff (numbered : phases.map (·.number) = [1, 2, 3, 4, 5, 6, 7])
    (parted : Parted phases before current after) :
    (phases.filter (·.number ≤ 5)).countP PhaseStatus.isCompleted = 5 ↔
      current.number = 6 ∨ current.number = 7 := by
  obtain ⟨number, short⟩ := number_eq numbered parted.split
  have core : phases.filter (·.number ≤ 5) = phases.take 5 := by
    simp only [List.map_eq_cons_iff, List.map_eq_nil_iff] at numbered
    obtain ⟨p₁, _, rfl, n₁, p₂, _, rfl, n₂, p₃, _, rfl, n₃, p₄, _, rfl, n₄, p₅, _, rfl, n₅, p₆, _, rfl,
      n₆, p₇, _, rfl, n₇, rfl⟩ := numbered
    simp [n₁, n₂, n₃, n₄, n₅, n₆, n₇]
  have five : (phases.take 5).length = 5 := by
    rw [parted.split, List.length_take, List.length_append, List.length_cons]
    omega
  rw [core]
  have all : (phases.take 5).countP PhaseStatus.isCompleted = 5 ↔
      ∀ p ∈ phases.take 5, p.isCompleted = true := by
    rw [← List.countP_eq_length, five]
  rw [all]
  constructor
  · intro done
    by_contra early
    have inside : current ∈ phases.take 5 := by
      rw [parted.split, List.take_append, List.mem_append]
      right
      obtain ⟨k, more⟩ : ∃ k, 5 - before.length = k + 1 := ⟨4 - before.length, by omega⟩
      rw [more, List.take_succ_cons]
      exact List.mem_cons_self
    have none := parted.last (done current inside)
    rw [none, List.length_nil] at short
    omega
  · intro late p mem
    rw [parted.split, List.take_append_of_le_length (by omega)] at mem
    exact parted.done p (List.mem_of_mem_take mem)

private theorem numbers_eq (grown : List.Forall₂ PhaseStatus.NotBeyond phases phases') :
    phases'.map (·.number) = phases.map (·.number) := by
  induction grown with
  | nil => rfl
  | cons step _ ih => rw [List.map_cons, List.map_cons, step.number, ih]

private theorem completed_mono (grown : List.Forall₂ PhaseStatus.NotBeyond phases phases') :
    phases.countP PhaseStatus.isCompleted ≤ phases'.countP PhaseStatus.isCompleted := by
  induction grown with
  | nil => exact Nat.le_refl _
  | @cons p q _ _ step _ ih =>
    rw [List.countP_cons, List.countP_cons]
    refine Nat.add_le_add ih ?_
    by_cases done : p.isCompleted = true
    · rw [if_pos done, if_pos (step.isCompleted done)]
    · rw [if_neg done]
      exact Nat.zero_le _

private theorem current_mono (numbered : phases.map (·.number) = [1, 2, 3, 4, 5, 6, 7])
    (numbered' : phases'.map (·.number) = [1, 2, 3, 4, 5, 6, 7])
    (grown : List.Forall₂ PhaseStatus.NotBeyond phases phases')
    (parted : Parted phases before current after)
    (parted' : Parted phases' before' current' after') : current.number ≤ current'.number := by
  obtain ⟨number, short⟩ := number_eq numbered parted.split
  obtain ⟨number', short'⟩ := number_eq numbered' parted'.split
  rw [number, number']
  by_contra back
  have inside : before'.length < before.length := by omega
  have here : phases[before'.length]? = some before[before'.length] := by
    rw [parted.split, List.getElem?_append_left inside]
    exact List.getElem?_eq_getElem inside
  have there : phases'[before'.length]? = some current' := by
    rw [parted'.split]
    simp
  obtain ⟨-, far⟩ := List.forall₂_iff_get.1 grown
  obtain ⟨low, here⟩ := List.getElem?_eq_some_iff.1 here
  obtain ⟨low', there⟩ := List.getElem?_eq_some_iff.1 there
  have reached := far before'.length low low'
  simp only [List.get_eq_getElem, here, there] at reached
  have done := reached.isCompleted (parted.done _ (List.getElem_mem inside))
  have none := parted'.last done
  rw [none, List.length_nil] at short'
  omega

end Numbers

/-- What a report says of its phases is so. -/
structure Progress.Accurate (report : Progress) : Prop where
  numbers : report.phases.map (·.number) = [1, 2, 3, 4, 5, 6, 7]
  current : ∃ before after, Parted report.phases before report.current after
  finished : report.current.isCompleted = true →
    report.current.number = 7 ∧ ∀ p ∈ report.phases, p.isCompleted = true
  fields : report.canAddFields = true ↔ 4 ≤ report.phases.countP PhaseStatus.isCompleted
  core : report.coreComplete = true ↔ report.current.number = 6 ∨ report.current.number = 7

/-- No part of the first report is further than in the second. -/
structure Progress.NotBeyond (report report' : Progress) : Prop where
  phases : List.Forall₂ PhaseStatus.NotBeyond report.phases report'.phases
  completed : report.phases.countP PhaseStatus.isCompleted ≤
    report'.phases.countP PhaseStatus.isCompleted
  current : report.current.number ≤ report'.current.number
  fields : report.canAddFields = true → report'.canAddFields = true
  core : report.coreComplete = true → report'.coreComplete = true

theorem probe_mono {d d' : Disk} {root root' : String}
    (grown : ∀ path, d.stands root path = true → d'.stands root' path = true) (phase : Phase) :
    (probe d root phase).NotBeyond (probe d' root' phase) where
  number := rfl
  name := rfl
  completion := by
    have looked (d : Disk) (root : String) : (probe d root phase).completion =
        .ofPresence (phase.artifacts.map fun artifact => d.stands root artifact.2) := by
      simp [probe, Function.comp_def]
    rw [looked, looked]
    exact Completion.ofPresence_mono fun artifact _ there => grown artifact.2 there

section Reports

variable {resource : String} {service version : Option String} {phases phases' : List PhaseStatus}

theorem summarize_accurate (numbered : phases.map (·.number) = [1, 2, 3, 4, 5, 6, 7]) :
    Progress.Accurate { summarize resource phases with service := service, version := version } := by
  have some_ : phases ≠ [] := by
    rintro rfl
    cases numbered
  obtain ⟨before, after, parted⟩ := exists_parted some_
  obtain ⟨number, short⟩ := number_eq numbered parted.split
  constructor
  case numbers => exact numbered
  case current => exact ⟨before, after, parted⟩
  case finished =>
    intro done
    have none : after = [] := parted.last done
    rw [none, List.length_nil] at short
    have seventh : (currentPhase phases).number = 7 := number.trans (by omega)
    refine ⟨seventh, fun p mem => ?_⟩
    change p ∈ phases at mem
    rw [parted.split, none, List.mem_append, List.mem_singleton] at mem
    rcases mem with earlier | rfl
    · exact parted.done p earlier
    · exact done
  case fields => exact decide_eq_true_iff
  case core =>
    have told := core_iff numbered parted
    exact decide_eq_true_iff.trans told

/-- A report is not beyond one on phases that are at least as far. -/
theorem summarize_mono (numbered : phases.map (·.number) = [1, 2, 3, 4, 5, 6, 7])
    (grown : List.Forall₂ PhaseStatus.NotBeyond phases phases') :
    Progress.NotBeyond { summarize resource phases with service := service, version := version }
      { summarize resource phases' with service := service, version := version } := by
  have numbered' := (numbers_eq grown).trans numbered
  have more := completed_mono grown
  have told : Progress.Accurate
      { summarize resource phases with service := service, version := version } :=
    summarize_accurate numbered
  have told' : Progress.Accurate
      { summarize resource phases' with service := service, version := version } :=
    summarize_accurate numbered'
  obtain ⟨before, after, parted⟩ := told.current
  obtain ⟨before', after', parted'⟩ := told'.current
  have further := current_mono numbered numbered' grown parted parted'
  have last : (currentPhase phases').number ≤ 7 := by
    obtain ⟨number, short⟩ := number_eq numbered' parted'.split
    change (currentPhase phases').number = _ at number
    omega
  constructor
  case phases => exact grown
  case completed => exact more
  case current => exact further
  case fields =>
    rw [told.fields, told'.fields]
    exact fun enough => Nat.le_trans enough more
  case core =>
    rw [told.core, told'.core]
    intro late
    change (currentPhase phases).number = 6 ∨ (currentPhase phases).number = 7 at late
    change (currentPhase phases').number = 6 ∨ (currentPhase phases').number = 7
    change (currentPhase phases).number ≤ (currentPhase phases').number at further
    omega

end Reports

/-- A resource that is not direct, and whose service and version are known, has a report in every
repository. The report is accurate, and in a repository where all that was there is there still, no part
of it falls back. -/
theorem evaluate_never_falls_back {info : Controller.Classification} {service version : String}
    (other : info.style ≠ .direct) (known : info.coordinates? = some (service, version))
    {d d' : Disk} {root root' : String}
    (grown : ∀ path, d.stands root path = true → d'.stands root' path = true) :
    ∃ report report', evaluate d root info = .ok report ∧ evaluate d' root' info = .ok report' ∧
      report.Accurate ∧ report'.Accurate ∧ report.NotBeyond report' := by
  have evaluated (d : Disk) (root : String) := by
    have open_ : evaluate d root info = _ := if_neg other
    rw [known] at open_
    exact open_
  refine ⟨_, _, evaluated d root, evaluated d' root', ?_, ?_, ?_⟩
  · exact summarize_accurate rfl
  · exact summarize_accurate rfl
  · refine summarize_mono rfl ?_
    rw [List.forall₂_map_left_iff, List.forall₂_map_right_iff, List.forall₂_same]
    exact fun phase _ => probe_mono grown phase

/-- The repository with the identity file of that resource besides. -/
def withIdentity : Disk :=
  ((Disk.writeNew "/repo/apis/redis/v1beta1/redisinstance_identity.go" .empty).perform openMigration).2

/-- With an identity file that was not there the report of the resource does not fall back. -/
theorem evaluate_never_falls_back_redis :
    let identity := "apis/redis/v1beta1/redisinstance_identity.go"
    Controller.classify .unlimited openMigration "/repo" "RedisInstance" = .ok openResource ∧
    openResource.style ≠ .direct ∧ openResource.coordinates? = some ("redis", "v1beta1") ∧
    openMigration.stands "/repo" identity = false ∧ withIdentity.stands "/repo" identity = true ∧
    (∀ path, openMigration.stands "/repo" path = true → withIdentity.stands "/repo" path = true) ∧
    ∃ report report', evaluate openMigration "/repo" openResource = .ok report ∧
      evaluate withIdentity "/repo" openResource = .ok report' ∧
      report.Accurate ∧ report'.Accurate ∧ report.NotBeyond report' := by
  intro identity
  have other : openResource.style ≠ .direct := by decide
  have known : openResource.coordinates? = some ("redis", "v1beta1") := rfl
  have free : openMigration.stands "/repo" identity = false := by decide +kernel
  have there : withIdentity.stands "/repo" identity = true := by decide +kernel
  have grown (path : String) (stood : openMigration.stands "/repo" path = true) :
      withIdentity.stands "/repo" path = true :=
    (Disk.writeNew_adds _ .empty openMigration).stands stood
  exact ⟨classify_openMigration, other, known, free, there, grown,
    evaluate_never_falls_back other known grown⟩

end ConnectorKit.Migration
