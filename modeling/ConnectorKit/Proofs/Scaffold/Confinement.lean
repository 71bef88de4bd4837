import ConnectorKit.Proofs.Field.Addition
import ConnectorKit.Proofs.Scaffold.Calls

/-!
What no argument can do. Whatever a scaffold is given, what it makes is on the way to a file of its
resource, at the depth that such files have below the root; and a part of a path that is none is
refused before anything is made. So it is for the file that a field is added to.
-/

set_option autoImplicit false
set_option relaxedAutoImplicit false

namespace ConnectorKit

namespace Failure

/-- Whether a failure is about an argument. -/
def isArgument : Failure → Bool
  | .blankArgument _ | .notOneSegment _ _ | .outsideRepository _ | .noCollection _ _ => true
  | _ => false

end Failure

/-- A result that is a failure about an argument. -/
def Rejected {α : Type} (x : Except Failure α) : Prop :=
  ∃ f, x = .error f ∧ f.isArgument = true

namespace Rejected

variable {α β : Type} {x : Except Failure α} {next : α → Except Failure β}

theorem bind (h : Rejected x) : Rejected (x >>= next) := by
  obtain ⟨f, rfl, told⟩ := h
  exact ⟨f, rfl, told⟩

theorem later (first : ∀ f, x = .error f → f.isArgument = true) (h : ∀ a, Rejected (next a)) :
    Rejected (x >>= next) := by
  cases x with
  | error f => exact ⟨f, rfl, first f rfl⟩
  | ok a => exact h a

end Rejected

namespace Scaffold

open Disk (Below GainsFile OnTheWay Repository Route)
open Disk.Path (Plain join ofNames)
open Layout (Artifact)
open Text.Search (split)

section Segments

variable {field value resource service : String}

theorem isArgument_of_requireSegment {f : Failure}
    (refused : requireSegment field value = .error f) :
    f.isArgument = true := by
  unfold requireSegment at refused
  split at refused
  · cases refused
    rfl
  · split at refused
    · cases refused
      rfl
    · cases refused

theorem requireSegment_unfit (unfit : Unfit value) (field : String) :
    Rejected (requireSegment field value) := by
  cases told : requireSegment field value with
  | error f => exact ⟨f, rfl, isArgument_of_requireSegment told⟩
  | ok => exact absurd unfit (requireSegment_eq_ok_iff.1 told)

theorem isArgument_of_names {f : Failure} (refused : Names.of resource service = .error f) :
    f.isArgument = true := by
  rcases bind_error refused with own | ⟨⟨⟩, -, refused⟩
  · exact isArgument_of_requireSegment own
  · rcases bind_error refused with served | ⟨⟨⟩, -, made⟩
    · exact isArgument_of_requireSegment served
    · cases made

theorem Names.of_unfit (unfit : Unfit resource ∨ Unfit service) :
    Rejected (Names.of resource service) := by
  unfold Names.of
  rcases unfit with own | served
  · exact (requireSegment_unfit own "resource").bind
  · refine .later (fun f => isArgument_of_requireSegment) fun _ => ?_
    exact (requireSegment_unfit served "service").bind

theorem rejected_of_unfit {α : Type} {version : String} {next : Names → Except Failure α}
    (unfit : Unfit resource ∨ Unfit service ∨ Unfit version) :
    Rejected (Names.of resource service >>= fun names =>
      requireSegment "version" version >>= fun _ => next names) := by
  rcases unfit with own | served | versioned
  · exact (Names.of_unfit (.inl own)).bind
  · exact (Names.of_unfit (.inr served)).bind
  · refine .later (fun f => isArgument_of_names) fun names => ?_
    exact (requireSegment_unfit versioned "version").bind

end Segments

section Writers

variable {d d' : Disk} {root : String} {base route : Route} {as : List Artifact}
  {resource service version : String}

theorem Lays.gains (lays : Lays root base resource service version as d d') :
    Disk.Gains (fun r => ∃ a ∈ as,
        OnTheWay base (a.directories service version (Text.Case.lower resource)) r)
      (fun r _ => ∃ a ∈ as, r = base ++ a.names service version (Text.Case.lower resource)) d d' := by
  induction lays with
  | refl => exact .refl d
  | tail _ step ih =>
    obtain ⟨-, a, mem, data, gains⟩ := step
    refine ih.trans (gains.mono (fun r way => ⟨a, mem, way.onTheWay⟩) ?_)
    rintro r bytes ⟨-, rfl⟩
    exact ⟨a, mem, rfl⟩

/-- The scaffolds, each with what it takes besides the coordinates of a resource. -/
inductive Writer where
  | types (year : Nat) (protoPackage protoMessage : String) (description : Option String)
  | later (call : Call)
  deriving DecidableEq, Repr

namespace Writer

def run (root resource service version : String) : Writer → Action Disk String
  | types year protoPackage protoMessage description =>
    Scaffold.types root year ⟨resource, service, version, protoPackage, protoMessage, description⟩
  | later call => call.run root resource service version

def artifacts : Writer → List Artifact
  | types .. => [.types]
  | later call => call.artifacts

/-- The coordinates that it takes; a mock has no version. -/
def coordinates (resource service version : String) : Writer → List String
  | later (.mock ..) => [resource, service]
  | _ => [resource, service, version]

theorem makes (served : Plain service) (versioned : Plain version) (w : Writer) :
    Makes root base resource service version w.artifacts (w.run root resource service version) := by
  cases w with
  | types => exact createOne_makes served versioned fun _ => TypesRequest.skeleton_placed
  | later call => exact call.makes served versioned

theorem rejects (root : String) {w : Writer}
    (unfit : ∃ s ∈ w.coordinates resource service version, Unfit s) :
    ∃ f, f.isArgument = true ∧
      ∀ d, (w.run root resource service version).perform d = (.error f, d) := by
  have one {what : String} {steps : List String} {given : Except Failure Skeleton}
      (rejected : Rejected given) : ∃ f, f.isArgument = true ∧
        ∀ d, (createOne root what steps given).perform d = (.error f, d) := by
    obtain ⟨f, same, told⟩ := rejected
    refine ⟨f, told, fun d => ?_⟩
    rw [createOne_perform, same]
  have three (unfit : ∃ s ∈ [resource, service, version], Unfit s) :
      Unfit resource ∨ Unfit service ∨ Unfit version := by
    simpa using unfit
  cases w with
  | types => exact one (rejected_of_unfit (three unfit))
  | later call =>
    cases call with
    | identity => exact one (rejected_of_unfit (three unfit))
    | controller => exact one (rejected_of_unfit (three unfit))
    | mock =>
      have two : Unfit resource ∨ Unfit service := by simpa [coordinates] using unfit
      exact one (Names.of_unfit two).bind
    | fixtures =>
      obtain ⟨f, same, told⟩ : Rejected (FixturesRequest.names ⟨resource, service, version⟩) :=
        rejected_of_unfit (three unfit)
      refine ⟨f, told, fun d => ?_⟩
      change (Scaffold.fixtures root ⟨resource, service, version⟩).perform d = _
      rw [fixtures_perform, same]

/-- With coordinates that are parts of a path a scaffold makes its files; for a mock, which has no
version, any will do. -/
private theorem exists_makes (root : String) (base : Route) {w : Writer}
    (fit : ∀ s ∈ w.coordinates resource service version, ¬ Unfit s) :
    Plain resource ∧ Plain service ∧ ∃ version', Plain version' ∧
      Makes root base resource service version' w.artifacts
        (w.run root resource service version) ∧
      ∀ a ∈ w.artifacts, ∀ lower, a.names service version' lower = a.names service version lower ∧
        a.directories service version' lower = a.directories service version lower := by
  have inside : resource ∈ w.coordinates resource service version ∧
      service ∈ w.coordinates resource service version := by
    rcases w with _ | (_ | _ | _ | _) <;> simp [coordinates]
  have owned := plain_of_fit (fit resource inside.1)
  have served := plain_of_fit (fit service inside.2)
  refine ⟨owned, served, ?_⟩
  have own (mem : version ∈ w.coordinates resource service version) : ∃ version', Plain version' ∧
      Makes root base resource service version' w.artifacts
        (w.run root resource service version) ∧
      ∀ a ∈ w.artifacts, ∀ lower, a.names service version' lower = a.names service version lower ∧
        a.directories service version' lower = a.directories service version lower := by
    have versioned := plain_of_fit (fit version mem)
    exact ⟨version, versioned, w.makes served versioned, fun _ _ _ => ⟨rfl, rfl⟩⟩
  cases w with
  | types => exact own (by simp [coordinates])
  | later call =>
    cases call with
    | mock year protoPackage protoMessage nameFormat =>
      have versioned : Plain "v1" := by decide
      have makes : Makes root base resource service "v1" [.mock]
          (Scaffold.mock root year ⟨resource, service, protoPackage, protoMessage, nameFormat⟩) :=
        Call.makes served versioned (.mock year protoPackage protoMessage nameFormat)
      refine ⟨"v1", versioned, makes, fun a mem lower => ?_⟩
      rw [List.mem_singleton.1 mem]
      exact ⟨rfl, rfl⟩
    | _ => exact own (by simp [coordinates])

private theorem ne_mapper {w : Writer} {a : Artifact} (mem : a ∈ w.artifacts) : a ≠ .mapper := by
  cases w with
  | types =>
    rw [List.mem_singleton.1 mem]
    decide
  | later call => exact (Call.phase_of_mem mem).2.2

private theorem gains (repo : Repository d root base) {w : Writer}
    (fit : ∀ s ∈ w.coordinates resource service version, ¬ Unfit s) :
    (∀ a ∈ w.artifacts, ∀ n ∈ a.names service version (Text.Case.lower resource), Plain n) ∧
    Disk.Gains (fun r => ∃ a ∈ w.artifacts,
        OnTheWay base (a.directories service version (Text.Case.lower resource)) r)
      (fun r _ => ∃ a ∈ w.artifacts,
        r = base ++ a.names service version (Text.Case.lower resource)) d
      ((w.run root resource service version).perform d).2 := by
  obtain ⟨owned, served, version', versioned, makes, same⟩ := exists_makes root base fit
  refine ⟨fun a mem => ?_, (makes.lays repo).gains.mono ?_ ?_⟩
  · rw [← (same a mem _).1]
    exact Artifact.plain_names served versioned (Text.Case.plain_lower owned) a
  · rintro r ⟨a, mem, way⟩
    exact ⟨a, mem, (same a mem _).2 ▸ way⟩
  · rintro r _ ⟨a, mem, place⟩
    exact ⟨a, mem, (same a mem _).1 ▸ place⟩

/-- What a scaffold changes is new: a directory on the way to a file of its resource, or the file. -/
theorem changes (repo : Repository d root base) (w : Writer)
    (changed : ((w.run root resource service version).perform d).2.tree.lookup? route ≠
      d.tree.lookup? route) :
    Below base route ∧ ∃ a ∈ w.artifacts,
      (∀ n ∈ a.names service version (Text.Case.lower resource), Plain n) ∧
      (OnTheWay base (a.directories service version (Text.Case.lower resource)) route ∧
          ((w.run root resource service version).perform d).2.tree.lookup? route = some .directory ∨
        route = base ++ a.names service version (Text.Case.lower resource) ∧ ∃ data,
          ((w.run root resource service version).perform d).2.tree.lookup? route =
            some (.file data false)) := by
  by_cases unfit : ∃ s ∈ w.coordinates resource service version, Unfit s
  · obtain ⟨f, -, refused⟩ := rejects root unfit
    rw [refused d] at changed
    exact absurd rfl changed
  · have fit : ∀ s ∈ w.coordinates resource service version, ¬ Unfit s :=
      fun s mem bad => unfit ⟨s, mem, bad⟩
    obtain ⟨plain, added⟩ := gains repo fit
    rcases added.entry route with same | ⟨-, ⟨⟨a, mem, way⟩, directory⟩ | ⟨data, ⟨a, mem, rfl⟩, file⟩⟩
    · exact absurd same changed
    · have inner := fun n inside => plain a mem n (List.mem_append_left _ inside)
      exact ⟨way.below inner, a, mem, plain a mem, .inl ⟨way, directory⟩⟩
    · refine ⟨⟨_, _, plain a mem, rfl⟩, a, mem, plain a mem, .inr ⟨rfl, data, file⟩⟩

theorem comes (repo : Repository d root base) {w : Writer} {text : String}
    (went : (w.run root resource service version).perform d = (.ok text, d')) {a : Artifact}
    (mem : a ∈ w.artifacts) : ∃ data, d'.tree.lookup?
      (base ++ a.names service version (Text.Case.lower resource)) = some (.file data false) := by
  by_cases unfit : ∃ s ∈ w.coordinates resource service version, Unfit s
  · obtain ⟨f, -, refused⟩ := rejects root unfit
    rw [refused d] at went
    cases went
  · have fit : ∀ s ∈ w.coordinates resource service version, ¬ Unfit s :=
      fun s mem bad => unfit ⟨s, mem, bad⟩
    obtain ⟨plain, added⟩ := gains repo fit
    obtain ⟨-, -, version', -, makes, same⟩ := exists_makes root base fit
    have kept := makes.confined.keeps repo
    rw [went] at added kept
    obtain ⟨free, there⟩ := makes.new repo went a mem
    have place := (same a mem (Text.Case.lower resource)).1
    have inner : a.names service version (Text.Case.lower resource) ≠ [] := by simp [Artifact.names]
    rw [a.path_eq, place] at free there
    obtain ⟨allowed, e, stands⟩ := (kept.stands_iff inner (plain a mem)).1 there
    rcases added.entry (base ++ a.names service version (Text.Case.lower resource)) with
      old | ⟨-, ⟨⟨b, other, front, -, before, way⟩, -⟩ | ⟨data, -, file⟩⟩
    · -- had it been there before, the scaffold would have seen it
      rw [old] at stands
      have seen := (repo.stands_iff inner (plain a mem)).2 ⟨allowed, e, stands⟩
      rw [free] at seen
      cases seen
    · -- a file is no directory on the way to another
      obtain rfl := List.append_cancel_left way
      have longer := before.trans (List.prefix_append _ [b.name (Text.Case.lower resource)])
      obtain ⟨rfl, -⟩ := Artifact.eq_of_prefix longer (ne_mapper other)
      have size := before.length_le
      rw [Artifact.names, List.length_append, List.length_singleton] at size
      omega
    · exact ⟨data, file⟩

end Writer

end Writers

end Scaffold

namespace Field

open Disk (Below Repository Route)

theorem checkInside_outside {path : String} (outside : Text.Blank.isBlankText path = true ∨
    Disk.Path.isAbsolute path = true ∨ ".." ∈ Text.Search.split '/' path) :
    checkInside path = .error (.outsideRepository path) := by
  unfold checkInside
  refine if_pos ?_
  rcases outside with blank | absolute | up
  · exact .inl blank
  · refine .inr (List.any_eq_true.2 ⟨.top, ?_, rfl⟩)
    rw [Disk.Path.isAbsolute_eq, decide_eq_true_eq] at absolute
    exact List.mem_of_head? absolute
  · refine .inr (List.any_eq_true.2 ⟨.up, ?_, rfl⟩)
    exact List.mem_append_right _ (List.mem_filterMap.2 ⟨"..", up, by decide⟩)

theorem add_outside {engine : Text.Glob.Engine} {r : Request} {kind : Kind} {path : String}
    (typed : Kind.ofText r.fieldType = .ok kind) (named : r.typesFile = some path)
    (outside : Text.Blank.isBlankText path = true ∨ Disk.Path.isAbsolute path = true ∨
      ".." ∈ Text.Search.split '/' path) (root : String) (d : Disk) :
    (add engine root r).perform d = (.error (.outsideRepository path), d) := by
  have refused : r.prepare engine d root = .error (.outsideRepository path) := by
    unfold Request.prepare Request.target
    rw [typed, named]
    simp only [bind, Except.bind, checkInside_outside outside]
  rw [add_perform, refused]

theorem add_changes {engine : Text.Glob.Engine} {d : Disk} {root : String} {base route : Route}
    (repo : Repository d root base) (r : Request)
    (changed : ((add engine root r).perform d).2.tree.lookup? route ≠ d.tree.lookup? route) :
    Below base route := by
  rcases add_cases repo r with ⟨f, failed⟩ | ⟨text, d', added, ⟨a⟩⟩
  · rw [failed] at changed
    exact absurd rfl changed
  · rw [added] at changed
    by_cases here : route = a.goal
    · rw [here]
      exact a.below
    · exact absurd (a.others route here) changed

end Field

namespace Scaffold

open Disk (Below OnTheWay Repository Route)
open Disk.Path (Plain)
open Text.Search (split)

/-- No argument makes a writer leave its place. What a scaffold changes is new and below the root: a
file of its resource, the names of which are the parts of its documented path, or a directory on the
way to it; and where it succeeds its files are there. A coordinate that is no part of a path is
refused as an argument, before anything is made. What the addition of a field changes is below the
root as well, and a path for it that is blank, absolute or leads up is refused in the same way. -/
theorem writers_keep_their_place {engine : Text.Glob.Engine} {d : Disk} {root : String} {base : Route}
    (repo : Repository d root base) :
    (∀ (w : Writer) (resource service version : String),
      let outcome := (w.run root resource service version).perform d
      let lower := Text.Case.lower resource
      (∀ route, outcome.2.tree.lookup? route ≠ d.tree.lookup? route →
        Below base route ∧ ∃ a ∈ w.artifacts,
          split '/' (a.path service version lower) = a.names service version lower ∧
          (a.names service version lower).length = a.depth ∧
          (∀ n ∈ a.names service version lower, Plain n) ∧
          (OnTheWay base (a.directories service version lower) route ∧
              outcome.2.tree.lookup? route = some .directory ∨
            route = base ++ a.names service version lower ∧
              ∃ data, outcome.2.tree.lookup? route = some (.file data false))) ∧
      (∀ text, outcome.1 = .ok text → ∀ a ∈ w.artifacts, ∃ data,
        outcome.2.tree.lookup? (base ++ a.names service version lower) =
          some (.file data false)) ∧
      ((∃ s ∈ w.coordinates resource service version, Unfit s) →
        ∃ f, f.isArgument = true ∧ outcome = (.error f, d))) ∧
    ∀ r : Field.Request,
      let outcome := (Field.add engine root r).perform d
      (∀ route, outcome.2.tree.lookup? route ≠ d.tree.lookup? route → Below base route) ∧
      ∀ kind path, Field.Kind.ofText r.fieldType = .ok kind → r.typesFile = some path →
        Text.Blank.isBlankText path = true ∨ Disk.Path.isAbsolute path = true ∨
          ".." ∈ split '/' path →
        ∃ f, f.isArgument = true ∧ outcome = (.error f, d) := by
  refine ⟨fun w resource service version => ⟨fun route changed => ?_, ?_, fun unfit => ?_⟩,
    fun r => ⟨fun route changed => ?_, fun kind path typed named outside => ?_⟩⟩
  · obtain ⟨below, a, mem, plain, place⟩ := w.changes repo changed
    exact ⟨below, a, mem, Layout.Artifact.split_path plain, a.length_names .., plain, place⟩
  · intro text went a mem
    exact Writer.comes repo (Prod.ext went rfl) mem
  · obtain ⟨f, told, refused⟩ := Writer.rejects root unfit
    exact ⟨f, told, refused d⟩
  · exact Field.add_changes repo r changed
  · exact ⟨_, rfl, Field.add_outside typed named outside root d⟩

/-- A repository with one API. -/
def withApi : Disk :=
  ⟨Disk.Tree.empty.withFile ["repo", "apis", "redis", "v1", "doc.go"], []⟩

/-- A types file comes beside what is there. A resource that is named as the directory above is
refused, and so is a types file in that directory. -/
theorem writers_keep_their_place_redis : Repository withApi "/repo" ["repo"] ∧
    (∃ text d' data, ((Writer.types 2025 "" "" none).run "/repo" "Disk" "redis" "v1").perform withApi =
        (.ok text, d') ∧
      d'.tree.lookup? ["repo", "apis", "redis", "v1", "disk_types.go"] = some (.file data false)) ∧
    (∃ f, f.isArgument = true ∧
      ((Writer.later (.mock 2025 "" "" "")).run "/repo" ".." "redis" "").perform withApi =
        (.error f, withApi)) ∧
    ∃ f, f.isArgument = true ∧
      (Field.add .unlimited "/repo" { Field.sizeRequest with typesFile := some "../disk_types.go" }).perform
        withApi = (.error f, withApi) := by
  have repo : Repository withApi "/repo" ["repo"] := by decide +kernel
  obtain ⟨scaffolds, additions⟩ := writers_keep_their_place repo
  refine ⟨repo, ?_, ?_, ?_⟩
  · have went : (((Writer.types 2025 "" "" none).run "/repo" "Disk" "redis" "v1").perform
        withApi).1.isOk = true := by decide +kernel
    obtain ⟨text, d', made⟩ := Action.exists_of_isOk went
    obtain ⟨-, comes, -⟩ := scaffolds (.types 2025 "" "" none) "Disk" "redis" "v1"
    obtain ⟨data, file⟩ := comes text (congrArg Prod.fst made) .types List.mem_cons_self
    have lower : Text.Case.lower "Disk" = "disk" := by decide +kernel
    rw [made, lower] at file
    exact ⟨text, d', data, made, file⟩
  · obtain ⟨-, -, refuses⟩ := scaffolds (.later (.mock 2025 "" "" "")) ".." "redis" ""
    exact refuses ⟨"..", List.mem_cons_self, .inr (.inr (.inr (.inr rfl)))⟩
  · obtain ⟨-, refuses⟩ :=
      additions { Field.sizeRequest with typesFile := some "../disk_types.go" }
    exact refuses .int64 _ rfl rfl (.inr (.inr (by decide)))

end Scaffold

end ConnectorKit
