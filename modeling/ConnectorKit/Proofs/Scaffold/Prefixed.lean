import ConnectorKit.Proofs.Scaffold.Closing
import ConnectorKit.Proofs.Scaffold.Kind

/-!
Scaffolds of a resource beside the report on its kind. A scaffold is given the name of a resource
without its service and names its files for that, while the report looks for files named for the kind.
So the report on a kind does not see what the scaffolds of its resource make.
-/

set_option autoImplicit false
set_option relaxedAutoImplicit false

namespace ConnectorKit.Scaffold

open Disk (Repository Route)
open Disk.Path (Plain)
open Layout (Artifact)

variable {engine : Text.Glob.Engine} {d d' : Disk} {root : String} {base : Route}
  {resource service version : String} {info : Controller.Classification}

/-- The kind of a resource. -/
abbrev kindOf (service resource : String) : String :=
  Text.Case.capitalize service ++ resource

theorem Call.status_kind_eq {c : Call} (served : Plain service) (versioned : Plain version)
    (repo : Repository d root base)
    (went : ((c.run root resource service version).perform d).2 = d') :
    Migration.status engine d' root (kindOf service resource) =
      Migration.status engine d root (kindOf service resource) := by
  rw [← went]
  refine ((c.makes served versioned).lays repo).keeps served versioned
    (fun d => Migration.status engine d root (kindOf service resource))
    (fun owned mem repo gains => ?_) repo
  obtain ⟨-, other, own⟩ := phase_of_mem mem
  have plain := Artifact.plain_names served versioned (Text.Case.plain_lower owned)
  refine Migration.status_eq gains repo (plain _) (Text.Case.plain_lower (plain_kind served owned))
    (classify_eq_of_artifact gains repo (plain _) other _) (Artifact.not_under_protos _)
    fun s v b inside => ?_
  -- only a file of the same name could be on the way, and the kind is longer than the resource
  exact lower_kind_ne served (Artifact.eq_of_prefix inside own).2

/-- The types file of a resource makes its kind direct only where the service is made of stars. -/
theorem types_direct_iff {year : Nat} {protoPackage protoMessage text : String}
    {description : Option String} (repo : Repository d root base)
    (classified : Controller.classify engine d root (kindOf service resource) = .ok info)
    (legacy : info.style = .legacy) (known : info.service ≠ none)
    (made : (types root year
      ⟨resource, service, version, protoPackage, protoMessage, description⟩).perform d =
        (.ok text, d')) :
    ∃ info', Controller.classify engine d' root (kindOf service resource) = .ok info' ∧
      (info'.style = .direct ↔ ∀ c ∈ service.toList, c = '*') := by
  obtain ⟨s, given, created⟩ := createOne_ok made
  have placed : Placed .types resource service version s := TypesRequest.skeleton_placed given
  have gains := placed.create_gains repo
  obtain ⟨-, file⟩ := placed.create_ok repo created
  rw [created] at gains
  rw [placed.path] at file
  rw [← covers_kind_iff]
  cases covered : Text.Glob.covers (Layout.directTypesPattern
      (Text.Case.lower (kindOf service resource))) (Text.Case.lower resource ++ "_types.go") with
  | true =>
    have repo' := gains.repository repo (placed.plain _)
    obtain ⟨searches, rfl⟩ := Controller.classify_eq_ok_iff.1 classified
    have opens := (Controller.opens_iff gains repo (placed.plain _)).2 (searches.opens known)
    refine ⟨_, Controller.classify_eq_ok_iff.2 ⟨searches.taken.searches opens, rfl⟩, ?_⟩
    exact iff_of_true (Controller.direct_of_typesFile repo' placed.served placed.versioned
      (Text.Case.plain_lower placed.owned).unslashed covered file) rfl
  | false =>
    have same : Controller.classify engine d' root (kindOf service resource) = _ :=
      Controller.classify_eq gains repo (placed.plain _) (kindOf service resource)
        (fun _ => covered) (Artifact.not_under_clients _) (Artifact.not_under_protos _)
    refine ⟨info, same.trans classified, ?_⟩
    rw [legacy]
    exact iff_of_false nofun nofun

/-- For the kind of a resource that is not migrated, the scaffolds of the resource leave the report as
it was, whether they succeed or not; the types file counts where the service is made of stars, and
nowhere else. -/
theorem scaffolds_pass_by_kind (repo : Repository d root base)
    (classified : Controller.classify engine d root (kindOf service resource) = .ok info)
    (legacy : info.style = .legacy) (known : info.coordinates? = some (service, version)) :
    (∀ (c : Call) (d' : Disk), ((c.run root resource service version).perform d).2 = d' →
      Migration.status engine d' root (kindOf service resource) =
        Migration.status engine d root (kindOf service resource)) ∧
    ∀ (year : Nat) (protoPackage protoMessage : String) (description : Option String)
      (text : String) (d' : Disk),
      (types root year ⟨resource, service, version, protoPackage, protoMessage, description⟩).perform
        d = (.ok text, d') →
      ∃ info', Controller.classify engine d' root (kindOf service resource) = .ok info' ∧
        (info'.style = .direct ↔ ∀ c ∈ service.toList, c = '*') := by
  obtain ⟨served, versioned⟩ := Controller.plain_of_coordinates? repo classified known
  have told : info.service ≠ none := by
    rw [(Controller.coordinates?_eq_some_iff.1 known).1]
    nofun
  exact ⟨fun c d' went => c.status_kind_eq served versioned repo went,
    fun year protoPackage protoMessage description text d' made =>
      types_direct_iff repo classified legacy told made⟩

/-- A repository with the legacy types file of one kind. -/
def prefixedKind : Disk :=
  ⟨Disk.Tree.empty.withFile
    ["repo", "pkg", "clients", "generated", "apis", "compute", "v1beta1", "computeurlmap_types.go"], []⟩

def prefixedReport : Controller.Classification :=
  { resource := "ComputeURLMap", style := .legacy
    location := some "pkg/clients/generated/apis/compute/v1beta1/computeurlmap_types.go"
    migrationNeeded := true, hasDirectTypes := false, hasLegacyTypes := true, hasProto := false
    protoLocation := none, service := some "compute", version := some "v1beta1", layoutError := none }

/-- A scaffold of an identity file for the resource. -/
def urlMapIdentity : Action Disk String :=
  (Call.identity 2026 "projects/\x7bproject\x7d/global/urlMaps/\x7burlmap\x7d").run "/repo" "URLMap"
    "compute" "v1beta1"

/-- A scaffold of a types file for the resource. -/
def urlMapTypes : Action Disk String :=
  types "/repo" 2026 ⟨"URLMap", "compute", "v1beta1", "google.cloud.compute.v1", "UrlMap", none⟩

/-- The report on a kind does not change with the identity file of its resource, and with its types
file the kind is not direct. -/
theorem scaffolds_pass_by_kind_compute :
    Migration.status .unlimited (urlMapIdentity.perform prefixedKind).2 "/repo" "ComputeURLMap" =
      Migration.status .unlimited prefixedKind "/repo" "ComputeURLMap" ∧
    ∃ text d' info', urlMapTypes.perform prefixedKind = (.ok text, d') ∧
      Controller.classify .unlimited d' "/repo" "ComputeURLMap" = .ok info' ∧
      info'.style ≠ .direct := by
  have repo : Repository prefixedKind "/repo" ["repo"] := by decide +kernel
  have kind : kindOf "compute" "URLMap" = "ComputeURLMap" := by decide +kernel
  have classified : Controller.classify .unlimited prefixedKind "/repo"
      (kindOf "compute" "URLMap") = .ok prefixedReport := by decide +kernel
  obtain ⟨reports, directs⟩ := scaffolds_pass_by_kind repo classified rfl rfl
  rw [kind] at reports directs
  refine ⟨reports _ _ rfl, ?_⟩
  have succeeds : (urlMapTypes.perform prefixedKind).1.isOk = true := by decide +kernel
  rcases made : urlMapTypes.perform prefixedKind with ⟨f | text, d'⟩
  · rw [made] at succeeds
    cases succeeds
  · obtain ⟨info', told, iff_⟩ := directs _ _ _ _ _ _ made
    refine ⟨text, d', info', rfl, told, fun direct => ?_⟩
    have stars := iff_.1 direct
    simp at stars

/-- The identity file is made, and the third phase of the kind is still not started. -/
theorem identity_not_seen_for_kind :
    let report := Migration.status .unlimited (urlMapIdentity.perform prefixedKind).2 "/repo"
      "ComputeURLMap"
    Repository prefixedKind "/repo" ["repo"] ∧ kindOf "compute" "URLMap" = "ComputeURLMap" ∧
      Controller.classify .unlimited prefixedKind "/repo" "ComputeURLMap" = .ok prefixedReport ∧
      prefixedReport.style = .legacy ∧
      prefixedReport.coordinates? = some ("compute", "v1beta1") ∧
      (urlMapIdentity.perform prefixedKind).1.isOk = true ∧
      report.toOption.map (fun r => (r.phases.filter (·.number = 3)).map (·.completion)) =
        some [.notStarted] := by
  decide +kernel

end ConnectorKit.Scaffold
