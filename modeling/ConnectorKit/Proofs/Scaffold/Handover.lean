import ConnectorKit.Proofs.Disk.Fresh
import ConnectorKit.Proofs.Disk.Walk
import ConnectorKit.Proofs.Field.Addition
import ConnectorKit.Proofs.Layout.Pattern
import ConnectorKit.Proofs.Migration.Plan
import ConnectorKit.Proofs.Scaffold.TypesText

/-!
From a scaffolded types file to the work on a direct resource. Where no file went by the name of the
resource, the new one is what classification and finder both take, if they come to an end. So the
resource is direct there, its migration is complete, and the fields that are added come behind the
last one of the new spec.
-/

set_option autoImplicit false
set_option relaxedAutoImplicit false

namespace ConnectorKit.Scaffold

open Disk (Repository Route)
open Disk.Path (Plain join ofNames)
open Layout (Artifact)

variable {engine : Text.Glob.Engine} {d d' : Disk} {root : String} {base : Route}
  {resource service version content : String}

/-- A types file that is in its place, and that the searches for its resource find first. -/
structure Settled (d : Disk) (root resource service version content : String) : Prop where
  plain : ∀ n ∈ Artifact.types.names service version (Text.Case.lower resource), Plain n
  short : (Text.Case.lower resource ++ "_types.go").utf8ByteSize ≤ Disk.nameLimit
  direct : (Controller.directFiles d root resource).head? =
    some (Layout.typesFile service version (Text.Case.lower resource))
  taken : Controller.taken? d root resource =
    some (Layout.typesFile service version (Text.Case.lower resource))
  file : d.lookup? (join root (Layout.typesFile service version (Text.Case.lower resource))) =
    some (.file content.toUTF8 false)

section Creation

private theorem head?_eq {l : List String} {path : String} (mem : path ∈ l)
    (only : ∀ other ∈ l, other = path) : l.head? = some path := by
  cases l with
  | nil => cases mem
  | cons first rest => rw [List.head?_cons, only first List.mem_cons_self]

variable {s : Skeleton}

private theorem Placed.creates {a : Artifact} (placed : Placed a resource service version s)
    (repo : Repository d root base)
    (allowed : Disk.Allowed root (a.names service version (Text.Case.lower resource)))
    (directory : d.tree.lookup? (base ++ a.directories service version (Text.Case.lower resource)) =
      some .directory)
    (free : d.tree.lookup? (base ++ a.names service version (Text.Case.lower resource)) = none) :
    ∃ d', (s.create root).perform d = (.ok (), d') := by
  have slot := repo.slot_of_directory (placed.plain a) allowed directory
  have written := Disk.writeNew_of_slot repo.rooted (placed.plain a) slot s.content.toUTF8
  rw [List.append_assoc, ← Artifact.names, free, ← a.path_eq, ← placed.path] at written
  exact ⟨_, create_ok_iff.2 written⟩

private theorem Placed.eq_of_findings (placed : Placed .types resource service version s)
    (repo : Repository d root base) (free : Controller.findings d root resource = []) :
    ∀ other ∈ Controller.findings ((s.create root).perform d).2 root resource, other = s.path := by
  intro other mem
  have gains := placed.create_gains repo
  have repo' := gains.repository repo (placed.plain .types)
  unfold Controller.findings at mem
  rw [Layout.apisDirectory_eq, Controller.mem_listedNamed_iff repo' (by decide) (by decide)] at mem
  obtain ⟨allowed, front, n, data, x, stands, covered, rfl⟩ := mem
  rcases gains.entry (base ++ (["apis"] ++ (front ++ [n]))) with
    same | ⟨-, ⟨-, directory⟩ | ⟨bytes, ⟨-, here⟩, -⟩⟩
  · -- a file that stood there before would have been found before
    have before : ofNames (["apis"] ++ (front ++ [n])) ∈ Controller.findings d root resource := by
      unfold Controller.findings
      rw [Layout.apisDirectory_eq, Controller.mem_listedNamed_iff repo (by decide) (by decide)]
      exact ⟨allowed, front, n, data, x, same ▸ stands, covered, rfl⟩
    rw [free] at before
    cases before
  · rw [stands] at directory
    cases directory
  · rw [List.append_cancel_left here, placed.path, Artifact.types.path_eq]
    rfl

/-- A types file that is created where none went by the name of the resource is settled. -/
theorem Placed.settled (placed : Placed .types resource service version s)
    (repo : Repository d root base) (free : Controller.findings d root resource = [])
    (made : (s.create root).perform d = (.ok (), d')) :
    Settled d' root resource service version s.content := by
  have gains := placed.create_gains repo
  have only := placed.eq_of_findings repo free
  rw [made] at gains only
  have repo' : Repository d' root base := gains.repository repo (placed.plain .types)
  have plain : ∀ n ∈ ["apis"] ++ ([service, version] ++ [Text.Case.lower resource ++ "_types.go"]),
      Plain n := placed.plain .types
  have file := (placed.create_ok repo made).2
  have path : s.path = ofNames (["apis"] ++ ([service, version] ++
      [Text.Case.lower resource ++ "_types.go"])) :=
    placed.path.trans (Artifact.types.path_eq _ _ _)
  have there := file
  rw [path, repo'.lookup?_iff (by simp) plain] at there
  have direct : s.path ∈ Controller.directFiles d' root resource := by
    rw [path, Controller.mem_directFiles_iff repo']
    exact ⟨there.1.above (by decide) plain, [service, version], _, _, false, there.2,
      Layout.covers_typesFile _, rfl⟩
  have found := Controller.mem_findings_of_direct direct
  have place : s.path = Layout.typesFile service version (Text.Case.lower resource) := placed.path
  rw [place] at direct found file only
  exact {
    plain, file
    short := there.1.2 _ (by simp)
    direct := head?_eq direct fun _ mem => only _ (Controller.mem_findings_of_direct mem)
    taken := head?_eq found only }

end Creation

namespace Settled

theorem ofPath (settled : Settled d root resource service version content) :
    Layout.TypesFile.ofPath Layout.directTypes
      (Layout.typesFile service version (Text.Case.lower resource)) =
        .ok ⟨Text.Case.lower service, Text.Case.lower version,
          Text.Case.lower resource ++ "_types.go"⟩ := by
  have path : Layout.typesFile service version (Text.Case.lower resource) =
      ofNames ["apis", service, version, Text.Case.lower resource ++ "_types.go"] :=
    Artifact.types.path_eq service version (Text.Case.lower resource)
  rw [path]
  exact Layout.TypesFile.ofPath_directTypes settled.plain

theorem patterns (settled : Settled d root resource service version content)
    (engine : Text.Glob.Engine) : Controller.Taken engine resource := by
  have short : (Text.Case.lower resource).utf8ByteSize ≤ Disk.nameLimit := by
    refine le_trans ?_ settled.short
    rw [String.utf8ByteSize_append]
    exact Nat.le_add_right _ _
  have direct : "*".utf8ByteSize + "*_types.go".utf8ByteSize = 11 := by decide
  have legacy : "*".utf8ByteSize + "*types.go".utf8ByteSize = 10 := by decide
  unfold Disk.nameLimit at short
  constructor <;> refine engine.takes_short _ ?_ <;>
    unfold Text.Glob.shortLimit
  · rw [Layout.directTypesPattern, String.utf8ByteSize_append, String.utf8ByteSize_append]
    omega
  · rw [Layout.legacyTypesPattern, String.utf8ByteSize_append, String.utf8ByteSize_append]
    omega

theorem classified (settled : Settled d root resource service version content)
    (opens : ∀ names ∈ Controller.searched, d.Searchable root (ofNames names)) :
    ∃ info, Controller.classify engine d root resource = .ok info ∧ info.style = .direct ∧
      info.location = some (Layout.typesFile service version (Text.Case.lower resource)) ∧
      info.coordinates? = some (Text.Case.lower service, Text.Case.lower version) := by
  have first := settled.direct
  refine ⟨_, Controller.classify_eq_ok_iff.2 ⟨(settled.patterns engine).searches opens, rfl⟩, ?_⟩
  cases Controller.described_decision d root resource with
  | direct path found style location tells =>
    obtain rfl := Option.some.inj (found.symm.trans first)
    rw [Controller.Tells, settled.ofPath] at tells
    exact ⟨style, location, Controller.coordinates?_eq_some_iff.2 ⟨tells.1, tells.2.1⟩⟩
  | legacy path none =>
    rw [none] at first
    cases first
  | unknown none =>
    rw [none] at first
    cases first

theorem located (settled : Settled d root resource service version content)
    (apis : d.Searchable root Layout.apisDirectory) :
    ∃ l, Controller.locate engine d root resource = .ok l ∧
      l.typesFile = Layout.typesFile service version (Text.Case.lower resource) := by
  have finds := (settled.patterns engine).finds apis
  obtain ⟨l, found, told, -⟩ := Controller.locate_of_read finds settled.taken settled.ofPath
  exact ⟨l, found, told⟩

theorem added (settled : Settled d root resource service version content)
    (repo : Repository d root base) (apis : d.Searchable root Layout.apisDirectory)
    {site : Field.Site (resource ++ "Spec")}
    (rows : Text.Line.rows content = site.rows) {fieldName fieldType protoPath : String}
    {description jsonName : Option String} {kind : Field.Kind}
    (typed : Field.Kind.ofText fieldType = .ok kind) :
    let f : Field.Request :=
      ⟨resource, fieldName, fieldType, protoPath, none, description, jsonName, none⟩
    ∃ text d', (Field.add engine root f).perform d = (.ok text, d') ∧
      ∃ a : Field.Addition engine root base f text d d',
        a.path = Layout.typesFile service version (Text.Case.lower resource) ∧
        a.content = content ∧ a.site = site := by
  intro f
  obtain ⟨l, located, told⟩ := settled.located apis
  have aimed : f.target engine d root =
      .ok (Layout.typesFile service version (Text.Case.lower resource)) := by
    change (Controller.locate engine d root resource >>= fun l => .ok l.typesFile) = _
    rw [located]
    exact congrArg Except.ok told
  have put : Field.insert? f.parent (f.block kind) content =
      some (Text.Line.ofRows (site.withBlock (f.block kind))) :=
    Field.insert?_eq_some_iff.2 ⟨site, rows, rfl⟩
  have prepared := Field.prepare_eq (r := f) typed aimed (Field.readText_of_lookup? settled.file) put
  obtain ⟨text, d', went, ⟨a⟩⟩ := Field.addition_of_prepare repo prepared
  have path : a.path = Layout.typesFile service version (Text.Case.lower resource) :=
    Except.ok.inj (a.aimed.symm.trans aimed)
  have same : a.content = content := by
    have stood := settled.file
    rw [← path, Disk.lookup?, a.found] at stood
    have bytes := a.stood.symm.trans stood
    rw [Option.some.injEq, Disk.Entry.file.injEq] at bytes
    exact String.toByteArray_inj.1 bytes.1
  refine ⟨text, d', went, a, path, same, Field.Site.eq_of_rows ?_⟩
  exact a.rows_eq.symm.trans (same ▸ rows)

end Settled

/-- What is reported of a resource whose types file was scaffolded. -/
structure Reported (engine : Text.Glob.Engine) (d : Disk) (root : String) (r : TypesRequest) :
    Prop where
  classified : ∃ info, Controller.classify engine d root r.resource = .ok info ∧
    info.style = .direct ∧
    info.location = some (Layout.typesFile r.service r.version (Text.Case.lower r.resource)) ∧
    info.coordinates? = some (Text.Case.lower r.service, Text.Case.lower r.version)
  status : ∃ report, Migration.status engine d root r.resource = .ok report ∧
    report.overall = "Migration complete" ∧ report.canAddFields = true
  planned : Migration.plan engine d root r.resource = .error (.alreadyMigrated r.resource
    (some (Layout.typesFile r.service r.version (Text.Case.lower r.resource))))

/-- The types file that was scaffolded is the one that is worked on. -/
structure Workable (engine : Text.Glob.Engine) (d : Disk) (root : String) (base : Route)
    (r : TypesRequest) (content : String) : Prop where
  located : ∃ l, Controller.locate engine d root r.resource = .ok l ∧
    l.typesFile = Layout.typesFile r.service r.version (Text.Case.lower r.resource)
  /-- A field goes into the spec, directly behind the identifier of the resource. -/
  added : ∀ (f : Field.Request) (kind : Field.Kind), f.resource = r.resource →
    f.parentType = none → f.typesFile = none → Field.Kind.ofText f.fieldType = .ok kind →
    ∃ text d', (Field.add engine root f).perform d = (.ok text, d') ∧
      ∃ a : Field.Addition engine root base f text d d',
        a.path = Layout.typesFile r.service r.version (Text.Case.lower r.resource) ∧
        a.content = content ∧ BehindIdentifier a.site

section Direct

variable {r : TypesRequest} {year : Nat}

theorem Reported.opens (report : Reported engine d root r) :
    ∀ names ∈ Controller.searched, d.Searchable root (ofNames names) := by
  obtain ⟨info, went, -, -, known⟩ := report.classified
  obtain ⟨searches, -⟩ := Controller.classify_eq_ok_iff.1 went
  refine searches.opens ?_
  rw [(Controller.coordinates?_eq_some_iff.1 known).1]
  exact Option.some_ne_none _

theorem Workable.searchable (work : Workable engine d root base r content) :
    d.Searchable root Layout.apisDirectory := by
  obtain ⟨l, located, -⟩ := work.located
  exact (Controller.finds_of_locate located).1

variable (settled : Settled d root r.resource r.service r.version content)
include settled

theorem Settled.reported
    (opens : ∀ names ∈ Controller.searched, d.Searchable root (ofNames names)) :
    Reported engine d root r := by
  obtain ⟨info, went, style, location, coordinates⟩ := settled.classified opens
  have complete := (Migration.status_of_classify went).trans (Migration.evaluate_of_direct style)
  refine ⟨⟨info, went, style, location, coordinates⟩, ⟨_, complete, rfl, rfl⟩, ?_⟩
  -- a migrated resource has no plan any more
  rw [Migration.plan_of_classify went, Migration.buildPlan, style, location,
    Controller.resource_of_classify went]

theorem Settled.workable (repo : Repository d root base)
    (apis : d.Searchable root Layout.apisDirectory) {site : Field.Site (r.resource ++ "Spec")}
    (rows : Text.Line.rows content = site.rows) (behind : BehindIdentifier site) :
    Workable engine d root base r content := by
  refine ⟨settled.located apis, ?_⟩
  -- taken apart, such a request has the spec of the resource for its parent by definition
  rintro ⟨resource, name, type, proto, parent, description, json, file⟩ kind own unparented unnamed
    typed
  dsimp only at own unparented unnamed typed
  subst own unparented unnamed
  obtain ⟨text, d', went, a, path, same, here⟩ := settled.added repo apis rows typed
  exact ⟨text, d', went, a, path, same, here ▸ behind⟩

end Direct

/-- Types for a resource that is to be migrated. -/
def redisTypes : TypesRequest where
  resource := "RedisInstance"
  service := "redis"
  version := "v1beta1"
  protoPackage := "google.cloud.redis.v1"
  protoMessage := "Instance"
  description := some "A Redis instance in a network."

/-- A repository with an empty directory for types, beside a directory with a longer name. -/
def withVersion : Disk :=
  ⟨(Disk.withUnopened.tree.put ["repo", "apis", "s"] .directory).put ["repo", "apis", "s", "v"]
    .directory, []⟩

/-- Types with a path of 19 characters. -/
def shortTypes : TypesRequest where
  resource := "B"
  service := "s"
  version := "v"
  protoPackage := "p"
  protoMessage := "B"
  description := none

private theorem repository_withVersion : Repository withVersion Disk.rootOfSlashes ["repo"] :=
  Disk.repository_rootOfSlashes (by decide +kernel)

private theorem findings_withVersion :
    Controller.findings withVersion Disk.rootOfSlashes "B" = [] := by
  refine List.eq_nil_iff_forall_not_mem.2 fun path mem => ?_
  rw [Controller.findings, Layout.apisDirectory_eq,
    Controller.mem_listedNamed_iff repository_withVersion (by decide) (by decide)] at mem
  obtain ⟨-, front, n, data, x, stands, covered, -⟩ := mem
  have inside := (Disk.Tree.lookup?_iff (by simp)).1 stands
  have others : ∀ e ∈ withVersion.tree.entries, e.2 = .directory ∨
      Text.Glob.covers (Layout.legacyTypesPattern (Text.Case.lower "B")) (e.1.getLastD "") =
        false := by decide +kernel
  have last : (["repo"] ++ (["apis"] ++ (front ++ [n]))).getLastD "" = n := by
    rw [← List.append_assoc, ← List.append_assoc, List.getLastD_concat]
  rcases others _ inside with directory | other
  · cases directory
  · rw [last, covered] at other
    cases other

end ConnectorKit.Scaffold
