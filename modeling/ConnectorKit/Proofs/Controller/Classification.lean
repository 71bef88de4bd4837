import ConnectorKit.Controller.Classification
import ConnectorKit.Proofs.Disk.Growth
import ConnectorKit.Proofs.Layout.Artifact
import ConnectorKit.Proofs.Layout.TypesFile
import ConnectorKit.Proofs.Text.Glob

/-!
What a classification depends on: three searches, for direct and legacy types files and for protos.
Where they come to an end it describes what they list, and a new file that none of them looks for
changes nothing of it.
-/

set_option autoImplicit false
set_option relaxedAutoImplicit false

namespace ConnectorKit.Controller

open Disk (Found GainsFile Name Repository Route)
open Disk.Path (Plain ofNames)
open Layout (Artifact)

variable {engine : Text.Glob.Engine} {d d' : Disk} {root : String} {base : Route}

/-- The direct types files of a resource, in the order of the walk. -/
abbrev directFiles (d : Disk) (root resource : String) : List String :=
  d.listedNamed root Layout.apisDirectory
    (Text.Glob.covers (Layout.directTypesPattern (Text.Case.lower resource)))

/-- The legacy types files of a resource, in the order of the walk. -/
abbrev legacyFiles (d : Disk) (root resource : String) : List String :=
  d.listedNamed root Layout.legacyDirectory
    (Text.Glob.covers (Layout.legacyTypesPattern (Text.Case.lower resource)))

/-- The protos of a service, in the order of the walk. -/
abbrev protoFiles (d : Disk) (root service : String) : List String :=
  d.listedWithPath root Layout.protoDirectory ("/" ++ service ++ "/") ".proto"

/-- What the files tell of a resource, wherever the searches for them come to an end. -/
def described (d : Disk) (root resource : String) : Classification :=
  let direct := directFiles d root resource
  let legacy := legacyFiles d root resource
  describe resource direct legacy
    ((service? direct legacy).bind fun service => (protoFiles d root service).head?)

/-- The names of the directory of protos. -/
abbrev protoNames : List Name :=
  ["mockgcp", "third_party", "googleapis"]

/-- The directories that a classification searches. -/
def searched : List (List Name) :=
  [["apis"], ["pkg", "clients", "generated"], protoNames]

theorem plain_searched : ∀ names ∈ searched, names ≠ [] ∧ ∀ n ∈ names, Plain n := by
  decide

section Searches

/-- The patterns of a resource are taken. -/
def Taken (engine : Text.Glob.Engine) (resource : String) : Prop :=
  engine.complaint? (Layout.directTypesPattern (Text.Case.lower resource)) = none ∧
    engine.complaint? (Layout.legacyTypesPattern (Text.Case.lower resource)) = none

/-- The searches for a resource come to an end; protos are looked for where the service is known. -/
structure Searches (engine : Text.Glob.Engine) (d : Disk) (root resource : String)
    (service : Option String) : Prop where
  taken : Taken engine resource
  apis : d.Searchable root Layout.apisDirectory
  clients : d.Searchable root Layout.legacyDirectory
  protos : service ≠ none → d.Searchable root Layout.protoDirectory

theorem Taken.searches {resource : String} {service : Option String} (taken : Taken engine resource)
    (opens : ∀ names ∈ searched, d.Searchable root (ofNames names)) :
    Searches engine d root resource service := by
  refine ⟨taken, ?_, ?_, fun _ => ?_⟩
  · rw [Layout.apisDirectory_eq]
    exact opens _ (by decide)
  · rw [Layout.legacyDirectory_eq]
    exact opens _ (by decide)
  · rw [Layout.protoDirectory_eq]
    exact opens _ (by decide)

theorem Searches.opens {resource : String} {service : Option String}
    (h : Searches engine d root resource service) (known : service ≠ none) :
    ∀ names ∈ searched, d.Searchable root (ofNames names) := by
  simp only [searched, List.forall_mem_cons, List.not_mem_nil, false_implies, implies_true, and_true]
  rw [← Layout.apisDirectory_eq, ← Layout.legacyDirectory_eq, ← Layout.protoDirectory_eq]
  exact ⟨h.apis, h.clients, h.protos known⟩

/-- A failure of a search: its pattern is not taken, or a directory cannot be opened. -/
inductive Barred : Failure → Prop
  | pattern (pattern words : String) : Barred (.badPattern pattern words)
  | directory (path : String) (fault : Disk.Fault) : Barred (.walk path fault)

theorem matching_cases (engine : Text.Glob.Engine) (d : Disk) (root directory pattern : String) :
    ((engine.complaint? pattern = none ∧ d.Searchable root directory) ∧
      matching engine d root directory pattern =
        .ok (d.listedNamed root directory (Text.Glob.covers pattern))) ∨
    ∃ f, Barred f ∧ ¬ (engine.complaint? pattern = none ∧ d.Searchable root directory) ∧
      matching engine d root directory pattern = .error f := by
  unfold matching
  cases complaint : engine.complaint? pattern with
  | some words => exact .inr ⟨_, .pattern pattern words, nofun ∘ And.left, rfl⟩
  | none =>
    rcases d.filesNamed_cases root directory (Text.Glob.covers pattern) with
      ⟨opens, listed⟩ | ⟨path, fault, shut, failed⟩
    · exact .inl ⟨⟨rfl, opens⟩, listed⟩
    · exact .inr ⟨_, .directory path fault, fun h => shut.not_searchable h.2, failed⟩

private theorem protoOf_cases (d : Disk) (root : String) (service : Option String) :
    ((service ≠ none → d.Searchable root Layout.protoDirectory) ∧
      protoOf d root service = .ok (service.bind fun name => (protoFiles d root name).head?)) ∨
    ∃ f, Barred f ∧ ¬ (service ≠ none → d.Searchable root Layout.protoDirectory) ∧
      protoOf d root service = .error f := by
  cases service with
  | none => exact .inl ⟨fun known => absurd rfl known, rfl⟩
  | some name =>
    unfold protoOf
    dsimp only
    unfold findProto
    rcases d.filesWithPath_cases root Layout.protoDirectory ("/" ++ name ++ "/") ".proto" with
      ⟨opens, listed⟩ | ⟨path, fault, shut, failed⟩
    · exact .inl ⟨fun _ => opens, by rw [listed]; rfl⟩
    · refine .inr ⟨_, .directory path fault, fun h => ?_, by rw [failed]; rfl⟩
      exact shut.not_searchable (h (Option.some_ne_none name))

/-- A classification describes the files where its searches come to an end, and otherwise fails as
one of them. -/
theorem classify_cases (engine : Text.Glob.Engine) (d : Disk) (root resource : String) :
    (Searches engine d root resource (described d root resource).service ∧
      classify engine d root resource = .ok (described d root resource)) ∨
    ∃ f, Barred f ∧ ¬ Searches engine d root resource (described d root resource).service ∧
      classify engine d root resource = .error f := by
  unfold classify
  dsimp only
  rcases matching_cases engine d root Layout.apisDirectory
      (Layout.directTypesPattern (Text.Case.lower resource)) with
    ⟨⟨direct, apis⟩, found⟩ | ⟨f, barred, other, failed⟩
  rotate_left
  · exact .inr ⟨f, barred, fun h => other ⟨h.taken.1, h.apis⟩, by rw [failed]; rfl⟩
  rcases matching_cases engine d root Layout.legacyDirectory
      (Layout.legacyTypesPattern (Text.Case.lower resource)) with
    ⟨⟨legacy, clients⟩, found'⟩ | ⟨f, barred, other, failed⟩
  rotate_left
  · exact .inr ⟨f, barred, fun h => other ⟨h.taken.2, h.clients⟩, by rw [found, failed]; rfl⟩
  rw [found, found']
  simp only [bind, Except.bind]
  rcases protoOf_cases d root
      (service? (directFiles d root resource) (legacyFiles d root resource)) with
    ⟨protos, proto⟩ | ⟨f, barred, other, failed⟩
  · exact .inl ⟨⟨⟨direct, legacy⟩, apis, clients, protos⟩, by rw [proto]; rfl⟩
  · exact .inr ⟨f, barred, fun h => other h.protos, by rw [failed]⟩

theorem classify_eq_ok_iff {resource : String} {c : Classification} :
    classify engine d root resource = .ok c ↔
      Searches engine d root resource c.service ∧ c = described d root resource := by
  rcases classify_cases engine d root resource with ⟨searches, told⟩ | ⟨f, -, other, failed⟩
  · rw [told, Except.ok.injEq]
    constructor
    · rintro rfl
      exact ⟨searches, rfl⟩
    · exact fun h => h.2.symm
  · rw [failed]
    refine ⟨nofun, ?_⟩
    rintro ⟨searches, rfl⟩
    exact absurd searches other

end Searches

theorem resource_of_classify {resource : String} {c : Classification}
    (went : classify engine d root resource = .ok c) : c.resource = resource := by
  obtain ⟨-, rfl⟩ := classify_eq_ok_iff.1 went
  rfl

/-- What a classification has from its types file: the service and the version, or why not. -/
def Tells (l : Layout) (path : String) (c : Classification) : Prop :=
  match Layout.TypesFile.ofPath l path with
  | .ok file => c.service = some file.service ∧ c.version = some file.version ∧ c.layoutError = none
  | .error f => c.service = none ∧ c.version = none ∧ c.layoutError = some f.message

/-- How the first files of the two searches decide a classification. -/
inductive Decision (d : Disk) (root resource : String) (c : Classification) : Prop
  | direct (path : String) : (directFiles d root resource).head? = some path → c.style = .direct →
      c.location = some path → Tells Layout.directTypes path c → Decision d root resource c
  | legacy (path : String) : directFiles d root resource = [] →
      (legacyFiles d root resource).head? = some path → c.style = .legacy →
      c.location = some path → Tells Layout.legacyTypes path c → Decision d root resource c
  | unknown : directFiles d root resource = [] → legacyFiles d root resource = [] →
      c.style = .unknown → c.service = none → Decision d root resource c

theorem described_decision (d : Disk) (root resource : String) :
    Decision d root resource (described d root resource) := by
  have tells (l : Layout) (path : String) (c : Classification)
      (service : c.service = (Layout.TypesFile.ofPath l path).toOption.map (·.service))
      (version : c.version = (Layout.TypesFile.ofPath l path).toOption.map (·.version))
      (refused : c.layoutError = match Layout.TypesFile.ofPath l path with
        | .ok _ => none
        | .error failure => some failure.message) : Tells l path c := by
    unfold Tells
    rw [service, version, refused]
    cases Layout.TypesFile.ofPath l path <;> exact ⟨rfl, rfl, rfl⟩
  unfold described
  dsimp only
  generalize (service? _ _).bind _ = proto
  cases direct : directFiles d root resource with
  | cons path rest =>
    refine .direct path (by rw [direct]; rfl) ?_ ?_ (tells _ _ _ ?_ ?_ ?_) <;>
      simp only [describe, service?, layout?, decide?, List.head?_cons] <;> rfl
  | nil =>
    cases legacy : legacyFiles d root resource with
    | cons path rest =>
      refine .legacy path direct (by rw [legacy]; rfl) ?_ ?_ (tells _ _ _ ?_ ?_ ?_) <;>
        simp only [describe, service?, layout?, decide?, List.head?_cons, List.head?_nil] <;> rfl
    | nil =>
      refine .unknown direct legacy ?_ ?_ <;>
        simp only [describe, service?, layout?, decide?, List.head?_nil] <;> rfl

theorem classify_congr {root' resource : String}
    (direct : matching engine d' root' Layout.apisDirectory
        (Layout.directTypesPattern (Text.Case.lower resource)) =
      matching engine d root Layout.apisDirectory
        (Layout.directTypesPattern (Text.Case.lower resource)))
    (legacy : matching engine d' root' Layout.legacyDirectory
        (Layout.legacyTypesPattern (Text.Case.lower resource)) =
      matching engine d root Layout.legacyDirectory
        (Layout.legacyTypesPattern (Text.Case.lower resource)))
    (proto : ∀ service, findProto d' root' service = findProto d root service) :
    classify engine d' root' resource = classify engine d root resource := by
  have protos : protoOf d' root' = protoOf d root := by
    funext service
    cases service with
    | none => rfl
    | some name => exact proto name
  simp only [classify, direct, legacy, protos]

section Unseen

variable {names start : List Name} {n : Name} {data : ByteArray}

theorem matching_eq (gains : GainsFile root base names n data d d') (repo : Repository d root base)
    (plain : ∀ m ∈ names ++ [n], Plain m) (nonempty : start ≠ []) (plain' : ∀ m ∈ start, Plain m)
    {pattern : String}
    (other : start <+: names ++ [n] → Text.Glob.covers pattern n = false) :
    matching engine d' root (ofNames start) pattern =
      matching engine d root (ofNames start) pattern := by
  unfold matching
  rw [Disk.filesNamed_eq, Disk.filesNamed_eq, gains.failures_eq repo plain nonempty plain',
    Disk.listedNamed, gains.listed_eq repo plain nonempty plain']
  · rfl
  intro q inner whole
  have last : q.getLast? = some n := by
    rw [← List.getLast?_append_of_ne_nil start inner, whole, List.getLast?_concat]
  rw [Disk.foundAt, List.getLastD_eq_getLast?, last]
  exact other ⟨q, whole⟩

/-- Only a file named as types are, among the direct ones, can count for a classification. -/
theorem classify_eq (gains : GainsFile root base names n data d d') (repo : Repository d root base)
    (plain : ∀ m ∈ names ++ [n], Plain m) (resource : String)
    (direct : ["apis"] <+: names ++ [n] →
      Text.Glob.covers (Layout.directTypesPattern (Text.Case.lower resource)) n = false)
    (legacy : ¬ ["pkg", "clients", "generated"] <+: names ++ [n])
    (proto : ¬ ["mockgcp", "third_party", "googleapis"] <+: names ++ [n]) :
    classify engine d' root resource = classify engine d root resource := by
  refine classify_congr ?_ ?_ fun service => ?_
  · rw [Layout.apisDirectory_eq]
    exact matching_eq gains repo plain (by decide) (by decide) direct
  · rw [Layout.legacyDirectory_eq]
    exact matching_eq gains repo plain (by decide) (by decide) fun inside => absurd inside legacy
  · unfold findProto
    rw [Disk.filesWithPath_eq, Disk.filesWithPath_eq, Disk.listedWithPath, Layout.protoDirectory_eq,
      gains.failures_eq repo plain (by decide) (by decide), List.filter_map,
      gains.listed_eq repo plain (by decide) (by decide) fun q _ whole => absurd ⟨q, whole⟩ proto,
      ← List.filter_map]
    rfl

theorem opens_iff (gains : GainsFile root base names n data d d') (repo : Repository d root base)
    (plain : ∀ m ∈ names ++ [n], Plain m) :
    (∀ names ∈ searched, d'.Searchable root (ofNames names)) ↔
      ∀ names ∈ searched, d.Searchable root (ofNames names) := by
  refine forall₂_congr fun names mem => ?_
  obtain ⟨nonempty, own⟩ := plain_searched names mem
  exact gains.searchable_iff repo plain nonempty own

end Unseen

section Names

variable {start : List Name} {resource service version path : String}

theorem mem_listedNamed_iff (repo : Repository d root base) (nonempty : start ≠ [])
    (plain : ∀ m ∈ start, Plain m) {pattern : String} :
    path ∈ d.listedNamed root (ofNames start) (Text.Glob.covers pattern) ↔ Disk.Allowed root start ∧
      ∃ front n data x, d.tree.lookup? (base ++ (start ++ (front ++ [n]))) = some (.file data x) ∧
        Text.Glob.covers pattern n = true ∧ path = ofNames (start ++ (front ++ [n])) := by
  unfold Disk.listedNamed
  rw [List.mem_map]
  constructor
  · rintro ⟨f, kept, rfl⟩
    obtain ⟨mem, covered⟩ := List.mem_filter.1 kept
    obtain ⟨allowed, q, data, x, inner, stands, rfl⟩ := (repo.mem_listed nonempty plain).1 mem
    obtain ⟨front, n, rfl⟩ : ∃ front n, q = front ++ [n] :=
      ⟨_, _, (List.dropLast_concat_getLast inner).symm⟩
    rw [Disk.foundAt, List.getLastD_concat] at covered
    exact ⟨allowed, front, n, data, x, by rwa [← List.append_assoc], covered, rfl⟩
  · rintro ⟨allowed, front, n, data, x, stands, covered, rfl⟩
    refine ⟨Disk.foundAt start (front ++ [n]), List.mem_filter.2 ⟨?_, ?_⟩, rfl⟩
    · rw [← List.append_assoc] at stands
      exact (repo.mem_listed nonempty plain).2 ⟨allowed, _, data, x, by simp, stands, rfl⟩
    · rwa [Disk.foundAt, List.getLastD_concat]

/-- A classification does not depend on how the root is written, if the searches are allowed and come
to an end. -/
theorem classify_root (repo : Repository d root base) {root' : String}
    (repo' : Repository d root' base)
    (allowed : ∀ names ∈ searched, Disk.Allowed root names ∧ Disk.Allowed root' names)
    (opens : ∀ names ∈ searched, d.Searchable root (ofNames names) ∧
      d.Searchable root' (ofNames names))
    (resource : String) : classify engine d root' resource = classify engine d root resource := by
  have same (names : List Name) (mem : names ∈ searched) :
      d.listed root' (ofNames names) = d.listed root (ofNames names) := by
    obtain ⟨nonempty, plain⟩ := plain_searched names mem
    exact repo.listed_root repo' nonempty plain (allowed names mem).1 (allowed names mem).2
  have fails (names : List Name) (mem : names ∈ searched) :
      d.failures root' (ofNames names) = d.failures root (ofNames names) := by
    rw [Disk.failures_eq_nil_iff.2 (opens names mem).1, Disk.failures_eq_nil_iff.2 (opens names mem).2]
  refine classify_congr ?_ ?_ fun service => ?_
  · simp only [matching, Disk.filesNamed_eq, Disk.listedNamed, Layout.apisDirectory_eq,
      same ["apis"] (by decide), fails ["apis"] (by decide)]
  · simp only [matching, Disk.filesNamed_eq, Disk.listedNamed, Layout.legacyDirectory_eq,
      same ["pkg", "clients", "generated"] (by decide),
      fails ["pkg", "clients", "generated"] (by decide)]
  · simp only [findProto, Disk.filesWithPath_eq, Disk.listedWithPath, Layout.protoDirectory_eq,
      same protoNames (by decide), fails protoNames (by decide)]

theorem mem_directFiles_iff (repo : Repository d root base) :
    path ∈ directFiles d root resource ↔ Disk.Allowed root ["apis"] ∧
      ∃ front n data x, d.tree.lookup? (base ++ (["apis"] ++ (front ++ [n]))) = some (.file data x) ∧
        Text.Glob.covers (Layout.directTypesPattern (Text.Case.lower resource)) n = true ∧
        path = ofNames (["apis"] ++ (front ++ [n])) := by
  rw [directFiles, Layout.apisDirectory_eq]
  exact mem_listedNamed_iff repo (by decide) (by decide)

theorem mem_legacyFiles_iff (repo : Repository d root base) :
    path ∈ legacyFiles d root resource ↔ Disk.Allowed root ["pkg", "clients", "generated"] ∧
      ∃ front n data x, d.tree.lookup? (base ++ (["pkg", "clients", "generated"] ++ (front ++ [n]))) =
          some (.file data x) ∧
        Text.Glob.covers (Layout.legacyTypesPattern (Text.Case.lower resource)) n = true ∧
        path = ofNames (["pkg", "clients", "generated"] ++ (front ++ [n])) := by
  rw [legacyFiles, Layout.legacyDirectory_eq]
  exact mem_listedNamed_iff repo (by decide) (by decide)

/-- A types file in its place makes every resource direct whose pattern covers its name. -/
theorem direct_of_typesFile (repo : Repository d root base) (served : Plain service)
    (versioned : Plain version) {lower : String} (own : '/' ∉ lower.toList)
    (covered : Text.Glob.covers (Layout.directTypesPattern (Text.Case.lower resource))
      (lower ++ "_types.go") = true) {data : ByteArray} {x : Bool}
    (file : d.lookup? (Disk.Path.join root (Layout.typesFile service version lower)) =
      some (.file data x)) : (described d root resource).style = .direct := by
  have path : Layout.typesFile service version lower =
      ofNames (["apis"] ++ ([service, version] ++ [lower ++ "_types.go"])) :=
    Artifact.types.path_eq service version lower
  have plain : ∀ n ∈ ["apis"] ++ ([service, version] ++ [lower ++ "_types.go"]), Plain n :=
    Artifact.plain_types served versioned own
  rw [path, repo.lookup?_iff (by simp) plain] at file
  have mem : _ ∈ directFiles d root resource := (mem_directFiles_iff repo).2
    ⟨file.1.above (by decide) plain, [service, version], _, data, x, file.2, covered, rfl⟩
  cases described_decision d root resource with
  | direct path first style => exact style
  | legacy path none => rw [none] at mem; cases mem
  | unknown none => rw [none] at mem; cases mem

theorem coordinates?_eq_some_iff {c : Classification} :
    c.coordinates? = some (service, version) ↔
      c.service = some service ∧ c.version = some version := by
  unfold Classification.coordinates?
  cases c.service <;> cases c.version <;> simp

theorem Tells.coordinates {l : Layout} {c : Classification} (h : Tells l path c)
    (known : c.coordinates? = some (service, version)) :
    ∃ file, Layout.TypesFile.ofPath l path = .ok file ∧ file.service = service ∧
      file.version = version := by
  obtain ⟨served, versioned⟩ := coordinates?_eq_some_iff.1 known
  unfold Tells at h
  split at h
  · rename_i file read
    refine ⟨file, read, ?_, ?_⟩
    · exact Option.some.inj (h.1.symm.trans served)
    · exact Option.some.inj (h.2.1.symm.trans versioned)
  · rw [h.1] at served
    cases served

theorem plain_of_coordinates? (repo : Repository d root base) {c : Classification}
    (went : classify engine d root resource = .ok c)
    (h : c.coordinates? = some (service, version)) : Plain service ∧ Plain version := by
  obtain ⟨-, rfl⟩ := classify_eq_ok_iff.1 went
  cases described_decision d root resource with
  | direct path first _ _ tells =>
    obtain ⟨file, read, rfl, rfl⟩ := tells.coordinates h
    obtain ⟨-, front, n, data, x, stands, -, rfl⟩ :=
      (mem_directFiles_iff repo).1 (List.mem_of_head? first)
    exact Layout.TypesFile.plain_of_ofPath Layout.segments_directTypes
      (repo.plain_of_stands stands) read
  | legacy path _ first _ _ tells =>
    obtain ⟨file, read, rfl, rfl⟩ := tells.coordinates h
    obtain ⟨-, front, n, data, x, stands, -, rfl⟩ :=
      (mem_legacyFiles_iff repo).1 (List.mem_of_head? first)
    exact Layout.TypesFile.plain_of_ofPath Layout.segments_legacyTypes
      (repo.plain_of_stands stands) read
  | unknown _ _ _ none =>
    rw [coordinates?_eq_some_iff, none] at h
    cases h.1

theorem mem_protos_iff (repo : Repository d root base) :
    path ∈ protoFiles d root service ↔
      Disk.Allowed root protoNames ∧ ∃ q data x, q ≠ [] ∧
        d.tree.lookup? (base ++ (protoNames ++ q)) = some (.file data x) ∧
        path = ofNames (protoNames ++ q) ∧
        Text.Search.contains path ("/" ++ service ++ "/") = true ∧
        Text.Search.endsWith path ".proto" = true := by
  rw [protoFiles, Disk.listedWithPath, Layout.protoDirectory_eq, List.mem_filter, List.mem_map,
    Bool.and_eq_true]
  constructor
  · rintro ⟨⟨f, mem, rfl⟩, holds, ends⟩
    obtain ⟨allowed, q, data, x, inner, stands, rfl⟩ :=
      (repo.mem_listed (by decide) (by decide)).1 mem
    exact ⟨allowed, q, data, x, inner, by rwa [← List.append_assoc], rfl, holds, ends⟩
  · rintro ⟨allowed, q, data, x, inner, stands, rfl, holds, ends⟩
    rw [← List.append_assoc] at stands
    exact ⟨⟨_, (repo.mem_listed (by decide) (by decide)).2
      ⟨allowed, q, data, x, inner, stands, rfl⟩, rfl⟩, holds, ends⟩

theorem file_of_protoLocation (repo : Repository d root base)
    (h : (described d root resource).protoLocation = some path) :
    ∃ q data x, path = ofNames (protoNames ++ q) ∧
      d.tree.lookup? (base ++ (protoNames ++ q)) = some (.file data x) := by
  obtain ⟨service, -, found⟩ := Option.bind_eq_some_iff.1 h
  obtain ⟨-, q, data, x, -, stands, told, -⟩ := (mem_protos_iff repo).1 (List.mem_of_head? found)
  exact ⟨q, data, x, told, stands⟩

theorem hasProto_eq (d : Disk) (root resource : String) :
    (described d root resource).hasProto = (described d root resource).protoLocation.isSome := by
  rfl

theorem protoLocation_of_coordinates
    (known : (described d root resource).coordinates? = some (service, version)) :
    (described d root resource).protoLocation = (protoFiles d root service).head? := by
  have told : (described d root resource).protoLocation =
      (described d root resource).service.bind fun name => (protoFiles d root name).head? := rfl
  rw [told, (coordinates?_eq_some_iff.1 known).1]
  rfl

end Names

end ConnectorKit.Controller
