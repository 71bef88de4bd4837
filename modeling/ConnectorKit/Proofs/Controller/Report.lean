import ConnectorKit.Proofs.Controller.Classification
import ConnectorKit.Proofs.Disk.Walk
import ConnectorKit.Proofs.Layout.Pattern

/-!
What a classification reports, in the words of the files that are there. The style is told by which
of two kinds of types files there are, the location is the first of the kind that decides, and the
rest is read off the location and the protos. Nothing else counts: a report is told by the types
files of the resource and by the protos alone.
-/

set_option autoImplicit false
set_option relaxedAutoImplicit false

namespace ConnectorKit.Controller

open Disk (Lists Name)
open Disk.Path (Least Plain Walks ofNames)
open Layout (TypesFile typesSegments)
open Text.Search (split)

/-- A file below a directory, told by its path, with a name that a pattern covers. `lead` names the
directory. -/
def IsMatch (d : Disk) (root subtree : String) (lead : List Name) (pattern path : String) : Prop :=
  ∃ q n, d.HasFile root subtree q n ∧ path = ofNames (lead ++ (q ++ [n])) ∧
    Text.Glob.covers pattern n = true

/-- A types file that makes a resource direct. -/
def IsDirect (d : Disk) (root resource path : String) : Prop :=
  IsMatch d root Layout.apisDirectory ["apis"]
    (Layout.directTypesPattern (Text.Case.lower resource)) path

/-- A types file that makes a resource legacy, if it is not direct. -/
def IsLegacy (d : Disk) (root resource path : String) : Prop :=
  IsMatch d root Layout.legacyDirectory ["pkg", "clients", "generated"]
    (Layout.legacyTypesPattern (Text.Case.lower resource)) path

/-- A proto in a directory that is named for the service, anywhere but in the first place. -/
def IsProto (d : Disk) (root service path : String) : Prop :=
  ∃ q n, d.HasFile root Layout.protoDirectory q n ∧ path = ofNames (protoNames ++ (q ++ [n])) ∧
    service ∈ (protoNames ++ q).tail ∧ ".proto".toList <:+ n.toList

/-- How the types files of a style are laid out: the names that stand before the service. -/
inductive Style.Leads : Style → Layout → List Name → Prop
  | direct : Leads .direct Layout.directTypes ["apis"]
  | legacy : Leads .legacy Layout.legacyTypes ["pkg", "clients", "generated", "apis"]

/-- A path has the service and the version behind the names that lead to them, and a file below. -/
def Places (lead : List Name) (path service version : String) : Prop :=
  ∃ s v rest, rest ≠ [] ∧ split '/' path = lead ++ s :: v :: rest ∧
    service = Text.Case.lower s ∧ version = Text.Case.lower v

/-- What a classification reads off its location. -/
structure Reads (c : Classification) : Prop where
  coordinates (service version : String) : c.service = some service ∧ c.version = some version ↔
    ∃ path l lead, c.location = some path ∧ c.style.Leads l lead ∧ Places lead path service version
  paired : c.service.isSome = c.version.isSome
  refused : c.layoutError.isSome = (c.location.isSome && c.service.isNone)
  message (text : String) : c.layoutError = some text → ∃ path l lead, c.location = some path ∧
    c.style.Leads l lead ∧ text = (Failure.unexpectedLayout path l.text).message

/-- What a classification reports where these are the direct and the legacy types files of the
resource, and these the protos of each service. -/
structure Reports (direct legacy : String → Prop) (proto : String → String → Prop)
    (resource : String) (c : Classification) : Prop where
  resource_eq : c.resource = resource
  direct_iff : c.style = .direct ↔ ∃ path, direct path
  legacy_iff : c.style = .legacy ↔ (¬ ∃ path, direct path) ∧ ∃ path, legacy path
  unknown_iff : c.style = .unknown ↔ (¬ ∃ path, direct path) ∧ ¬ ∃ path, legacy path
  location_iff (path : String) : c.location = some path ↔
    c.style = .direct ∧ Least direct path ∨ c.style = .legacy ∧ Least legacy path
  reads : Reads c
  protoLocation_iff (path : String) : c.protoLocation = some path ↔
    ∃ service, c.service = some service ∧ Least (proto service) path
  hasProto_iff : c.hasProto = true ↔ ∃ service path, c.service = some service ∧ proto service path
  hasDirectTypes_iff : c.hasDirectTypes = true ↔ ∃ path, direct path
  hasLegacyTypes_iff : c.hasLegacyTypes = true ↔ ∃ path, legacy path
  migrationNeeded_iff : c.migrationNeeded = true ↔ c.style = .legacy

section Unique

variable {direct legacy legacy' : String → Prop} {proto : String → String → Prop}
  {resource : String} {c c' : Classification}

theorem Style.Leads.unique {s : Style} {l l' : Layout} {lead lead' : List Name}
    (h : s.Leads l lead) (h' : s.Leads l' lead') : l = l' ∧ lead = lead' := by
  cases h <;> cases h' <;> exact ⟨rfl, rfl⟩

theorem Reads.eq_coordinates (h : Reads c) :
    c.service = c.coordinates?.map Prod.fst ∧ c.version = c.coordinates?.map Prod.snd := by
  have paired := h.paired
  unfold Classification.coordinates?
  cases served : c.service <;> cases versioned : c.version <;> simp_all

theorem Reads.coordinates?_eq (h : Reads c) (h' : Reads c') (style : c.style = c'.style)
    (location : c.location = c'.location) : c.coordinates? = c'.coordinates? := by
  refine Option.ext fun ⟨service, version⟩ => ?_
  rw [coordinates?_eq_some_iff, coordinates?_eq_some_iff, h.coordinates, h'.coordinates, style,
    location]

theorem Reads.layoutError_eq (h : Reads c) (h' : Reads c') (style : c.style = c'.style)
    (location : c.location = c'.location) (service : c.service = c'.service) :
    c.layoutError = c'.layoutError := by
  have both : c.layoutError.isSome = c'.layoutError.isSome := by
    rw [h.refused, h'.refused, location, service]
  cases refused : c.layoutError with
  | none =>
    rw [refused] at both
    exact (Option.isNone_iff_eq_none.1 (Option.isSome_eq_false_iff.1 both.symm)).symm
  | some text =>
    rw [refused] at both
    obtain ⟨text', refused'⟩ := Option.isSome_iff_exists.1 both.symm
    obtain ⟨path, l, lead, placed, leads, rfl⟩ := h.message text refused
    obtain ⟨path', l', lead', placed', leads', rfl⟩ := h'.message text' refused'
    rw [← location, placed] at placed'
    cases placed'
    rw [style] at leads
    rw [refused', (leads.unique leads').1]

/-- The files leave no choice about the report. -/
theorem Reports.unique (h : Reports direct legacy proto resource c)
    (h' : Reports direct legacy proto resource c') : c = c' := by
  have style : c.style = c'.style := by
    cases told : c.style with
    | direct => exact (h'.direct_iff.2 (h.direct_iff.1 told)).symm
    | legacy => exact (h'.legacy_iff.2 (h.legacy_iff.1 told)).symm
    | unknown => exact (h'.unknown_iff.2 (h.unknown_iff.1 told)).symm
  have location : c.location = c'.location := by
    refine Option.ext fun path => ?_
    rw [h.location_iff, h'.location_iff, style]
  have coordinates := h.reads.coordinates?_eq h'.reads style location
  have service : c.service = c'.service := by
    rw [h.reads.eq_coordinates.1, h'.reads.eq_coordinates.1, coordinates]
  have version : c.version = c'.version := by
    rw [h.reads.eq_coordinates.2, h'.reads.eq_coordinates.2, coordinates]
  have layoutError := h.reads.layoutError_eq h'.reads style location service
  have protoLocation : c.protoLocation = c'.protoLocation := by
    refine Option.ext fun path => ?_
    rw [h.protoLocation_iff, h'.protoLocation_iff, service]
  have hasProto : c.hasProto = c'.hasProto := by
    rw [Bool.eq_iff_iff, h.hasProto_iff, h'.hasProto_iff, service]
  have hasDirectTypes : c.hasDirectTypes = c'.hasDirectTypes := by
    rw [Bool.eq_iff_iff, h.hasDirectTypes_iff, h'.hasDirectTypes_iff]
  have hasLegacyTypes : c.hasLegacyTypes = c'.hasLegacyTypes := by
    rw [Bool.eq_iff_iff, h.hasLegacyTypes_iff, h'.hasLegacyTypes_iff]
  have migrationNeeded : c.migrationNeeded = c'.migrationNeeded := by
    rw [Bool.eq_iff_iff, h.migrationNeeded_iff, h'.migrationNeeded_iff, style]
  have same := h.resource_eq.trans h'.resource_eq.symm
  cases c
  cases c'
  simp_all

/-- Of a direct resource, the legacy types files tell only whether there are any. -/
theorem Reports.of_direct (h : Reports direct legacy proto resource c) (style : c.style = .direct)
    {left : Bool} (told : left = true ↔ ∃ path, legacy' path) :
    Reports direct legacy' proto resource { c with hasLegacyTypes := left } := by
  have some_ : ∃ path, direct path := h.direct_iff.1 style
  refine { h with
    legacy_iff := ?_
    unknown_iff := ?_
    location_iff := fun path => ?_
    reads := { h.reads with }
    hasLegacyTypes_iff := told }
  · simp [style, some_]
  · simp [style, some_]
  · rw [h.location_iff]
    simp [style]

end Unique

section Location

variable {l : Layout} {lead names : List Name} {c : Classification}
  {path service version : String}

theorem Style.Leads.segments {s : Style} (h : s.Leads l lead) : l.segments = typesSegments lead := by
  cases h
  · exact Layout.segments_directTypes
  · exact Layout.segments_legacyTypes

theorem Tells.known_iff (h : Tells l path c) : c.service = some service ∧ c.version = some version ↔
    ∃ file, TypesFile.ofPath l path = .ok file ∧ file.service = service ∧ file.version = version := by
  unfold Tells at h
  cases read : TypesFile.ofPath l path with
  | ok file =>
    rw [read] at h
    rw [h.1, h.2.1]
    simp
  | error f =>
    rw [read] at h
    rw [h.1]
    simp

theorem places_iff {s : Style} (leads : s.Leads l lead) (nonempty : names ≠ [])
    (plain : ∀ n ∈ names, Plain n) : Places lead (ofNames names) service version ↔
      ∃ file, TypesFile.ofPath l (ofNames names) = .ok file ∧ file.service = service ∧
        file.version = version := by
  unfold Places
  rw [Disk.Path.split_ofNames nonempty plain]
  constructor
  · rintro ⟨served, versioned, rest, inner, whole, rfl, rfl⟩
    obtain ⟨part, rest, rfl⟩ := List.exists_cons_of_ne_nil inner
    rw [← Layout.parts_ofNames plain] at whole
    exact ⟨_, (TypesFile.ofPath_eq_ok_iff leads.segments).2
      ⟨served, versioned, part, rest, whole, rfl⟩, rfl, rfl⟩
  · rintro ⟨file, read, rfl, rfl⟩
    obtain ⟨served, versioned, part, rest, whole, rfl⟩ :=
      (TypesFile.ofPath_eq_ok_iff leads.segments).1 read
    rw [Layout.parts_ofNames plain] at whole
    exact ⟨served, versioned, part :: rest, nofun, whole, rfl, rfl⟩

theorem Tells.reads (h : Tells l (ofNames names) c) (leads : c.style.Leads l lead)
    (located : c.location = some (ofNames names)) (nonempty : names ≠ [])
    (plain : ∀ n ∈ names, Plain n) : Reads c where
  coordinates service version := by
    rw [h.known_iff, ← places_iff leads nonempty plain, located]
    constructor
    · exact fun placed => ⟨_, l, lead, rfl, leads, placed⟩
    · rintro ⟨path, l', lead', ⟨rfl⟩, leads', placed⟩
      rwa [(leads.unique leads').2]
  paired := by
    unfold Tells at h
    split at h
    · rw [h.1, h.2.1]
      rfl
    · rw [h.1, h.2.1]
  refused := by
    unfold Tells at h
    rw [located]
    split at h
    · rw [h.1, h.2.2]
      rfl
    · rw [h.1, h.2.2]
      rfl
  message text refused := by
    unfold Tells at h
    split at h
    · rw [h.2.2] at refused
      cases refused
    · rename_i f read
      rw [h.2.2] at refused
      cases refused
      exact ⟨_, l, lead, located, leads, by rw [TypesFile.ofPath_eq_error read]⟩

theorem reads_of_nothing (location : c.location = none) (service : c.service = none)
    (version : c.version = none) (layoutError : c.layoutError = none) : Reads c where
  coordinates _ _ := by simp [location, service]
  paired := by simp [service, version]
  refused := by simp [location, layoutError]
  message _ refused := by simp [layoutError] at refused

theorem Reads.unslashed (h : Reads c) (known : c.service = some service) :
    '/' ∉ service.toList := by
  rw [h.eq_coordinates.1] at known
  obtain ⟨⟨_, version⟩, told, rfl⟩ := Option.map_eq_some_iff.1 known
  obtain ⟨path, l, lead, -, -, s, v, rest, -, whole, rfl, -⟩ :=
    (h.coordinates _ version).1 (coordinates?_eq_some_iff.1 told)
  have part : s ∈ split '/' path := by
    rw [whole]
    simp
  exact Text.Case.unslashed_lower (Text.Search.not_mem_of_mem_split part)

end Location

section Report

variable {d : Disk} {root resource service : String}

theorem directFiles_walks (named : d.tree.Named) (root resource : String) :
    Walks (IsDirect d root resource) (directFiles d root resource) :=
  have lists : Lists _ ["apis"] _ (directFiles d root resource) :=
    Disk.listedNamed_lists named (by decide) _
  lists.toWalks

theorem legacyFiles_walks (named : d.tree.Named) (root resource : String) :
    Walks (IsLegacy d root resource) (legacyFiles d root resource) :=
  have lists : Lists _ ["pkg", "clients", "generated"] _ (legacyFiles d root resource) :=
    Disk.listedNamed_lists named (by decide) _
  lists.toWalks

theorem protos_walks (named : d.tree.Named) (root : String) (free : '/' ∉ service.toList) :
    Walks (IsProto d root service)
      (protoFiles d root service) := by
  have lists : Lists _ protoNames _ (protoFiles d root service) :=
    Disk.listedWithPath_lists named (by decide) _ _
  refine ⟨fun path => (lists.mem_iff path).trans ?_, lists.ordered⟩
  refine exists_congr fun q => exists_congr fun n => and_congr_right fun has => ?_
  refine and_congr_right fun whole => ?_
  have plain : ∀ m ∈ protoNames ++ (q ++ [n]), Plain m :=
    List.forall_mem_append.2 ⟨by decide, Disk.plain_of_hasFile named has⟩
  rw [whole, ← List.append_assoc, Disk.Path.suffix_ofNames_iff (by simp) (by decide)]
  rw [← List.append_assoc] at plain
  exact and_congr_left' (Disk.Path.between_slashes_iff plain free)

private theorem described_of_nothing (direct : directFiles d root resource = [])
    (legacy : legacyFiles d root resource = []) :
    (described d root resource).location = none ∧ (described d root resource).version = none ∧
      (described d root resource).layoutError = none := by
  simp only [described, describe, layout?, direct, legacy, decide?, List.head?_nil]
  exact ⟨rfl, rfl, rfl⟩

private theorem described_cases (named : d.tree.Named) (root resource : String) :
    ((described d root resource).style = .direct ∧ (∃ path, IsDirect d root resource path) ∧
      ∀ path, (described d root resource).location = some path ↔
        Least (IsDirect d root resource) path) ∨
    ((described d root resource).style = .legacy ∧ (¬ ∃ path, IsDirect d root resource path) ∧
      (∃ path, IsLegacy d root resource path) ∧
      ∀ path, (described d root resource).location = some path ↔
        Least (IsLegacy d root resource) path) ∨
    ((described d root resource).style = .unknown ∧ (¬ ∃ path, IsDirect d root resource path) ∧
      (¬ ∃ path, IsLegacy d root resource path) ∧ (described d root resource).location = none) := by
  have direct := directFiles_walks named root resource
  have legacy := legacyFiles_walks named root resource
  cases described_decision d root resource with
  | direct path first style located =>
    refine .inl ⟨style, ⟨path, (direct.head?_eq_some_iff.1 first).mem⟩, fun other => ?_⟩
    rw [located, ← first, direct.head?_eq_some_iff]
  | legacy path none first style located =>
    refine .inr (.inl ⟨style, direct.eq_nil_iff.1 none, ⟨path, ?_⟩, fun other => ?_⟩)
    · exact (legacy.head?_eq_some_iff.1 first).mem
    · rw [located, ← first, legacy.head?_eq_some_iff]
  | unknown none none' style =>
    exact .inr (.inr ⟨style, direct.eq_nil_iff.1 none, legacy.eq_nil_iff.1 none',
      (described_of_nothing none none').1⟩)

private theorem described_reads (named : d.tree.Named) (root resource : String) :
    Reads (described d root resource) := by
  cases described_decision d root resource with
  | direct path first style located tells =>
    obtain ⟨q, n, has, rfl, -⟩ :=
      ((directFiles_walks named root resource).head?_eq_some_iff.1 first).mem
    have leads : (described d root resource).style.Leads Layout.directTypes ["apis"] :=
      style ▸ .direct
    exact tells.reads leads located (by simp)
      (List.forall_mem_append.2 ⟨by decide, Disk.plain_of_hasFile named has⟩)
  | legacy path _ first style located tells =>
    obtain ⟨q, n, has, rfl, -⟩ :=
      ((legacyFiles_walks named root resource).head?_eq_some_iff.1 first).mem
    have leads : (described d root resource).style.Leads Layout.legacyTypes
      ["pkg", "clients", "generated", "apis"] := style ▸ .legacy
    exact tells.reads leads located (by simp)
      (List.forall_mem_append.2 ⟨by decide, Disk.plain_of_hasFile named has⟩)
  | unknown none none' _ unserved =>
    obtain ⟨location, version, layoutError⟩ := described_of_nothing none none'
    exact reads_of_nothing location unserved version layoutError

private theorem described_protoLocation (named : d.tree.Named) (root resource path : String) :
    (described d root resource).protoLocation = some path ↔
      ∃ service, (described d root resource).service = some service ∧
        Least (IsProto d root service) path := by
  have bound : (described d root resource).protoLocation =
    (described d root resource).service.bind fun name => (protoFiles d root name).head? := rfl
  rw [bound, Option.bind_eq_some_iff]
  refine exists_congr fun service => and_congr_right fun known => ?_
  have free := (described_reads named root resource).unslashed known
  exact (protos_walks named root free).head?_eq_some_iff

private theorem described_hasProto (named : d.tree.Named) (root resource : String) :
    (described d root resource).hasProto = true ↔
      ∃ service path, (described d root resource).service = some service ∧
        IsProto d root service path := by
  rw [hasProto_eq, Option.isSome_iff_exists]
  constructor
  · rintro ⟨path, first⟩
    obtain ⟨service, known, least⟩ := (described_protoLocation named root resource path).1 first
    exact ⟨service, path, known, least.mem⟩
  · rintro ⟨service, path, known, proto⟩
    have walks := protos_walks named root ((described_reads named root resource).unslashed known)
    obtain ⟨first, rest, listed⟩ := List.exists_cons_of_ne_nil (walks.ne_nil_iff.2 ⟨path, proto⟩)
    have least := walks.head?_eq_some_iff.1 (congrArg List.head? listed)
    exact ⟨first, (described_protoLocation named root resource first).2 ⟨service, known, least⟩⟩

theorem described_reports (named : d.tree.Named) (root resource : String) :
    Reports (IsDirect d root resource) (IsLegacy d root resource) (IsProto d root) resource
      (described d root resource) := by
  -- style and location are told by the three cases of what types files there are
  have cases_ := described_cases named root resource
  refine
    { resource_eq := rfl
      direct_iff := by grind
      legacy_iff := by grind
      unknown_iff := by grind
      location_iff := fun path => by grind
      reads := described_reads named root resource
      protoLocation_iff := described_protoLocation named root resource
      hasProto_iff := described_hasProto named root resource
      hasDirectTypes_iff := ?_
      hasLegacyTypes_iff := ?_
      migrationNeeded_iff := ?_ }
  · have told : (described d root resource).hasDirectTypes =
      !(directFiles d root resource).isEmpty := rfl
    rw [told, Bool.not_eq_true', List.isEmpty_eq_false_iff,
      (directFiles_walks named root resource).ne_nil_iff]
  · have told : (described d root resource).hasLegacyTypes =
      !(legacyFiles d root resource).isEmpty := rfl
    rw [told, Bool.not_eq_true', List.isEmpty_eq_false_iff,
      (legacyFiles_walks named root resource).ne_nil_iff]
  · have told : (described d root resource).migrationNeeded =
      decide ((described d root resource).style = .legacy) := rfl
    rw [told, decide_eq_true_iff]

end Report

/-- Below a directory two repositories have the same files of those with a name that ends so. -/
def SameFiles (finish subtree : String) (d : Disk) (root : String) (d' : Disk) (root' : String) :
    Prop :=
  ∀ q n, finish.toList <:+ n.toList → (d'.HasFile root' subtree q n ↔ d.HasFile root subtree q n)

section Same

variable {d d' : Disk} {root root' subtree pattern finish : String} {lead : List Name}

theorem isMatch_congr (same : SameFiles finish subtree d root d' root')
    (ending : ∀ n, Text.Glob.covers pattern n = true → finish.toList <:+ n.toList) :
    IsMatch d' root' subtree lead pattern = IsMatch d root subtree lead pattern := by
  refine funext fun path => propext (exists_congr fun q => exists_congr fun n => ?_)
  rw [← and_assoc, ← and_assoc, and_congr_left_iff]
  exact fun covered => and_congr_left' (same q n (ending n covered))

theorem isProto_congr (same : SameFiles ".proto" Layout.protoDirectory d root d' root') :
    IsProto d' root' = IsProto d root := by
  refine funext₂ fun service path => propext (exists_congr fun q => exists_congr fun n => ?_)
  rw [← and_assoc, ← and_assoc, ← and_assoc, ← and_assoc, and_congr_left_iff]
  exact fun ends => and_congr_left' (and_congr_left' (same q n ends))

theorem isDirect_congr (same : SameFiles "types.go" Layout.apisDirectory d root d' root')
    (resource : String) : IsDirect d' root' resource = IsDirect d root resource :=
  isMatch_congr same fun _ covered =>
    Layout.legacy_ending_of_covers (Layout.covers_legacy_of_direct covered)

theorem isLegacy_congr (same : SameFiles "types.go" Layout.legacyDirectory d root d' root')
    (resource : String) : IsLegacy d' root' resource = IsLegacy d root resource :=
  isMatch_congr same fun _ covered => Layout.legacy_ending_of_covers covered

theorem sameFiles_of_listed (named : d.tree.Named) (named' : d'.tree.Named)
    (ordinary : Disk.Path.components subtree = lead.map .name)
    (same : ((d'.listed root' subtree).filter fun f => Text.Search.endsWith f.name finish) =
      (d.listed root subtree).filter fun f => Text.Search.endsWith f.name finish) :
    SameFiles finish subtree d root d' root' := by
  intro q n ends
  have found : (⟨ofNames (lead ++ (q ++ [n])), n⟩ : Disk.Found) ∈ d'.listed root' subtree ↔
      ⟨ofNames (lead ++ (q ++ [n])), n⟩ ∈ d.listed root subtree := by
    have told : Text.Search.endsWith n finish = true := List.isSuffixOf_iff_suffix.2 ends
    have members := congrArg (⟨ofNames (lead ++ (q ++ [n])), n⟩ ∈ ·) same
    simpa only [List.mem_filter, told, and_true, eq_iff_iff] using members
  constructor
  · intro has
    have plain := Disk.plain_of_hasFile named' has
    rw [Disk.hasFile_iff_mem_listed named ordinary plain, ← found]
    exact (Disk.hasFile_iff_mem_listed named' ordinary plain).1 has
  · intro has
    have plain := Disk.plain_of_hasFile named has
    rw [Disk.hasFile_iff_mem_listed named' ordinary plain, found]
    exact (Disk.hasFile_iff_mem_listed named ordinary plain).1 has

end Same

/-- A repository with a direct types file and a proto. -/
def widget : Disk :=
  ⟨(Disk.Tree.empty.withFile ["repo", "apis", "compute", "v1", "widget_types.go"]).withFile
    ["repo", "mockgcp", "third_party", "googleapis", "google", "compute", "widget.proto"], []⟩

/-- The same with a file that no search looks for. -/
def widgetNoted : Disk :=
  ⟨widget.tree.withFile ["repo", "apis", "compute", "v1", "doc.go"], []⟩

/-- The same with a legacy types file that a migration has left behind. -/
def widgetLeft : Disk :=
  ⟨widget.tree.withFile
    ["repo", "pkg", "clients", "generated", "apis", "compute", "v1", "widget_types.go"], []⟩

def widgetReport : Classification :=
  { resource := "Widget", style := .direct, location := some "apis/compute/v1/widget_types.go"
    migrationNeeded := false, hasDirectTypes := true, hasLegacyTypes := false, hasProto := true
    protoLocation := some "mockgcp/third_party/googleapis/google/compute/widget.proto"
    service := some "compute", version := some "v1", layoutError := none }

/-- A repository with a types file, and nothing that cannot be opened. -/
def withTypes : Disk :=
  ⟨Disk.Tree.empty.withFile ["repo", "apis", "a_types.go"], []⟩

private theorem searches_withTypes {resource : String} {service : Option String} :
    Searches .unlimited withTypes Disk.rootOfSlashes resource service := by
  have repo : Disk.Repository withTypes Disk.rootOfSlashes ["repo"] :=
    Disk.repository_rootOfSlashes (by decide +kernel)
  have dirs : ∀ a ∈ withTypes.tree.entries, a.2 = .directory →
      a.1 = ["repo"] ∨ a.1 = ["repo"] ++ ["apis"] := by
    decide +kernel
  have near : Disk.Allowed Disk.rootOfSlashes ["apis"] :=
    (Disk.allowed_rootOfSlashes_iff (by decide) (by decide)).2 (by decide +kernel)
  have taken : Taken .unlimited resource := ⟨rfl, rfl⟩
  refine taken.searches fun names mem => ?_
  obtain ⟨nonempty, own⟩ := plain_searched names mem
  refine repo.searchable_of_entries nonempty own fun a inside dir before => ?_
  rcases dirs a inside dir with here | here
  · rw [here] at before
    exact absurd (List.prefix_nil.1 before) nonempty
  · rw [here]
    exact near.1

end ConnectorKit.Controller
