import ConnectorKit.Proofs.Layout.Artifact
import ConnectorKit.Proofs.Layout.TypesFile
import Mathlib.Data.List.Forall2

/-!
Capturing and filling. A path fits a layout where its parts can be cut into runs that the segments
take one after the other; the captures are those runs, and a layout that is filled with them is the
path again. The other way round, a filled layout gives back the values it was filled with.
-/

set_option autoImplicit false
set_option relaxedAutoImplicit false

namespace ConnectorKit.Layout

/-- What a segment can take of a path: its text, any part, or at least one part. -/
def Segment.Takes : Segment → List String → Prop
  | .literal text, run => run = [text]
  | .one _, run => ∃ part, run = [part]
  | .rest _, run => run ≠ []

/-- The name of a segment that stands for something. -/
def Segment.name? : Segment → Option String
  | .literal _ => none
  | .one name | .rest name => some name

/-- The text of a segment with a value for its name. -/
def Segment.filled (value : String → String) : Segment → String
  | .literal text => text
  | .one name | .rest name => value name

/-- The parts are the runs that the segments take, in order. -/
def Splits (segments : List Segment) (runs : List (List String)) (parts : List String) : Prop :=
  List.Forall₂ Segment.Takes segments runs ∧ runs.flatten = parts

/-- What the names of the segments stand for when each takes its run. -/
def taken : List Segment → List (List String) → List (String × String)
  | s :: segments, run :: runs =>
    (s.name?.map (·, "/".intercalate run)).toList ++ taken segments runs
  | _, _ => []

/-- The names of a layout, in order. -/
def names (l : Layout) : List String :=
  l.segments.filterMap Segment.name?

/-- The path that a layout makes of a value for each name. -/
def fill (l : Layout) (value : String → String) : String :=
  "/".intercalate (l.segments.map (Segment.filled value))

/-- Whether the value for a segment's name is one that the segment can take. -/
def Segment.Admits (value : String → String) : Segment → Prop
  | .literal _ => True
  | .one name => IsPart (value name)
  | .rest name => ∃ run, run ≠ [] ∧ (∀ part ∈ run, IsPart part) ∧ value name = "/".intercalate run

/-- A segment for all the parts that are left stands at the end only. -/
def RestLast (segments : List Segment) : Prop :=
  ∀ name, .rest name ∉ segments.dropLast

/-- A layout without empty segments, with each name once and with a starred name at the end only. -/
structure WellFormed (l : Layout) : Prop where
  literals : ∀ text, .literal text ∈ l.segments → text ≠ ""
  distinct : l.names.Nodup
  restLast : RestLast l.segments

section Splits

variable {s : Segment} {segments : List Segment} {runs : List (List String)} {parts : List String}

theorem RestLast.tail (h : RestLast (s :: segments)) : RestLast segments := by
  intro name mem
  have more : segments ≠ [] := fun none => by simp [none] at mem
  refine h name ?_
  rw [List.dropLast_cons_of_ne_nil more]
  exact List.mem_cons_of_mem _ mem

theorem RestLast.eq_nil {name : String} (h : RestLast (.rest name :: segments)) :
    segments = [] := by
  by_contra more
  refine h name ?_
  rw [List.dropLast_cons_of_ne_nil more]
  exact List.mem_cons_self

theorem splits_nil_iff : Splits [] runs parts ↔ runs = [] ∧ parts = [] := by
  rw [Splits, List.forall₂_nil_left_iff]
  refine and_congr_right fun none => ?_
  rw [none, List.flatten_nil, eq_comm]

theorem splits_cons_iff : Splits (s :: segments) runs parts ↔ ∃ run later rest,
    runs = run :: later ∧ parts = run ++ rest ∧ s.Takes run ∧ Splits segments later rest := by
  rw [Splits, List.forall₂_cons_left_iff]
  constructor
  · rintro ⟨⟨run, later, own, others, rfl⟩, rfl⟩
    exact ⟨run, later, later.flatten, rfl, List.flatten_cons, own, others, rfl⟩
  · rintro ⟨run, later, rest, rfl, rfl, own, others, rfl⟩
    exact ⟨⟨run, later, own, others, rfl⟩, List.flatten_cons⟩

theorem Splits.nonempty (h : Splits segments runs parts) : ∀ run ∈ runs, run ≠ [] := by
  intro run mem
  induction segments generalizing runs parts with
  | nil =>
    rw [(splits_nil_iff.1 h).1] at mem
    cases mem
  | cons s segments ih =>
    obtain ⟨first, later, rest, rfl, -, own, others⟩ := splits_cons_iff.1 h
    rcases List.mem_cons.1 mem with rfl | mem
    · cases s with
      | literal text => exact own ▸ List.cons_ne_nil _ _
      | one name =>
        obtain ⟨part, rfl⟩ := own
        exact List.cons_ne_nil _ _
      | rest name => exact own
    · exact ih others mem

theorem splits_of_fit? (last : RestLast segments) {captures : List (String × String)}
    (h : fit? segments parts = some captures) :
    ∃ runs, Splits segments runs parts ∧ captures = taken segments runs := by
  fun_induction fit? segments parts generalizing captures with
  | case1 =>
    cases h
    exact ⟨[], splits_nil_iff.2 ⟨rfl, rfl⟩, rfl⟩
  | case2 => cases h
  | case3 => cases h
  | case4 name segments part parts =>
    obtain rfl := last.eq_nil
    cases h
    exact ⟨[part :: parts], splits_cons_iff.2 ⟨_, [], [], rfl, (List.append_nil _).symm,
      List.cons_ne_nil _ _, splits_nil_iff.2 ⟨rfl, rfl⟩⟩, rfl⟩
  | case5 name segments part parts ih =>
    obtain ⟨later, fits, rfl⟩ := Option.map_eq_some_iff.1 h
    obtain ⟨runs, splits, rfl⟩ := ih last.tail fits
    exact ⟨[part] :: runs, splits_cons_iff.2 ⟨_, _, _, rfl, rfl, ⟨part, rfl⟩, splits⟩, rfl⟩
  | case6 segments part parts ih =>
    obtain ⟨runs, splits, rfl⟩ := ih last.tail h
    exact ⟨[part] :: runs, splits_cons_iff.2 ⟨_, _, _, rfl, rfl, rfl, splits⟩, rfl⟩
  | case7 => cases h

theorem fit?_of_splits (last : RestLast segments) (h : Splits segments runs parts) :
    fit? segments parts = some (taken segments runs) := by
  induction segments generalizing runs parts with
  | nil =>
    obtain ⟨rfl, rfl⟩ := splits_nil_iff.1 h
    rfl
  | cons s segments ih =>
    obtain ⟨run, later, rest, rfl, rfl, own, others⟩ := splits_cons_iff.1 h
    have below := ih last.tail others
    cases s with
    | literal text =>
      obtain rfl := own
      rw [List.singleton_append, fit?, if_pos rfl, below]
      rfl
    | one name =>
      obtain ⟨part, rfl⟩ := own
      rw [List.singleton_append, fit?, below]
      rfl
    | rest name =>
      obtain rfl := last.eq_nil
      obtain ⟨rfl, rfl⟩ := splits_nil_iff.1 others
      obtain ⟨part, run, rfl⟩ := List.exists_cons_of_ne_nil own
      rw [List.append_nil]
      rfl

end Splits

section Fill

variable {segments : List Segment} {runs : List (List String)} {parts : List String}

theorem captured_of_mem {captures : List (String × String)} {name value : String}
    (distinct : (captures.map Prod.fst).Nodup) (mem : (name, value) ∈ captures) :
    captured captures name = value := by
  have apart : captures.reverse.Pairwise (·.1 ≠ ·.1) :=
    List.pairwise_reverse.2 ((List.pairwise_map.1 distinct).imp Ne.symm)
  rw [captured, lookup_of_distinct apart (List.mem_reverse.2 mem)]
  rfl

theorem map_fst_taken (h : Splits segments runs parts) :
    (taken segments runs).map Prod.fst = segments.filterMap Segment.name? := by
  induction segments generalizing runs parts with
  | nil => rfl
  | cons s segments ih =>
    obtain ⟨run, later, rest, rfl, -, -, others⟩ := splits_cons_iff.1 h
    have below := ih others
    cases s with
    | literal text => exact below
    | one name => exact congrArg (name :: ·) below
    | rest name => exact congrArg (name :: ·) below

theorem intercalate_runs (nonempty : ∀ run ∈ runs, run ≠ []) :
    "/".intercalate (runs.map "/".intercalate) = "/".intercalate runs.flatten := by
  induction runs with
  | nil => rfl
  | cons run runs ih =>
    obtain ⟨own, others⟩ := List.forall_mem_cons.1 nonempty
    by_cases last : runs = []
    · subst last
      simp
    · have more : runs.flatten ≠ [] := by
        obtain ⟨run, mem⟩ := List.exists_mem_of_ne_nil _ last
        intro none
        exact others run mem (List.flatten_eq_nil_iff.1 none run mem)
      rw [List.map_cons, String.intercalate_cons_of_ne_nil (by simpa using last), ih others,
        List.flatten_cons, String.intercalate_append_of_ne_nil own more]

theorem map_filled_taken (h : Splits segments runs parts) {value : String → String}
    (told : ∀ a ∈ taken segments runs, value a.1 = a.2) :
    segments.map (Segment.filled value) = runs.map "/".intercalate := by
  induction segments generalizing runs parts with
  | nil =>
    rw [(splits_nil_iff.1 h).1]
    rfl
  | cons s segments ih =>
    obtain ⟨run, later, rest, rfl, -, own, others⟩ := splits_cons_iff.1 h
    rw [List.map_cons, List.map_cons]
    cases s with
    | literal text =>
      rw [own, ih others told, String.intercalate_singleton]
      rfl
    | one name =>
      obtain ⟨first, below⟩ := List.forall_mem_cons.1 told
      exact congrArg₂ List.cons first (ih others below)
    | rest name =>
      obtain ⟨first, below⟩ := List.forall_mem_cons.1 told
      exact congrArg₂ List.cons first (ih others below)

theorem exists_splits {value : String → String}
    (literals : ∀ text, .literal text ∈ segments → IsPart text)
    (admits : ∀ s ∈ segments, s.Admits value) : ∃ runs, Splits segments runs runs.flatten ∧
      (∀ part ∈ runs.flatten, IsPart part) ∧
      taken segments runs = (segments.filterMap Segment.name?).map fun n => (n, value n) := by
  induction segments with
  | nil => exact ⟨[], splits_nil_iff.2 ⟨rfl, rfl⟩, nofun, rfl⟩
  | cons s segments ih =>
    obtain ⟨own, others⟩ := List.forall_mem_cons.1 admits
    obtain ⟨runs, splits, inner, told⟩ :=
      ih (fun text mem => literals text (List.mem_cons_of_mem _ mem)) others
    -- the run of the segment: its text, its value, or the parts of its value
    obtain ⟨run, takes, real, named⟩ : ∃ run, s.Takes run ∧ (∀ part ∈ run, IsPart part) ∧
        s.name?.map (·, "/".intercalate run) = s.name?.map fun n => (n, value n) := by
      cases s with
      | literal text =>
        exact ⟨[text], rfl, by simpa using literals text List.mem_cons_self, rfl⟩
      | one name =>
        exact ⟨[value name], ⟨_, rfl⟩, List.forall_mem_singleton.2 own, by simp [Segment.name?]⟩
      | rest name =>
        obtain ⟨run, nonempty, real, joined⟩ := own
        exact ⟨run, nonempty, real, by rw [← joined]; rfl⟩
    refine ⟨run :: runs, splits_cons_iff.2 ⟨run, runs, _, rfl, List.flatten_cons, takes, splits⟩,
      ?_, ?_⟩
    · rw [List.flatten_cons]
      exact List.forall_mem_append.2 ⟨real, inner⟩
    · rw [taken, named, told, List.filterMap_cons]
      cases s.name? with
      | none => rfl
      | some name => rfl

end Fill

section Capture

variable {l : Layout}

theorem unslashed_of_literal {text : String} (mem : .literal text ∈ l.segments) :
    '/' ∉ text.toList := by
  obtain ⟨part, inside, read⟩ := List.mem_map.1 mem
  have same : part = text := by
    unfold Segment.ofText at read
    split at read
    · cases read
    · cases read
    · exact Segment.literal.inj read
  rw [← same]
  exact Text.Search.not_mem_of_mem_split inside

theorem WellFormed.isPart (formed : l.WellFormed) {text : String}
    (mem : .literal text ∈ l.segments) : IsPart text :=
  ⟨formed.literals text mem, unslashed_of_literal mem⟩

theorem capture_eq_ok_iff {path : String} {captures : List (String × String)} :
    l.capture path = .ok captures ↔ fit? l.segments (parts path) = some captures := by
  unfold capture
  cases fit? l.segments (parts path) <;> simp

/-- A path is captured where its parts can be split, and the captures are the runs. -/
theorem capture_iff_splits (formed : l.WellFormed) {path : String}
    {captures : List (String × String)} : l.capture path = .ok captures ↔
      ∃ runs, Splits l.segments runs (parts path) ∧ captures = taken l.segments runs := by
  rw [capture_eq_ok_iff]
  refine ⟨splits_of_fit? formed.restLast, ?_⟩
  rintro ⟨runs, splits, rfl⟩
  exact fit?_of_splits formed.restLast splits

/-- A layout that is filled with the captures of a path is the parts of that path. -/
theorem fill_captured (formed : l.WellFormed) {path : String} {captures : List (String × String)}
    (h : l.capture path = .ok captures) :
    l.fill (captured captures) = "/".intercalate (parts path) := by
  obtain ⟨runs, splits, rfl⟩ := (capture_iff_splits formed).1 h
  have names_ := map_fst_taken splits
  have distinct : ((taken l.segments runs).map Prod.fst).Nodup := names_ ▸ formed.distinct
  rw [fill, map_filled_taken splits fun a mem => captured_of_mem distinct mem,
    intercalate_runs splits.nonempty, splits.2]

/-- A filled layout gives its values back. -/
theorem capture_fill (formed : l.WellFormed) {value : String → String}
    (admits : ∀ s ∈ l.segments, s.Admits value) :
    l.capture (l.fill value) = .ok (l.names.map fun n => (n, value n)) := by
  obtain ⟨runs, splits, real, told⟩ := exists_splits (fun _ => formed.isPart) admits
  refine (capture_iff_splits formed).2 ⟨runs, ?_, told.symm⟩
  have given : ∀ a ∈ taken l.segments runs, value a.1 = a.2 := by
    rw [told]
    rintro a mem
    obtain ⟨n, -, rfl⟩ := List.mem_map.1 mem
    rfl
  rw [fill, map_filled_taken splits given, intercalate_runs splits.nonempty, parts_intercalate real]
  exact splits

end Capture

section TypesFile

theorem wellFormed_typesSegments {l : Layout} {literals : List String}
    (shape : l.segments = typesSegments literals) (real : ∀ text ∈ literals, text ≠ "") :
    l.WellFormed where
  literals text mem := by
    rw [shape] at mem
    exact real text (by simpa [typesSegments] using mem)
  distinct := by
    have none : literals.filterMap (Segment.name? ∘ Segment.literal) = [] :=
      List.filterMap_eq_nil_iff.2 fun _ _ => rfl
    rw [names, shape, typesSegments, List.filterMap_append, List.filterMap_map, none]
    decide
  restLast := by
    have front : (typesSegments literals).dropLast =
        literals.map .literal ++ [.one "service", .one "version"] := by
      rw [typesSegments, List.dropLast_append_of_ne_nil (by simp)]
      rfl
    intro name
    rw [shape, front]
    simp

theorem wellFormed_legacyTypes : legacyTypes.WellFormed :=
  wellFormed_typesSegments segments_legacyTypes (by decide)

variable {service version lower : String}

theorem TypesFile.ofPath_typesFile (served : IsPart service) (versioned : IsPart version)
    (own : '/' ∉ lower.toList) : ofPath directTypes (typesFile service version lower) =
      .ok ⟨Text.Case.lower service, Text.Case.lower version, lower ++ "_types.go"⟩ := by
  have path : typesFile service version lower =
      "/".intercalate ["apis", service, version, lower ++ "_types.go"] :=
    Artifact.types.path_eq service version lower
  have filed : IsPart (lower ++ "_types.go") := ⟨by simp, by simp [own]⟩
  have literal : IsPart "apis" := by decide
  rw [path]
  exact ofPath_parts (by simp [literal, served, versioned, filed])

theorem TypesFile.stem_eq (own : '/' ∉ lower.toList) :
    TypesFile.stem ⟨service, version, lower ++ "_types.go"⟩ = lower := by
  have whole : Text.Search.split '/' (lower ++ "_types.go") = [lower ++ "_types.go"] :=
    Text.Search.split_of_not_mem (by simp [own])
  have last : [lower ++ "_types.go"].getLastD "" = lower ++ "_types.go" := rfl
  unfold TypesFile.stem
  dsimp only
  rw [whole, last, Text.Search.before?_append]

end TypesFile

/-- Capturing and filling are inverse. A path is captured where the segments can take its parts in
order; the layout filled with the captures is the path, slashes that do not count apart; and a layout
filled with values that its segments can take is captured as those values. So the path of a types file
that is made for a resource tells the service, the version and the resource it was made for. -/
theorem capture_inverts_fill (l : Layout) (formed : l.WellFormed) :
    (∀ path captures, l.capture path = .ok captures ↔
      ∃ runs, Splits l.segments runs (parts path) ∧ captures = taken l.segments runs) ∧
    (∀ path captures, l.capture path = .ok captures →
      l.fill (captured captures) = "/".intercalate (parts path)) ∧
    (∀ value, (∀ s ∈ l.segments, s.Admits value) →
      l.capture (l.fill value) = .ok (l.names.map fun n => (n, value n))) ∧
    ∀ service version lower, IsPart service → IsPart version → '/' ∉ lower.toList →
      Text.Case.lower service = service → Text.Case.lower version = version →
      ∃ file, TypesFile.ofPath directTypes (typesFile service version lower) = .ok file ∧
        file.service = service ∧ file.version = version ∧ file.stem = lower := by
  refine ⟨fun _ _ => capture_iff_splits formed, fun _ _ => fill_captured formed,
    fun _ => capture_fill formed, ?_⟩
  intro service version lower served versioned own low low'
  exact ⟨_, TypesFile.ofPath_typesFile served versioned own, low, low', TypesFile.stem_eq own⟩

/-- A legacy types file in a directory of its own, written with slashes too many. -/
theorem capture_inverts_fill_nested : legacyTypes.WellFormed ∧
    legacyTypes.capture "/pkg/clients//generated/apis/Redis/v1/a/b_types.go/" =
      .ok [("service", "Redis"), ("version", "v1"), ("file", "a/b_types.go")] ∧
    legacyTypes.fill (captured [("service", "Redis"), ("version", "v1"), ("file", "a/b_types.go")]) =
      "pkg/clients/generated/apis/Redis/v1/a/b_types.go" ∧
    legacyTypes.capture "pkg/clients/generated/apis/../../a/b" =
      .ok [("service", ".."), ("version", ".."), ("file", "a/b")] ∧
    ∃ file, TypesFile.ofPath directTypes (typesFile "redis" "v1beta1" "") = .ok file ∧
      file.service = "redis" ∧ file.version = "v1beta1" ∧ file.stem = "" := by
  obtain ⟨captured_, filled, given, made⟩ := capture_inverts_fill legacyTypes wellFormed_legacyTypes
  have first := (captured_ "/pkg/clients//generated/apis/Redis/v1/a/b_types.go/" _).2
    ⟨[["pkg"], ["clients"], ["generated"], ["apis"], ["Redis"], ["v1"], ["a", "b_types.go"]], by
      rw [segments_legacyTypes]
      refine ⟨?_, by decide⟩
      simp [typesSegments, Segment.Takes], rfl⟩
  refine ⟨wellFormed_legacyTypes, first, ?_, ?_, ?_⟩
  · exact (filled _ _ first).trans (by decide)
  · refine given (fun n => if n = "file" then "a/b" else "..") ?_
    have up : IsPart ".." := by decide
    have rest : (Segment.rest "file").Admits fun n => if n = "file" then "a/b" else ".." :=
      ⟨["a", "b"], by decide, by decide, by decide⟩
    rw [segments_legacyTypes, typesSegments]
    refine List.forall_mem_append.2 ⟨fun s mem => ?_, ?_⟩
    · obtain ⟨text, -, rfl⟩ := List.mem_map.1 mem
      trivial
    · exact List.forall_mem_cons.2 ⟨up, List.forall_mem_cons.2 ⟨up, List.forall_mem_singleton.2 rest⟩⟩
  · exact made "redis" "v1beta1" "" (by decide) (by decide) (by decide) (by decide) (by decide)

end ConnectorKit.Layout
