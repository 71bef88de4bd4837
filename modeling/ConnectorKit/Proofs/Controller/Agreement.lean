import ConnectorKit.Controller.Location
import ConnectorKit.Proofs.Controller.Classification
import ConnectorKit.Proofs.Field.Insertion
import ConnectorKit.Proofs.Layout.Pattern
import Mathlib.Data.List.Find
import Mathlib.Data.List.TakeWhile

/-!
Where the finder of a resource agrees with its classification. Both take the first file of a walk,
but the finder's pattern covers more names; so they agree unless a file with a name that only the
finder takes stands ahead of the one that the classification found.
-/

set_option autoImplicit false
set_option relaxedAutoImplicit false

namespace ConnectorKit.Controller

open Disk (Found Name Repository Route)
open Disk.Path (Plain ofNames)

variable {engine : Text.Glob.Engine} {d : Disk} {root resource : String} {base : Route}
  {info : Classification}

/-- The finder takes what was reported: the reported file with its coordinates, the reported fault of
its path, or nothing; and a field goes into the reported file unless another is named. -/
structure Agrees (engine : Text.Glob.Engine) (d : Disk) (root : String) (info : Classification) :
    Prop where
  resolved {path service version : String} : info.style = .direct → info.location = some path →
    info.coordinates? = some (service, version) →
    ∃ l, locate engine d root info.resource = .ok l ∧ l.typesFile = path ∧ l.service = service ∧
      l.version = version
  refused {path reason : String} : info.style = .direct → info.location = some path →
    info.layoutError = some reason →
    ∃ layout, locate engine d root info.resource = .error (.unexpectedLayout path layout)
  unknown : info.style ≠ .direct →
    ∃ searched, locate engine d root info.resource = .error (.resourceNotFound info.resource searched)
  added {path service version : String} : info.style = .direct → info.location = some path →
    info.coordinates? = some (service, version) →
    ∀ r : Field.Request, r.resource = info.resource → r.typesFile = none →
      (Field.add engine root r).perform d =
        (Field.add engine root { r with typesFile := some path }).perform d

/-- The files that a walk meets before the one that makes a resource direct; all of them where none
does. -/
def ahead (d : Disk) (root : String) (info : Classification) : List Found :=
  (d.listed root Layout.apisDirectory).takeWhile fun f =>
    !(info.style = .direct ∧ info.location = some f.path)

/-- A file that the finder takes for a types file of the resource, unlike the classification. -/
def isStray (resource : String) (f : Found) : Bool :=
  Text.Glob.covers (Layout.legacyTypesPattern (Text.Case.lower resource)) f.name &&
    !Text.Glob.covers (Layout.directTypesPattern (Text.Case.lower resource)) f.name

section Finder

/-- The files that the finder looks at, in the order of the walk. -/
abbrev findings (d : Disk) (root resource : String) : List String :=
  d.listedNamed root Layout.apisDirectory
    (Text.Glob.covers (Layout.legacyTypesPattern (Text.Case.lower resource)))

/-- The file that the finder takes. -/
def taken? (d : Disk) (root resource : String) : Option String :=
  (findings d root resource).head?

/-- The search of the finder comes to an end. -/
def Finds (engine : Text.Glob.Engine) (d : Disk) (root resource : String) : Prop :=
  matching engine d root Layout.apisDirectory
    (Layout.legacyTypesPattern (Text.Case.lower resource)) = .ok (findings d root resource)

theorem Taken.finds (taken : Taken engine resource) (apis : d.Searchable root Layout.apisDirectory) :
    Finds engine d root resource := by
  rcases matching_cases engine d root Layout.apisDirectory
    (Layout.legacyTypesPattern (Text.Case.lower resource)) with ⟨-, found⟩ | ⟨f, -, other, -⟩
  · exact found
  · exact absurd ⟨taken.2, apis⟩ other

theorem locate_of_taken {path : String} (finds : Finds engine d root resource)
    (taken : taken? d root resource = some path) :
    match Layout.TypesFile.ofPath Layout.directTypes path with
    | .ok file => ∃ l, locate engine d root resource = .ok l ∧ l.typesFile = path ∧
        l.service = file.service ∧ l.version = file.version
    | .error f => locate engine d root resource = .error f := by
  unfold locate
  dsimp only
  rw [show matching engine d root Layout.apisDirectory _ = _ from finds]
  simp only [bind, Except.bind]
  rw [show (findings d root resource).head? = some path from taken]
  dsimp only
  cases Layout.TypesFile.ofPath Layout.directTypes path with
  | ok file => exact ⟨_, rfl, rfl, rfl, rfl⟩
  | error f => rfl

theorem locate_of_read {path : String} {file : Layout.TypesFile} (finds : Finds engine d root resource)
    (taken : taken? d root resource = some path)
    (read : Layout.TypesFile.ofPath Layout.directTypes path = .ok file) :
    ∃ l, locate engine d root resource = .ok l ∧ l.typesFile = path ∧ l.service = file.service ∧
      l.version = file.version := by
  have located := locate_of_taken finds taken
  rwa [read] at located

theorem locate_of_not_taken (finds : Finds engine d root resource)
    (none_ : taken? d root resource = none) :
    ∃ searched, locate engine d root resource = .error (.resourceNotFound resource searched) := by
  unfold locate
  dsimp only
  rw [show matching engine d root Layout.apisDirectory _ = _ from finds]
  simp only [bind, Except.bind]
  rw [show (findings d root resource).head? = none from none_]
  exact ⟨_, rfl⟩

theorem finds_of_locate {l : Location} (located : locate engine d root resource = .ok l) :
    d.Searchable root Layout.apisDirectory ∧ Finds engine d root resource := by
  rcases matching_cases engine d root Layout.apisDirectory
    (Layout.legacyTypesPattern (Text.Case.lower resource)) with
    ⟨⟨-, apis⟩, finds⟩ | ⟨f, -, -, failed⟩
  · exact ⟨apis, finds⟩
  · unfold locate at located
    dsimp only at located
    rw [failed] at located
    cases located

theorem taken_of_locate {l : Location} (located : locate engine d root resource = .ok l) :
    taken? d root resource = some l.typesFile := by
  obtain ⟨-, finds⟩ := finds_of_locate located
  cases taken : taken? d root resource with
  | none =>
    obtain ⟨searched, refused⟩ := locate_of_not_taken finds taken
    rw [refused] at located
    cases located
  | some path =>
    have told := locate_of_taken finds taken
    split at told
    · obtain ⟨l', found, same, -⟩ := told
      obtain rfl := Except.ok.inj (found.symm.trans located)
      rw [same]
    · rw [told] at located
      cases located

theorem mem_findings_of_direct {path : String} (mem : path ∈ directFiles d root resource) :
    path ∈ findings d root resource := by
  obtain ⟨f, kept, rfl⟩ := List.mem_map.1 mem
  obtain ⟨inside, covered⟩ := List.mem_filter.1 kept
  exact List.mem_map.2 ⟨f, List.mem_filter.2 ⟨inside, Layout.covers_legacy_of_direct covered⟩, rfl⟩

theorem error_of_ofPath {l : Layout} {path : String} {f : Failure}
    (h : Layout.TypesFile.ofPath l path = .error f) : f = .unexpectedLayout path l.text := by
  unfold Layout.TypesFile.ofPath Layout.capture at h
  cases fits : Layout.fit? l.segments (Layout.parts path) with
  | some captures =>
    rw [fits] at h
    cases h
  | none =>
    rw [fits] at h
    cases h
    rfl

private theorem locate_cases {path : String} (finds : Finds engine d root resource)
    (taken : taken? d root resource = some path) :
    (∃ l, locate engine d root resource = .ok l ∧ l.typesFile = path) ∨
      locate engine d root resource = .error (.unexpectedLayout path Layout.directTypes.text) := by
  have located := locate_of_taken finds taken
  split at located
  · obtain ⟨l, found, told, -⟩ := located
    exact .inl ⟨l, found, told⟩
  · rename_i read
    rw [error_of_ofPath read] at located
    exact .inr located

end Finder

section Walk

private theorem eq_of_path (repo : Repository d root base) {f g : Found}
    (mem : f ∈ d.listed root Layout.apisDirectory) (mem' : g ∈ d.listed root Layout.apisDirectory)
    (same : f.path = g.path) : f = g := by
  rw [Layout.apisDirectory_eq, repo.mem_listed (by decide) (by decide)] at mem mem'
  obtain ⟨-, q, data, x, -, stands, rfl⟩ := mem
  obtain ⟨-, q', data', x', -, stands', rfl⟩ := mem'
  rw [List.append_assoc] at stands stands'
  have names : ["apis"] ++ q = ["apis"] ++ q' := by
    rw [← Disk.Path.split_ofNames (by simp) (repo.plain_of_stands stands),
      ← Disk.Path.split_ofNames (by simp) (repo.plain_of_stands stands')]
    exact congrArg _ same
  rw [List.append_cancel_left names]

private theorem head?_listedNamed (d : Disk) (root directory : String) (test : Name → Bool) :
    (d.listedNamed root directory test).head? =
      ((d.listed root directory).find? fun f => test f.name).map Found.path := by
  rw [Disk.listedNamed, List.head?_map, List.head?_filter]

private theorem location_iff (path : String) :
    ((described d root resource).style = .direct ∧
      (described d root resource).location = some path) ↔
      (directFiles d root resource).head? = some path := by
  cases described_decision d root resource with
  | direct p first style location => simp [first, style, location]
  | legacy p none _ style => simp [none, style]
  | unknown none _ style => simp [none, style]

private theorem tells_of_direct {path : String}
    (first : (directFiles d root resource).head? = some path) :
    Tells Layout.directTypes path (described d root resource) := by
  cases described_decision d root resource with
  | direct p first' _ _ tells =>
    obtain rfl := Option.some.inj (first'.symm.trans first)
    exact tells
  | legacy p none => simp [none] at first
  | unknown none => simp [none] at first

private theorem ahead_eq (d : Disk) (root resource : String) :
    ahead d root (described d root resource) =
      (d.listed root Layout.apisDirectory).takeWhile fun f =>
        (directFiles d root resource).head? ≠ some f.path := by
  unfold ahead
  congr 1
  funext f
  rw [← decide_not]
  exact decide_eq_decide.2 (not_congr (location_iff f.path))

/-- The finder takes the first stray that is ahead of the classified file, else that file. -/
theorem taken?_eq (repo : Repository d root base) :
    taken? d root resource =
      (((ahead d root (described d root resource)).find? (isStray resource)).map Found.path).or
        (directFiles d root resource).head? := by
  have taken := head?_listedNamed d root Layout.apisDirectory
    (Text.Glob.covers (Layout.legacyTypesPattern (Text.Case.lower resource)))
  have first := head?_listedNamed d root Layout.apisDirectory
    (Text.Glob.covers (Layout.directTypesPattern (Text.Case.lower resource)))
  have stray {l : List Found} (none_ : ∀ f ∈ l,
      Text.Glob.covers (Layout.directTypesPattern (Text.Case.lower resource)) f.name ≠ true) :
      l.find? (isStray resource) = l.find? fun f =>
        Text.Glob.covers (Layout.legacyTypesPattern (Text.Case.lower resource)) f.name :=
    List.find?_congr fun f mem => by simp [isStray, none_ f mem]
  change taken? d root resource = _ at taken
  change (directFiles d root resource).head? = _ at first
  rw [ahead_eq, taken, first]
  cases found : (d.listed root Layout.apisDirectory).find? fun f =>
      Text.Glob.covers (Layout.directTypesPattern (Text.Case.lower resource)) f.name with
  | none =>
    have none_ := List.find?_eq_none.1 found
    simp only [Option.map_none, ne_eq, reduceCtorEq, not_false_eq_true, decide_true, Option.or_none]
    rw [List.takeWhile_eq_self_iff.2 fun _ _ => rfl, stray none_]
  | some f =>
    obtain ⟨covered, front, back, whole, others⟩ := List.find?_eq_some_iff_append.1 found
    have apart : ∀ g ∈ front, g.path ≠ f.path := by
      intro g mem same
      have mine : g ∈ d.listed root Layout.apisDirectory := by simp [whole, mem]
      have first : f ∈ d.listed root Layout.apisDirectory := by simp [whole]
      obtain rfl := eq_of_path repo mine first same
      simpa [covered] using others g mem
    have before : (d.listed root Layout.apisDirectory).takeWhile
        (fun g => (some f).map Found.path ≠ some g.path) = front := by
      rw [whole, List.takeWhile_append_of_pos, List.takeWhile_cons_of_neg (by simp), List.append_nil]
      simpa using fun g mem same => apart g mem same.symm
    rw [before, stray fun g mem => by simpa using others g mem, whole, List.find?_append,
      List.find?_cons_of_pos (by exact Layout.covers_legacy_of_direct covered)]
    cases front.find? _ <;> rfl

end Walk

section Agreement

private theorem location_apart {f : Found} (mem : f ∈ ahead d root (described d root resource)) :
    (directFiles d root resource).head? ≠ some f.path := by
  rw [ahead_eq] at mem
  simpa using List.mem_takeWhile_imp mem

private theorem add_of_taken (repo : Repository d root base) {path : String} {l : Location}
    (first : (directFiles d root resource).head? = some path)
    (located : locate engine d root resource = .ok l) (told : l.typesFile = path) (r : Field.Request)
    (own : r.resource = resource) (unnamed : r.typesFile = none) :
    (Field.add engine root r).perform d =
      (Field.add engine root { r with typesFile := some path }).perform d := by
  obtain ⟨-, front, n, data, x, stands, -, rfl⟩ :=
    (mem_directFiles_iff repo).1 (List.mem_of_head? first)
  have filled : Text.Blank.isBlankText (ofNames (["apis"] ++ (front ++ [n]))) = false := by
    obtain ⟨rest, whole⟩ := Disk.Path.ofNames_append ["apis"] (front ++ [n])
    rw [whole, Text.Blank.isBlankText, String.toList_append, List.all_append]
    rfl
  have inside := Field.checkInside_ofNames (by simp) (repo.plain_of_stands stands) filled
  refine Field.add_of_target ?_
  unfold Field.Request.target
  rw [unnamed, own]
  dsimp only
  rw [located, inside]
  exact congrArg Except.ok told

private theorem agrees_of_taken (repo : Repository d root base) (finds : Finds engine d root resource)
    (same : taken? d root resource = (directFiles d root resource).head?) :
    Agrees engine d root (described d root resource) := by
  have found {path service version : String} (style : (described d root resource).style = .direct)
      (location : (described d root resource).location = some path)
      (known : (described d root resource).coordinates? = some (service, version)) :
      ∃ l, locate engine d root resource = .ok l ∧ l.typesFile = path ∧ l.service = service ∧
        l.version = version := by
    have first := (location_iff path).1 ⟨style, location⟩
    have tells := tells_of_direct first
    obtain ⟨file, read, rfl, rfl⟩ := tells.coordinates known
    exact locate_of_read finds (same.trans first) read
  refine ⟨found, ?_, fun other => ?_, fun style location known r own unnamed => ?_⟩
  · intro path reason style location refused
    have first := (location_iff path).1 ⟨style, location⟩
    have located := locate_of_taken finds (same.trans first)
    have tells := tells_of_direct first
    unfold Tells at tells
    cases read : Layout.TypesFile.ofPath Layout.directTypes path with
    | ok file =>
      rw [read] at tells
      rw [tells.2.2] at refused
      cases refused
    | error f =>
      rw [read] at located
      refine ⟨Layout.directTypes.text, located.trans ?_⟩
      rw [error_of_ofPath read]
  · refine locate_of_not_taken finds (same.trans ?_)
    refine Option.eq_none_iff_forall_ne_some.2 fun path first => ?_
    exact other ((location_iff path).2 first).1
  · obtain ⟨l, located, told, -⟩ := found style location known
    exact add_of_taken repo ((location_iff _).1 ⟨style, location⟩) located told r own unnamed

private theorem not_agrees_of_taken {f : Found} (finds : Finds engine d root resource)
    (mem : f ∈ ahead d root (described d root resource))
    (taken : taken? d root resource = some f.path) :
    ¬ Agrees engine d root (described d root resource) := by
  intro agrees
  have apart := location_apart mem
  have located := locate_cases finds taken
  have missing (other : (described d root resource).style ≠ .direct) : False := by
    obtain ⟨searched, refused⟩ := agrees.unknown other
    rw [show locate engine d root resource = _ from refused] at located
    rcases located with ⟨l, found, -⟩ | layout
    · cases found
    · cases layout
  cases described_decision d root resource with
  | direct path first style location tells =>
    have other : path ≠ f.path := fun same => apart (same ▸ first)
    unfold Tells at tells
    split at tells
    · obtain ⟨l, found, told, -⟩ := agrees.resolved style location
        (coordinates?_eq_some_iff.2 ⟨tells.1, tells.2.1⟩)
      rw [show locate engine d root resource = _ from found] at located
      rcases located with ⟨_, ⟨⟩, told'⟩ | layout
      · exact other (told.symm.trans told')
      · cases layout
    · obtain ⟨layout, refused⟩ := agrees.refused style location tells.2.2
      rw [show locate engine d root resource = _ from refused] at located
      rcases located with ⟨l, found, -⟩ | same
      · cases found
      · cases same
        exact other rfl
  | legacy _ _ _ style => exact missing (by simp [style])
  | unknown _ _ style => exact missing (by simp [style])

end Agreement

/-- A repository with a types file in its usual place and another with a name that only the finder
takes. -/
def withStray (typesVersion strayVersion : String) : Disk :=
  ⟨(Disk.Tree.empty.withFile ["repo", "apis", "compute", typesVersion, "urlmap_types.go"]).withFile
    ["repo", "apis", "compute", strayVersion, "urlmaptypes.go"], []⟩

/-- What is known of the resource in it. -/
def strayReport (typesVersion : String) : Classification :=
  { resource := "URLMap", style := .direct
    location := some ("apis/compute/" ++ typesVersion ++ "/urlmap_types.go")
    migrationNeeded := false, hasDirectTypes := true, hasLegacyTypes := false, hasProto := false
    protoLocation := none, service := some "compute", version := some typesVersion
    layoutError := none }

end ConnectorKit.Controller
