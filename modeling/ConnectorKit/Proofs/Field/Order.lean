import ConnectorKit.Proofs.Disk.Confined
import ConnectorKit.Proofs.Disk.Outline
import ConnectorKit.Proofs.Field.Clean

/-!
Additions to one file after another. Fields of one struct stand in the order in which they were added,
each block behind the one before; and additions to two structs that stand apart can be swapped.
-/

set_option autoImplicit false
set_option relaxedAutoImplicit false

namespace ConnectorKit.Field

open Disk (Repository Route Swappable)

variable {parent parent' : String} {fields fields' : List String}

namespace Site

/-- The rows with further rows at the site. -/
def withRows (site : Site parent) (fields : List String) : List String :=
  site.front ++ site.opening :: (site.before ++ (fields ++ (site.after ++ site.closing :: site.rest)))

/-- The number of the row that closes the struct; the header has that of `front.length`. -/
def stop (site : Site parent) : Nat :=
  site.front.length + 1 + site.before.length + site.after.length

/-- The structs of two sites, from header to closing row, have no row in common. -/
def Apart (a : Site parent) (b : Site parent') : Prop :=
  a.stop < b.front.length ∨ b.stop < a.front.length

theorem rows_changed {content : String} (site : Site parent)
    (whole : Text.Line.rows content = site.rows) (block : String) :
    Text.Line.rows (Text.Line.ofRows (site.withBlock block)) =
      site.withRows (Text.Line.rows block) := by
  rw [site.rows_withBlock whole, whole, site.rows_eq_above, ← site.length_above, List.take_left,
    List.drop_left]
  simp [above, withRows]

/-- The site behind fields that were added. -/
def grown (site : Site parent) (more : Fields fields) : Site parent where
  front := site.front
  opening := site.opening
  before := site.before ++ fields
  after := site.after
  closing := site.closing
  rest := site.rest
  first := site.first
  opens := site.opens
  inner := by
    have inner := site.inner
    rw [List.forall_mem_append] at inner
    rw [List.forall_mem_append, List.forall_mem_append]
    exact ⟨⟨inner.1, more.inner⟩, inner.2⟩
  closes := site.closes
  untagged := site.untagged
  last := by
    obtain ⟨front, field, rfl, tagged⟩ := more.last
    exact .inl ⟨_, field, (List.append_assoc ..).symm, tagged⟩

@[simp] theorem withRows_nil (site : Site parent) : site.withRows [] = site.rows :=
  rfl

theorem rows_grown (site : Site parent) (more : Fields fields) :
    (site.grown more).rows = site.withRows fields := by
  simp [rows, grown, withRows]

theorem withRows_grown (site : Site parent) (more : Fields fields) (later : List String) :
    (site.grown more).withRows later = site.withRows (fields ++ later) := by
  simp [withRows, grown]

theorem exists_empty {front : List String} (parent : String) (rest : List String)
    (first : ∀ row ∈ front, Text.Search.contains row (header parent) = false) :
    ∃ site : Site parent, (∀ fields, site.withRows fields =
        front ++ header parent :: (fields ++ "\x7d" :: rest)) ∧
      site.front.length = front.length ∧ site.stop = front.length + 1 := by
  refine ⟨{
    front, opening := header parent, before := [], after := [], closing := "\x7d", rest, first
    opens := Text.Search.contains_iff.2 List.infix_rfl
    inner := List.forall_mem_nil _
    closes := by decide
    untagged := List.forall_mem_nil _
    last := .inr ⟨rfl, List.forall_mem_nil _⟩ }, fun fields => rfl, rfl, rfl⟩

section Apart

variable {a : Site parent} {b : Site parent'}

private theorem exists_between (same : a.rows = b.rows) (order : a.stop < b.front.length) :
    ∃ between, b.front = a.front ++ a.opening :: (a.before ++ (a.after ++ a.closing :: between)) ∧
      a.rest = between ++ b.opening :: (b.before ++ (b.after ++ b.closing :: b.rest)) := by
  have struct_ : a.rows =
      (a.front ++ a.opening :: (a.before ++ (a.after ++ [a.closing]))) ++ a.rest := by
    simp [rows]
  have short : (a.front ++ a.opening :: (a.before ++ (a.after ++ [a.closing]))).length ≤
      b.front.length := by
    simp only [stop] at order
    simp only [List.length_append, List.length_cons, List.length_nil]
    omega
  rw [struct_] at same
  obtain ⟨between, front⟩ := List.prefix_of_prefix_length_le
    (List.prefix_append _ a.rest) (same ▸ List.prefix_append b.front _) short
  refine ⟨between, by rw [← front]; simp, ?_⟩
  rw [rows, ← front, List.append_assoc _ between] at same
  exact List.append_cancel_left same

/-- Each of two structs in order has its site in the rows that the other one leads to, and both come
to the same rows in the end. -/
private theorem swap_of_lt (same : a.rows = b.rows) (order : a.stop < b.front.length)
    (first : Fields fields) (fields' : List String) :
    ∃ (a' : Site parent) (b' : Site parent'), a'.rows = b.withRows fields' ∧
      b'.rows = a.withRows fields ∧ a'.withRows fields = b'.withRows fields' := by
  obtain ⟨between, front, rest⟩ := exists_between same order
  have heads := b.first
  simp only [front, List.forall_mem_append, List.forall_mem_cons] at heads
  obtain ⟨early, opening, before, after, closing, later⟩ := heads
  refine ⟨{ a with
      rest := between ++ b.opening :: (b.before ++ (fields' ++ (b.after ++ b.closing :: b.rest))) },
    { b with
      front := a.front ++ a.opening :: (a.before ++ (fields ++ (a.after ++ a.closing :: between)))
      first := ?_ }, ?_, ?_, ?_⟩
  · simp only [List.forall_mem_append, List.forall_mem_cons]
    exact ⟨early, opening, before, fun row mem => first.unopened row mem _, after, closing, later⟩
  · simp [rows, withRows, front]
  · simp [rows, withRows, rest]
  · simp [withRows]

theorem Apart.swap (apart : a.Apart b) (same : a.rows = b.rows) (first : Fields fields)
    (second : Fields fields') :
    ∃ (a' : Site parent) (b' : Site parent'), a'.rows = b.withRows fields' ∧
      b'.rows = a.withRows fields ∧ a'.withRows fields = b'.withRows fields' := by
  rcases apart with order | order
  · exact swap_of_lt same order first fields'
  · obtain ⟨b', a', right, left, both⟩ := swap_of_lt same.symm order second fields
    exact ⟨a', b', left, right, both.symm⟩

end Apart

end Site

section Outline

variable (engine : Text.Glob.Engine) (d : Disk) (root : String)

private theorem locate_outline (resource : String) :
    Controller.locate engine d.outline root resource = Controller.locate engine d root resource := by
  unfold Controller.locate Controller.matching Disk.filesNamed
  simp only [Disk.files_outline, Disk.stands_outline]

private theorem target_outline (r : Request) :
    r.target engine d.outline root = r.target engine d root := by
  unfold Request.target
  rw [locate_outline]

end Outline

variable {engine : Text.Glob.Engine} {d d' : Disk} {root : String} {base goal : Route}
  {r r' : Request}

/-- The file to be changed is the one at a route. -/
def Request.AimedAt (engine : Text.Glob.Engine) (r : Request) (d : Disk) (root : String)
    (goal : Route) : Prop :=
  ∃ path, r.target engine d root = .ok path ∧ d.locate (Disk.Path.join root path) = .ok goal

theorem add_untyped {f : Failure} (untyped : Kind.ofText r.fieldType = .error f) (d : Disk) :
    (add engine root r).perform d = (.error f, d) := by
  have prepared : r.prepare engine d root = .error f := by
    unfold Request.prepare
    rw [untyped]
    rfl
  rw [add_perform, prepared]

theorem add_typed {text : String} (added : (add engine root r).perform d = (.ok text, d')) :
    ∃ kind, Kind.ofText r.fieldType = .ok kind := by
  cases typed : Kind.ofText r.fieldType with
  | error f =>
    rw [add_untyped typed] at added
    cases added
  | ok kind => exact ⟨kind, rfl⟩

/-- One field after the other is added. -/
inductive Adds (engine : Text.Glob.Engine) (root : String) : List Request → Disk → Disk → Prop
  | none {d : Disk} : Adds engine root [] d d
  | next {r : Request} {requests : List Request} {d d₁ d' : Disk} {text : String} :
      (add engine root r).perform d = (.ok text, d₁) → Adds engine root requests d₁ d' →
      Adds engine root (r :: requests) d d'

/-- The block is that of the request. -/
def Request.Writes (r : Request) (block : String) : Prop :=
  ∃ kind, Kind.ofText r.fieldType = .ok kind ∧ block = r.block kind

/-- The file at a route of a repository has the rows of a site. -/
structure Editable (root : String) (base goal : Route) (site : Site parent) (d : Disk) : Prop where
  repo : Repository d root base
  stood : ∃ content executable, d.tree.lookup? goal = some (.file content.toUTF8 executable) ∧
    Text.Line.rows content = site.rows

/-- Only the file at the route may differ, in what is in it. -/
structure Edited (goal : Route) (d d' : Disk) : Prop where
  outline : d'.outline = d.outline
  others : ∀ route, route ≠ goal → d'.tree.lookup? route = d.tree.lookup? route
  current : d'.current = d.current

theorem Edited.refl (goal : Route) (d : Disk) : Edited goal d d :=
  ⟨rfl, fun _ _ => rfl, rfl⟩

theorem Edited.trans {d'' : Disk} (h : Edited goal d d') (h' : Edited goal d' d'') :
    Edited goal d d'' where
  outline := h'.outline.trans h.outline
  others route other := (h'.others route other).trans (h.others route other)
  current := h'.current.trans h.current

theorem edited_put {old : ByteArray} {before : Bool}
    (stood : d.tree.lookup? goal = some (.file old before)) (new : ByteArray) (after : Bool) :
    Edited goal d (d.put goal (.file new after)) where
  outline := Disk.outline_put stood
  others route other := by rw [Disk.lookup?_put (Disk.fits_of_file stood), if_neg other]
  current := rfl

theorem Edited.repo (h : Edited goal d d') (repo : Repository d root base) :
    Repository d' root base := by
  rw [← Disk.repository_outline_iff, h.outline, Disk.repository_outline_iff]
  exact repo

theorem Edited.aim (h : Edited goal d d') {path : String} (aimed : r.target engine d root = .ok path)
    (found : d.locate (Disk.Path.join root path) = .ok goal) :
    r.target engine d' root = .ok path ∧ d'.locate (Disk.Path.join root path) = .ok goal := by
  rw [← target_outline, h.outline, target_outline, ← Disk.locate_outline d', h.outline,
    Disk.locate_outline]
  exact ⟨aimed, found⟩

theorem Edited.aimedAt (h : Edited goal d d') (aimed : r.AimedAt engine d root goal) :
    r.AimedAt engine d' root goal := by
  obtain ⟨path, aimed, found⟩ := aimed
  exact ⟨path, h.aim aimed found⟩

/-- What an addition comes to: its block stands at the site, which is behind it from then on. -/
theorem Editable.add {site : Site parent} (h : Editable root base goal site d)
    (own : r.parent = parent) (clean : r.Clean) (aimed : r.AimedAt engine d root goal) {kind : Kind}
    (typed : Kind.ofText r.fieldType = .ok kind) :
    ∃ text d', (Field.add engine root r).perform d = (.ok text, d') ∧ Edited goal d d' ∧
      Editable root base goal (site.grown (clean.fields kind)) d' := by
  subst own
  obtain ⟨content, executable, stood, whole⟩ := h.stood
  obtain ⟨path, aimed, found⟩ := aimed
  have edited := edited_put stood (Text.Line.ofRows (site.withBlock (r.block kind))).toUTF8 false
  refine ⟨_, _, add_found h.repo typed aimed found stood site whole, edited, edited.repo h.repo,
    Text.Line.ofRows (site.withBlock (r.block kind)), false, ?_, ?_⟩
  · rw [Disk.lookup?_put (Disk.fits_of_file stood), if_pos rfl]
  · rw [site.rows_changed whole, site.rows_grown]

variable {requests : List Request}

theorem Edited.each (h : Edited goal d d')
    (each : ∀ r ∈ requests, r.parent = parent ∧ r.Clean ∧ r.AimedAt engine d root goal) :
    ∀ r ∈ requests, r.parent = parent ∧ r.Clean ∧ r.AimedAt engine d' root goal := by
  intro r mem
  obtain ⟨own, clean, aimed⟩ := each r mem
  exact ⟨own, clean, h.aimedAt aimed⟩

theorem Editable.exists_adds {site : Site parent} (h : Editable root base goal site d)
    (each : ∀ r ∈ requests, r.parent = parent ∧ r.Clean ∧ r.AimedAt engine d root goal)
    (typed : ∀ r ∈ requests, ∃ kind, Kind.ofText r.fieldType = .ok kind) :
    ∃ d', Adds engine root requests d d' := by
  induction requests generalizing site d with
  | nil => exact ⟨d, .none⟩
  | cons r requests ih =>
    obtain ⟨⟨own, clean, aimed⟩, each⟩ := List.forall_mem_cons.1 each
    obtain ⟨⟨kind, first⟩, typed⟩ := List.forall_mem_cons.1 typed
    obtain ⟨text, d₁, added, edited, behind⟩ := h.add own clean aimed first
    obtain ⟨d', rest⟩ := ih behind (edited.each each) typed
    exact ⟨d', .next added rest⟩

theorem Adds.typed (run : Adds engine root requests d d') :
    ∀ r ∈ requests, ∃ kind, Kind.ofText r.fieldType = .ok kind := by
  induction run with
  | none => exact List.forall_mem_nil _
  | next went _ ih => exact List.forall_mem_cons.2 ⟨add_typed went, ih⟩

/-- The blocks of a run of additions stand at the site in its order. -/
theorem Adds.rows (run : Adds engine root requests d d') {site : Site parent}
    (h : Editable root base goal site d)
    (each : ∀ r ∈ requests, r.parent = parent ∧ r.Clean ∧ r.AimedAt engine d root goal) :
    ∃ blocks, List.Forall₂ Request.Writes requests blocks ∧ Edited goal d d' ∧
      ∃ changed executable, d'.tree.lookup? goal = some (.file changed.toUTF8 executable) ∧
        Text.Line.rows changed = site.withRows (blocks.flatMap Text.Line.rows) := by
  induction run generalizing site with
  | none => exact ⟨[], .nil, .refl _ _, h.stood⟩
  | @next r requests d d₁ d' text went _ ih =>
    obtain ⟨⟨own, clean, aimed⟩, each⟩ := List.forall_mem_cons.1 each
    obtain ⟨kind, typed⟩ := add_typed went
    obtain ⟨_, _, added, edited, behind⟩ := h.add own clean aimed typed
    rw [went] at added
    cases added
    obtain ⟨blocks, written, later, changed, executable, stands, rows⟩ :=
      ih behind (edited.each each)
    refine ⟨r.block kind :: blocks, .cons ⟨kind, typed, rfl⟩ written, edited.trans later, changed,
      executable, stands, ?_⟩
    rw [rows, site.withRows_grown, List.flatMap_cons]

/-- Additions to structs that stand apart in the same file can be swapped. -/
theorem add_swap (repo : Repository d root base) {content : String} {executable : Bool}
    (stood : d.tree.lookup? goal = some (.file content.toUTF8 executable)) {a : Site r.parent}
    {b : Site r'.parent} (whole : Text.Line.rows content = a.rows)
    (whole' : Text.Line.rows content = b.rows) (apart : a.Apart b) (clean : r.Clean)
    (clean' : r'.Clean) (aimed : r.AimedAt engine d root goal) (aimed' : r'.AimedAt engine d root goal) :
    Swappable (add engine root r) (add engine root r') d := by
  cases typed : Kind.ofText r.fieldType with
  | error f => exact .of_idle (add_untyped typed)
  | ok kind =>
    cases typed' : Kind.ofText r'.fieldType with
    | error f => exact (Swappable.of_idle (add_untyped typed')).symm
    | ok kind' =>
      obtain ⟨path, aimed, found⟩ := aimed
      obtain ⟨path', aimed', found'⟩ := aimed'
      have first := add_found repo typed aimed found stood a whole
      have second := add_found repo typed' aimed' found' stood b whole'
      obtain ⟨a', b', left, right, both⟩ := apart.swap (whole.symm.trans whole')
        (clean.fields kind) (clean'.fields kind')
      have added {c : ByteArray} : (d.put goal (.file c false)).tree.lookup? goal =
          some (.file c false) := by
        rw [Disk.lookup?_put (Disk.fits_of_file stood), if_pos rfl]
      have edited {c : ByteArray} := edited_put stood c false
      have rows := (a.rows_changed whole (r.block kind)).trans right.symm
      have rows' := (b.rows_changed whole' (r'.block kind')).trans left.symm
      have after := add_found (edited.repo repo) typed (edited.aim aimed found).1
        (edited.aim aimed found).2 added a' rows'
      have after' := add_found (edited.repo repo) typed' (edited.aim aimed' found').1
        (edited.aim aimed' found').2 added b' rows
      have same : Text.Line.ofRows (a'.withBlock (r.block kind)) =
          Text.Line.ofRows (b'.withBlock (r'.block kind')) := by
        rw [← Text.Line.ofRows_rows (Text.Line.ofRows _), a'.rows_changed rows', both,
          ← b'.rows_changed rows, Text.Line.ofRows_rows]
      constructor
      · rw [second, after, first]
      · rw [first, after', second]
      · rw [second, after, first, after', same, Disk.put_put stood, Disk.put_put stood]

/-- Additions to one struct of a file stand in it in their order, each block directly behind the one
before, and additions to two structs of it that stand apart come to the same in either order. -/
theorem additions_keep_their_order (repo : Repository d root base) {content : String}
    {executable : Bool} (stood : d.tree.lookup? goal = some (.file content.toUTF8 executable))
    (site : Site parent) (whole : Text.Line.rows content = site.rows) :
    (∀ requests : List Request,
      (∀ r ∈ requests, r.parent = parent ∧ r.Clean ∧ r.AimedAt engine d root goal) →
      ((∃ d', Adds engine root requests d d') ↔
        ∀ r ∈ requests, ∃ kind, Kind.ofText r.fieldType = .ok kind) ∧
      ∀ d', Adds engine root requests d d' → ∃ blocks, List.Forall₂ Request.Writes requests blocks ∧
        (∃ changed x, d'.tree.lookup? goal = some (.file changed.toUTF8 x) ∧
          Text.Line.rows changed = site.withRows (blocks.flatMap Text.Line.rows)) ∧
        (∀ route, route ≠ goal → d'.tree.lookup? route = d.tree.lookup? route) ∧
        d'.current = d.current) ∧
    ∀ (parent' : String) (other : Site parent'), Text.Line.rows content = other.rows →
      site.Apart other → ∀ r r' : Request, r.parent = parent → r'.parent = parent' →
      r.Clean → r'.Clean → r.AimedAt engine d root goal → r'.AimedAt engine d root goal →
      Swappable (add engine root r) (add engine root r') d := by
  refine ⟨fun requests each => ?_, ?_⟩
  · have editable : Editable root base goal site d := ⟨repo, content, executable, stood, whole⟩
    refine ⟨⟨fun ⟨d', run⟩ => run.typed, editable.exists_adds each⟩, fun d' run => ?_⟩
    obtain ⟨blocks, written, edited, stands⟩ := run.rows editable each
    exact ⟨blocks, written, stands, edited.others, edited.current⟩
  · rintro _ other whole' apart r r' rfl rfl clean clean' aimed aimed'
    exact add_swap repo stood whole whole' apart clean clean' aimed aimed'

/-- A zone for a disk. -/
def zoneRequest : Request :=
  { sizeRequest with fieldName := "Zone", fieldType := "string" }

/-- The size in the status of a disk. -/
def statusRequest : Request :=
  { sizeRequest with parentType := some "DiskStatus" }

/-- Two fields of a spec, the first of them in an empty struct, and a field of the status behind it. -/
theorem sizes_keep_their_order :
    let d := withTypes "type DiskSpec struct \x7b\n\x7d\ntype DiskStatus struct \x7b\n\x7d\n"
    let rows := ["type DiskSpec struct \x7b",
      "\t// +kcc:proto=a.Disk.size", "\tSize *int64 `json:\"size,omitempty\"`",
      "\t// +kcc:proto=a.Disk.size", "\tZone *string `json:\"zone,omitempty\"`",
      "\x7d", "type DiskStatus struct \x7b", "\x7d", ""]
    Repository d "/repo" ["repo"] ∧
      (∃ d' changed x, Adds .unlimited "/repo" [sizeRequest, zoneRequest] d d' ∧
        d'.tree.lookup? ["repo", "disk_types.go"] = some (.file changed.toUTF8 x) ∧
        Text.Line.rows changed = rows) ∧
      Swappable (add .unlimited "/repo" sizeRequest) (add .unlimited "/repo" statusRequest) d := by
  intro d rows
  have repo : Repository d "/repo" ["repo"] := by decide +kernel
  obtain ⟨site, rows_site, -, stop⟩ := Site.exists_empty "DiskSpec"
    ["type DiskStatus struct \x7b", "\x7d", ""] (List.forall_mem_nil _)
  obtain ⟨other, rows_other, long, -⟩ := @Site.exists_empty
    ["type DiskSpec struct \x7b", "\x7d"] "DiskStatus" [""] (by decide)
  have aimed (r : Request) (named : r.typesFile = some "disk_types.go") :
      r.AimedAt .unlimited d "/repo" ["repo", "disk_types.go"] := by
    refine ⟨"disk_types.go", ?_, by decide +kernel⟩
    unfold Request.target
    rw [named]
    rfl
  have clean : sizeRequest.Clean :=
    ⟨⟨by decide, by decide⟩, ⟨by decide, by decide⟩, ⟨by decide, by decide⟩,
      by rintro _ ⟨⟩, by rintro _ ⟨⟩⟩
  have zone : zoneRequest.Clean :=
    ⟨clean.resource, ⟨by decide, by decide⟩, clean.path, clean.description, clean.json⟩
  have status : statusRequest.Clean :=
    ⟨clean.resource, clean.field, clean.path, clean.description, clean.json⟩
  have stood : d.tree.lookup? ["repo", "disk_types.go"] = some (.file
      "type DiskSpec struct \x7b\n\x7d\ntype DiskStatus struct \x7b\n\x7d\n".toUTF8 false) := by
    decide +kernel
  obtain ⟨ordered, swapped⟩ := additions_keep_their_order repo stood site
    (by rw [← site.withRows_nil, rows_site]; decide +kernel)
  obtain ⟨runs, ends⟩ := ordered [sizeRequest, zoneRequest] (by
    simp only [List.forall_mem_cons]
    exact ⟨⟨by decide, clean, aimed _ rfl⟩, ⟨by decide, zone, aimed _ rfl⟩, List.forall_mem_nil _⟩)
  obtain ⟨d', run⟩ := runs.2 (by
    simp only [List.forall_mem_cons]
    exact ⟨⟨_, rfl⟩, ⟨_, rfl⟩, List.forall_mem_nil _⟩)
  obtain ⟨blocks, written, ⟨changed, x, stands, told⟩, -⟩ := ends d' run
  refine ⟨repo, ⟨d', changed, x, run, stands, ?_⟩, ?_⟩
  · obtain _ | ⟨⟨kind, typed, rfl⟩, _ | ⟨⟨kind', typed', rfl⟩, _ | _⟩⟩ := written
    obtain rfl : Kind.int64 = kind := Except.ok.inj typed
    obtain rfl : Kind.string = kind' := Except.ok.inj typed'
    rw [told, rows_site]
    decide +kernel
  · have apart : site.Apart other := .inl (by rw [stop, long]; decide)
    exact swapped _ other (by rw [← other.withRows_nil, rows_other]; decide +kernel) apart
      sizeRequest statusRequest rfl rfl clean status (aimed _ rfl) (aimed _ rfl)

end ConnectorKit.Field
