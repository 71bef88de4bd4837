import ConnectorKit.Proofs.Disk.Fresh
import ConnectorKit.Proofs.Scaffold.Placement
import ConnectorKit.Proofs.Text.Cut

/-!
Scaffolds of source files fill their templates. Where the slots are is seen from the templates alone,
so whatever a request brings along stands as a value between their fixed texts.
-/

set_option autoImplicit false
set_option relaxedAutoImplicit false

namespace ConnectorKit.Scaffold

open Disk (Rooted Route)
open Disk.Path (Plain join)
open Text.Template (Cut FirstBinding Leads Settled render settled_iff settled_ofRows settled_row
  slot)

section Created

variable {d d' : Disk} {root : String} {base : Route} {a : Layout.Artifact}
  {resource service version : String} {s : Skeleton}

theorem Placed.came (placed : Placed a resource service version s) (rooted : Rooted d root base)
    (made : (s.create root).perform d = (.ok (), d')) :
    d.entryAt? (join root s.path) = none ∧
      d'.entryAt? (join root s.path) = some (.file s.content.toUTF8 false) := by
  have written := create_ok_iff.1 made
  rw [placed.path, a.path_eq] at written ⊢
  obtain ⟨free, stands, -⟩ := Disk.writeNew_came rooted (placed.plain a) written
  exact ⟨free, stands⟩

end Created

theorem licenseHeader_eq_fill {head : Cut} (shows : head.Shows ["year"] licenseTemplate)
    (year : Nat) : licenseHeader year = head.fill fun _ => toString year := by
  obtain ⟨value, bound, filled⟩ := shows.filled [("year", toString year)] rfl
  have own : FirstBinding [("year", toString year)] "year" (toString year) :=
    ⟨[], [], rfl, List.forall_mem_nil _⟩
  rw [licenseHeader, filled]
  refine Cut.fill_congr fun key mem => ?_
  obtain rfl := List.mem_singleton.1 (shows.keyed key mem)
  exact (bound "year" List.mem_cons_self).unique own

/-- The source files that are scaffolded from templates. -/
inductive Source where
  | types
  | identity
  | controller
  | mock
  deriving DecidableEq, Repr

namespace Source

def Request : Source → Type
  | types => TypesRequest
  | identity => IdentityRequest
  | controller => ControllerRequest
  | mock => MockRequest

def template : Source → String
  | types => typesTemplate
  | identity => identityTemplate
  | controller => controllerTemplate
  | mock => mockTemplate

/-- The keys that are bound for the template, in the order of their bindings. -/
def keys : Source → List String
  | types =>
    ["version", "service", "kind", "resource", "description", "proto_package", "proto_message"]
  | identity =>
    ["version", "kind", "resource", "name_format", "sprintf_format", "format_args",
      "parent_fields", "parent_string", "location_check", "location_field"]
  | controller => ["service", "version", "kind", "resource", "proto_message", "proto_go_package"]
  | mock =>
    ["service", "proto_package", "server", "message", "collection", "name_format",
      "sprintf_format", "token_check", "id_index", "format_args", "location_field",
      "location_value"]

/-- The bindings are those of the request. -/
def Binds : (source : Source) → source.Request → List (String × String) → Prop
  | types, (r : TypesRequest), bindings => ∃ names,
    Names.of r.resource r.service = .ok names ∧ bindings = r.bindings names
  | identity, (r : IdentityRequest), bindings => ∃ names,
    Names.of r.resource r.service = .ok names ∧ bindings = r.bindings names
  | controller, (r : ControllerRequest), bindings => ∃ names,
    Names.of r.resource r.service = .ok names ∧ bindings = r.bindings names
  | mock, (r : MockRequest), bindings => ∃ names collection,
    Names.of r.resource r.service = .ok names ∧
      NameFormat.collection? r.format = some collection ∧ bindings = r.bindings names collection

/-- Where the file of the request belongs. -/
def path : (source : Source) → source.Request → String
  | types, (r : TypesRequest) => Layout.typesFile r.service r.version (Text.Case.lower r.resource)
  | identity, (r : IdentityRequest) =>
    Layout.identityFile r.service r.version (Text.Case.lower r.resource)
  | controller, (r : ControllerRequest) =>
    Layout.controllerFile r.service (Text.Case.lower r.resource)
  | mock, (r : MockRequest) => Layout.mockFile r.service (Text.Case.lower r.resource)

def skeleton : (source : Source) → source.Request → Nat → Except Failure Skeleton
  | types => TypesRequest.skeleton
  | identity => IdentityRequest.skeleton
  | controller => ControllerRequest.skeleton
  | mock => MockRequest.skeleton

def scaffold : (source : Source) → String → Nat → source.Request → Action Disk String
  | types => Scaffold.types
  | identity => Scaffold.identity
  | controller => Scaffold.controller
  | mock => Scaffold.mock

theorem scaffold_eq (source : Source) (root : String) (year : Nat) (r : source.Request) :
    ∃ what steps,
      source.scaffold root year r = createOne root what steps (source.skeleton r year) := by
  cases source <;> exact ⟨_, _, rfl⟩

theorem map_fst_of_binds {source : Source} {r : source.Request} {bindings : List (String × String)}
    (given : source.Binds r bindings) : bindings.map Prod.fst = source.keys := by
  cases source with
  | types =>
    obtain ⟨names, -, rfl⟩ := given
    rfl
  | identity =>
    obtain ⟨names, -, rfl⟩ := given
    unfold IdentityRequest.bindings IdentityRequest.parentBindings
    cases NameFormat.isLocated r.nameFormat <;> rfl
  | controller =>
    obtain ⟨names, -, rfl⟩ := given
    rfl
  | mock =>
    obtain ⟨names, collection, -, -, rfl⟩ := given
    unfold MockRequest.bindings MockRequest.locationBindings
    cases NameFormat.isLocated r.format <;> rfl

theorem content_of_skeleton {source : Source} {r : source.Request} {year : Nat} {s : Skeleton}
    (given : source.skeleton r year = .ok s) : ∃ bindings, source.Binds r bindings ∧
      s.content = licenseHeader year ++ render source.template bindings := by
  cases source with
  | types =>
    obtain ⟨names, named, given⟩ := bind_ok given
    obtain ⟨⟨⟩, -, given⟩ := bind_ok given
    cases given
    exact ⟨_, ⟨names, named, rfl⟩, rfl⟩
  | identity =>
    obtain ⟨names, named, given⟩ := bind_ok given
    obtain ⟨⟨⟩, -, given⟩ := bind_ok given
    split at given
    · cases given
    · cases given
      exact ⟨_, ⟨names, named, rfl⟩, rfl⟩
  | controller =>
    obtain ⟨names, named, given⟩ := bind_ok given
    obtain ⟨⟨⟩, -, given⟩ := bind_ok given
    obtain ⟨⟨⟩, -, given⟩ := bind_ok given
    cases given
    exact ⟨_, ⟨names, named, rfl⟩, rfl⟩
  | mock =>
    obtain ⟨names, named, given⟩ := bind_ok given
    obtain ⟨⟨⟩, -, given⟩ := bind_ok given
    split at given
    · cases given
    · rename_i collection found
      cases given
      exact ⟨_, ⟨names, collection, named, found, rfl⟩, rfl⟩

theorem placed_of_skeleton {source : Source} {r : source.Request} {year : Nat} {s : Skeleton}
    (given : source.skeleton r year = .ok s) : s.path = source.path r ∧
      ∃ a resource service version, Placed a resource service version s := by
  cases source with
  | types =>
    have placed := TypesRequest.skeleton_placed given
    exact ⟨placed.path, _, _, _, _, placed⟩
  | identity =>
    have placed := IdentityRequest.skeleton_placed given
    exact ⟨placed.path, _, _, _, _, placed⟩
  | controller =>
    have placed := ControllerRequest.skeleton_placed given
    exact ⟨placed.path, _, _, _, _, placed⟩
  | mock =>
    have versioned : Plain "v1" := by decide
    rw [skeleton] at given
    have placed := MockRequest.skeleton_placed versioned given
    exact ⟨placed.path, _, _, _, _, placed⟩

theorem settled_templates :
    Settled ["year"] licenseTemplate ∧ ∀ source : Source, Settled source.keys source.template := by
  constructor
  case' left => unfold licenseTemplate
  case' right =>
    intro source
    cases source <;> simp only [template, typesTemplate, identityTemplate, controllerTemplate,
      mockTemplate]
  all_goals
    refine settled_ofRows (by simp only [List.getLast?_cons_cons, List.getLast?_singleton]) ?_
    simp only [List.forall_mem_cons]
    repeat' apply And.intro
  -- most rows are one text without braces, and the others are read piece by piece
  all_goals first
    | (with_reducible refine settled_row ?_); decide +kernel
    | exact List.forall_mem_nil _
    | simp only [slot, settled_iff, String.toList_append]
      repeat rw [String.toList_ofList]
      decide +kernel

/-- The data is that of a file with these two cuts, the one filled with the year and the other with
the values that the request binds. -/
def Fills (source : Source) (r : source.Request) (year : Nat) (head body : Cut)
    (data : ByteArray) : Prop :=
  ∃ bindings value, source.Binds r bindings ∧
    (∀ key ∈ source.keys, FirstBinding bindings key (value key)) ∧
    data = (head.fill (fun _ => toString year) ++ body.fill value).toUTF8

section Cuts

variable {source : Source} {head body : Cut} {root : String} {year : Nat} {r : source.Request}
  {d d' : Disk}

theorem fills_of_skeleton {s : Skeleton} (license : head.Shows ["year"] licenseTemplate)
    (shows : body.Shows source.keys source.template) (given : source.skeleton r year = .ok s) :
    source.Fills r year head body s.content.toUTF8 := by
  obtain ⟨bindings, binds, content⟩ := content_of_skeleton given
  obtain ⟨value, bound, filled⟩ := shows.filled bindings (map_fst_of_binds binds)
  refine ⟨bindings, value, binds, bound, ?_⟩
  rw [content, licenseHeader_eq_fill license, filled]

/-- Each new file has its template filled, whatever else becomes of the scaffold. -/
theorem scaffold_adds (license : head.Shows ["year"] licenseTemplate)
    (shows : body.Shows source.keys source.template) (root : String) (year : Nat)
    (r : source.Request) (d : Disk) :
    Disk.Adds (fun _ => source.Fills r year head body) d
      ((source.scaffold root year r).perform d).2 := by
  obtain ⟨what, steps, same⟩ := source.scaffold_eq root year r
  rw [same]
  refine (createOne_adds root what steps (source.skeleton r year) d).mono (fun _ => id) ?_
  rintro _ data ⟨s, mem, rfl, -⟩
  rw [Option.mem_toList] at mem
  cases given : source.skeleton r year with
  | error f =>
    rw [given] at mem
    cases mem
  | ok s' =>
    rw [given] at mem
    cases mem
    exact fills_of_skeleton license shows given

theorem scaffold_ok {base : Route} {text : String}
    (license : head.Shows ["year"] licenseTemplate)
    (shows : body.Shows source.keys source.template) (rooted : Rooted d root base)
    (went : (source.scaffold root year r).perform d = (.ok text, d')) :
    ∃ data, source.Fills r year head body data ∧
      d.entryAt? (join root (source.path r)) = none ∧
      d'.entryAt? (join root (source.path r)) = some (.file data false) := by
  obtain ⟨what, steps, same⟩ := source.scaffold_eq root year r
  rw [same] at went
  obtain ⟨s, given, made⟩ := createOne_ok went
  obtain ⟨path, a, resource, service, version, placed⟩ := placed_of_skeleton given
  rw [← path]
  exact ⟨_, fills_of_skeleton license shows given, placed.came rooted made⟩

end Cuts

end Source

/-- No value can be read as a part of a template. A template is cut at its slots before there are
values, and rendering fills the cut with the first binding of each key, as it is. The first slot of a
template is left as it is written if its key is not bound, and a template without slots comes out
unchanged. So each source file that a scaffold makes is the text of its license and its template,
with all slots filled and no opening left over. -/
theorem source_files_fill_templates :
    (∀ template keys, ∃ c : Cut, c.Shows keys template) ∧
    (∀ front key, Leads front key → ∀ back bindings,
      (∀ value, FirstBinding bindings key value →
        render (front ++ slot key ++ back) bindings = front ++ value ++ render back bindings) ∧
      ((∀ b ∈ bindings, b.1 ≠ key) →
        render (front ++ slot key ++ back) bindings =
          front ++ slot key ++ render back bindings)) ∧
    (∀ template, (¬ ∃ front key back, template = front ++ slot key ++ back) →
      ∀ bindings, render template bindings = template) ∧
    ∀ source : Source, ∃ head body : Cut,
      head.Shows ["year"] licenseTemplate ∧ body.Shows source.keys source.template ∧
      (∀ literal ∈ head.literals ++ body.literals, ¬ ['{', '{'] <:+: literal.toList) ∧
      ∀ (root : String) (year : Nat) (r : source.Request) (d : Disk),
        let outcome := (source.scaffold root year r).perform d
        Disk.Adds (fun _ => source.Fills r year head body) d outcome.2 ∧
        ∀ base text, Rooted d root base → outcome.1 = .ok text →
          ∃ data, source.Fills r year head body data ∧
            d.entryAt? (join root (source.path r)) = none ∧
            outcome.2.entryAt? (join root (source.path r)) = some (.file data false) := by
  refine ⟨fun template keys => ⟨.of keys template, Cut.of_shows keys template⟩, ?_, ?_, ?_⟩
  · intro front key leads back bindings
    exact ⟨fun _ bound => Text.Template.render_first_slot leads bound back,
      fun free => Text.Template.render_free_slot leads free back⟩
  · exact fun _ none bindings => Text.Template.render_of_no_slot none bindings
  · intro source
    have license := Cut.of_shows ["year"] licenseTemplate
    have shows := Cut.of_shows source.keys source.template
    refine ⟨_, _, license, shows, ?_, fun root year r d => ⟨?_, ?_⟩⟩
    · intro literal mem
      rcases List.mem_append.1 mem with inHead | inBody
      · exact Source.settled_templates.1.unopened literal inHead
      · exact (Source.settled_templates.2 source).unopened literal inBody
    · exact Source.scaffold_adds license shows root year r d
    · exact fun base text rooted went => Source.scaffold_ok license shows rooted (Prod.ext went rfl)

/-- Types for a resource that is described by what looks like a slot. -/
def slottedTypes : TypesRequest where
  resource := "Disk"
  service := "compute"
  version := "v1"
  protoPackage := "google.cloud.compute.v1"
  protoMessage := "Disk"
  description := some (slot "kind")

/-- A repository without files. -/
def bareRepository : Disk :=
  ⟨Disk.Tree.empty.put ["repo"] .directory, []⟩

/-- Bindings of which two have the same key. -/
def kindTwice : List (String × String) :=
  [("kind", slot "version"), ("kind", "Disk"), ("version", "v1")]

/-- A value that looks like a slot stays what it is, and such a value can be written to a types file.
A key that is not bound keeps its braces, and so does one that lacks a brace. -/
theorem source_files_fill_templates_slotted :
    Leads "&" "kind" ∧ FirstBinding kindTwice "kind" (slot "version") ∧
      render ("&" ++ slot "kind" ++ "\x7b\x7d") kindTwice =
        "&" ++ slot "version" ++ render "\x7b\x7d" kindTwice ∧
    Leads "&" "size" ∧ (∀ b ∈ kindTwice, b.1 ≠ "size") ∧
      render ("&" ++ slot "size" ++ "\x7b\x7d") kindTwice =
        "&" ++ slot "size" ++ render "\x7b\x7d" kindTwice ∧
    (¬ ∃ front key back, "\x7b\x7bkind\x7d" = front ++ slot key ++ back) ∧
      render "\x7b\x7bkind\x7d" kindTwice = "\x7b\x7bkind\x7d" ∧
    Rooted bareRepository "/repo" ["repo"] ∧
    ∃ text d' head body data,
      (types "/repo" 2025 slottedTypes).perform bareRepository = (.ok text, d') ∧
      head.Shows ["year"] licenseTemplate ∧ body.Shows Source.types.keys typesTemplate ∧
      Source.types.Fills slottedTypes 2025 head body data ∧
      d'.entryAt? (join "/repo" (Source.types.path slottedTypes)) = some (.file data false) := by
  obtain ⟨-, first, unslotted, sources⟩ := source_files_fill_templates
  have kind : Leads "&" "kind" := ⟨by decide +kernel, by decide +kernel⟩
  have size : Leads "&" "size" := ⟨by decide +kernel, by decide +kernel⟩
  have bound : FirstBinding kindTwice "kind" (slot "version") :=
    ⟨[], _, rfl, List.forall_mem_nil _⟩
  have free : ∀ b ∈ kindTwice, b.1 ≠ "size" := by decide
  have lone : ¬ ∃ front key back, "\x7b\x7bkind\x7d" = front ++ slot key ++ back := by
    rintro ⟨front, key, back, whole⟩
    have closed : ['}', '}'] <:+: ("\x7b\x7bkind\x7d" : String).toList :=
      ⟨front.toList ++ ['{', '{'] ++ key.toList, back.toList, by rw [whole]; simp [slot]⟩
    exact absurd closed (by decide +kernel)
  have rooted : Rooted bareRepository "/repo" ["repo"] := ⟨by decide +kernel, by decide +kernel⟩
  refine ⟨kind, bound, (first _ _ kind _ _).1 _ bound, size, free, (first _ _ size _ _).2 free,
    lone, unslotted _ lone _, rooted, ?_⟩
  obtain ⟨text, d', made⟩ := Action.exists_of_isOk
    (by decide +kernel : ((types "/repo" 2025 slottedTypes).perform bareRepository).1.isOk = true)
  obtain ⟨head, body, license, shows, -, each⟩ := sources .types
  obtain ⟨-, succeeds⟩ := each "/repo" 2025 slottedTypes bareRepository
  obtain ⟨data, filled, -, there⟩ := succeeds ["repo"] text rooted (congrArg Prod.fst made)
  refine ⟨text, d', head, body, data, made, license, shows, filled, ?_⟩
  have after : ((types "/repo" 2025 slottedTypes).perform bareRepository).2 = d' :=
    congrArg Prod.snd made
  rw [← after]
  exact there

end ConnectorKit.Scaffold
