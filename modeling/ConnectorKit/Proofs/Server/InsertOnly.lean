import ConnectorKit.Proofs.Field.Insertion
import ConnectorKit.Proofs.Scaffold.Creation
import ConnectorKit.Proofs.Server.Session

/-!
A session only adds to the disk. Files gain the lines of added fields, scaffolds create files where
nothing stood, and all else that comes is directories; so nothing that was there is lost, and no
prepared file is left over. Version control and the generator of mappers are kept out of it: what
they do to a disk is not known here.
-/

set_option autoImplicit false
set_option relaxedAutoImplicit false

namespace ConnectorKit.Server

open Disk (Adds InsertOnly Kept Route)
open Json (Mismatch Value)
open Scaffold (Laid Skeleton)

variable {γ : Type}

/-- An action that leaves the disk as it is. -/
private def Still {α : Type} (act : Action (World γ) α) : Prop :=
  ∀ w, (act.perform w).2.disk = w.disk

private theorem still_ofExcept {α : Type} (result : Except Failure α) :
    Still (γ := γ) (Action.ofExcept result) :=
  fun _ => rfl

private theorem Still.bind {α β : Type} {act : Action (World γ) α} {next : α → Action (World γ) β}
    (first : Still act) (later : ∀ a, Still (next a)) : Still (act >>= next) := by
  intro w
  have same := first w
  rw [Action.perform_bind]
  rcases result : act.perform w with ⟨f | a, after⟩
  · rwa [result] at same
  · rw [result] at same
    exact (later a after).trans same

private theorem still_forM {σ : Type} {act : σ → Action (World γ) Unit}
    (each : ∀ s, Still (act s)) (items : List σ) : Still (items.forM act) := by
  induction items with
  | nil => exact fun _ => rfl
  | cons s items ih => exact (each s).bind fun _ => ih

private theorem still_report {α : Type} (read : Disk → Except Failure α) (write : α → Value) :
    Still (γ := γ) (report read write) :=
  Still.bind (fun _ => rfl) fun _ => still_ofExcept (.ok _)

section Git

variable {p : Workplace γ} (still : ∀ c, Still (p.git.ask c))

include still

private theorem still_verifyIdentity (author : Author) (repository : String) :
    Still (Commit.verifyIdentity p.git author repository) := by
  refine (still _).bind fun email => (still _).bind fun name => ?_
  dsimp only
  split
  · exact still_ofExcept (.ok ())
  · exact still_ofExcept (.error _)

private theorem still_stage (files : List String) : Still (Commit.stage p.git files) := by
  unfold Commit.stage
  split
  · exact still .addAll
  · exact still_forM (fun file => still (.add file)) files

private theorem still_commit (r : CommitRequest) : Still (commit p r) := by
  refine (still_ofExcept _).bind fun _ => Still.bind ?_ fun _ => still_ofExcept (.ok _)
  refine (still_ofExcept _).bind fun _ => (still_ofExcept _).bind fun _ => ?_
  refine (still_verifyIdentity still _ _).bind fun _ => ?_
  exact (still_stage still _).bind fun _ => still (.commit _ _)

private theorem still_showStatus : Still (showStatus p) :=
  (still .status).bind fun _ => still_ofExcept (.ok _)

end Git

/-- What is planned from arguments, if they can be read. -/
private def ofRead {α : Type} (read : Except Mismatch α) (plan : α → List Skeleton) :
    List Skeleton :=
  match read with
  | .ok a => plan a
  | .error _ => []

/-- The files that a call is to create. -/
def Tool.planned (t : Tool) (p : Workplace γ) (arguments : Value) : List Skeleton :=
  match t with
  | .scaffoldTypes => ofRead (readArguments Arguments.types "TypesParams" arguments)
      fun r => (r.skeleton p.year).toOption.toList
  | .scaffoldIdentity => ofRead (readArguments Arguments.identity "IdentityParams" arguments)
      fun r => (r.skeleton p.year).toOption.toList
  | .scaffoldController => ofRead (readArguments Arguments.controller "ControllerParams" arguments)
      fun r => (r.skeleton p.year).toOption.toList
  | .scaffoldMock => ofRead (readArguments Arguments.mock "MockGcpParams" arguments)
      fun r => (r.skeleton p.year).toOption.toList
  | .scaffoldFixtures => ofRead (readArguments Arguments.fixtures "FixturesParams" arguments)
      fun r => r.planned
  | _ => []

/-- The exchange has added a field, and the types file of the call stood at the route. -/
def Changes (p : Workplace γ) (e : Exchange γ) (r : Route) : Prop :=
  ∃ id arguments request path text, Asks e.line id .addField arguments ∧
    readArguments Arguments.field "AddFieldParams" arguments = .ok request ∧
    request.target p.engine e.before.disk p.root = .ok path ∧
    e.before.disk.locate (Disk.Path.join p.root path) = .ok r ∧
    e.reply = some ⟨id, .result (callResult text false)⟩

/-- The exchange was a call of a scaffold, and one of its files came to stand at the route, where
nothing stood. -/
def Creates (p : Workplace γ) (e : Exchange γ) (r : Route) : Prop :=
  ∃ id t arguments s, Asks e.line id t arguments ∧ s ∈ t.planned p arguments ∧
    e.before.disk.tree.lookup? r = none ∧
    e.after.disk.locate (Disk.Path.join p.root s.path) = .ok r ∧
    e.after.disk.tree.lookup? r = some (.file s.content.toUTF8 false)

/-- What a tool other than the generator of mappers can do to a disk: nothing, the addition of a
field, or the creation of its files. -/
private inductive Works (p : Workplace γ) (arguments : Value) :
    Tool → Action (World γ) String → Prop
  | idle {t : Tool} {act : Action (World γ) String} : Still act → Works p arguments t act
  | adds {request : Field.Request} :
      readArguments Arguments.field "AddFieldParams" arguments = .ok request →
      Works p arguments .addField (World.onDisk (Field.add p.engine p.root request))
  | creates {t : Tool} {act : Action Disk String} :
      (∀ d, Adds (Laid p.root (t.planned p arguments) (act.perform d).2) d (act.perform d).2) →
      Works p arguments t (World.onDisk act)

private theorem action_works {p : Workplace γ} (still : ∀ c, Still (p.git.ask c)) {t : Tool}
    {arguments : Value} {act : Action (World γ) String} (acted : t.action p arguments = .ok act)
    (other : t ≠ .generateMapper) : Works p arguments t act := by
  cases t with
  | generateMapper => exact absurd rfl other
  | gitStatus =>
    cases acted
    exact .idle (still_showStatus still)
  | gitCommit =>
    obtain ⟨r, -, made⟩ := bind_ok acted
    cases made
    exact .idle (still_commit still r)
  | findResource | detectController | migrationStatus | planMigration =>
    obtain ⟨resource, -, made⟩ := bind_ok acted
    cases made
    exact .idle (still_report _ _)
  | addField =>
    obtain ⟨r, read, made⟩ := bind_ok acted
    cases made
    exact .adds read
  | scaffoldTypes | scaffoldIdentity | scaffoldController | scaffoldMock =>
    obtain ⟨r, read, made⟩ := bind_ok acted
    cases made
    refine .creates fun d => ?_
    simp only [Tool.planned, ofRead, read]
    exact Scaffold.createOne_adds _ _ _ _ d
  | scaffoldFixtures =>
    obtain ⟨r, read, made⟩ := bind_ok acted
    cases made
    refine .creates fun d => ?_
    simp only [Tool.planned, ofRead, read]
    exact Scaffold.fixtures_adds p.root r d

private theorem perform_onDisk {α : Type} (act : Action Disk α) (w : World γ) :
    (World.onDisk act).perform w =
      ((act.perform w.disk).1, World.setDisk (act.perform w.disk).2 w) :=
  rfl

/-- What one exchange does at a route. -/
private theorem exchange_kept {p : Workplace γ} {input : ByteArray} {w : World γ}
    (still : ∀ c, Still (p.git.ask c)) {e : Exchange γ} (mem : e ∈ session p input w)
    (unmapped : ∀ id arguments, ¬ Asks e.line id .generateMapper arguments) (r : Route) :
    Kept (Changes p e r) (Creates p e r) (e.before.disk.tree.lookup? r)
      (e.after.disk.tree.lookup? r) := by
  have answered := answer_of_mem mem
  rcases answer_cases p e.line e.before with idle | ⟨id, t, arguments, act, asks, acted, did⟩
  · have same : e.after = e.before := by rwa [answered] at idle
    rw [same]
    exact .same _
  · rw [answered, Prod.mk.injEq] at did
    obtain ⟨replied, after⟩ := did
    have other : t ≠ .generateMapper := by
      rintro rfl
      exact unmapped id arguments asks
    cases action_works still acted other with
    | idle quiet =>
      rw [after, quiet]
      exact .same _
    | @adds request read =>
      rw [perform_onDisk] at after replied
      rw [after]
      refine (Field.add_kept p.engine p.root request e.before.disk r).mono ?_ False.elim
      rintro ⟨went, path, aimed, found⟩
      cases outcome : ((Field.add p.engine p.root request).perform e.before.disk).1 with
      | error f =>
        rw [outcome] at went
        cases went
      | ok text =>
        rw [outcome] at replied
        exact ⟨id, arguments, request, path, text, asks, read, aimed, found, replied⟩
    | @creates _ act added =>
      have reached : e.after.disk = (act.perform e.before.disk).2 := by
        rw [after, perform_onDisk]
        rfl
      have laid := added e.before.disk
      rw [← reached] at laid
      refine (laid.kept r).mono False.elim ?_
      rintro ⟨data, ⟨s, inside, rfl, found⟩, free, stands⟩
      exact ⟨id, t, arguments, s, asks, inside, free, found, stands⟩

/-- Over a whole session in which version control leaves the disk alone and no line asks for the
generator of mappers, the disk only gains: directories and files stay, files gain lines only where a
field was added, and a new file is one that a scaffold has created. -/
theorem session_inserts_only (p : Workplace γ) (input : ByteArray) (w : World γ)
    (still : ∀ c v, ((p.git.ask c).perform v).2.disk = v.disk)
    (unmapped : ∀ line ∈ linesOf input.toList, ∀ id arguments,
      ¬ Asks ⟨line.toArray⟩ id .generateMapper arguments) :
    InsertOnly (fun r => ∃ e ∈ session p input w, Changes p e r)
      (fun r => ∃ e ∈ session p input w, Creates p e r) w.disk (serve p input w).2.disk := by
  refine .of_kept fun r => ?_
  refine @serve_induction γ p input w (fun u v => Kept _ _ (u.disk.tree.lookup? r)
    (v.disk.tree.lookup? r)) (fun _ => .same _) Kept.trans fun e mem => ?_
  obtain ⟨line, inside, told⟩ := line_of_mem mem
  refine (exchange_kept still mem ?_ r).mono (fun changes => ⟨e, mem, changes⟩)
    fun creates => ⟨e, mem, creates⟩
  rw [told]
  exact unmapped line inside

/-- The name that a line calls a tool by, if it does. -/
def calledName? (line : ByteArray) : Option String := do
  let v ← Value.read? (← String.fromUTF8? line)
  let parameters ← v.member? "params"
  (← parameters.member? "name").string?

private theorem calledName?_of_asks {line : ByteArray} {id arguments : Value} {t : Tool}
    (h : Asks line id t arguments) : calledName? line = some t.name := by
  obtain ⟨v, parameters, ⟨text, decoded, spelled⟩, -, -, sent, name, -⟩ := h
  simp [calledName?, decoded, spelled, sent, name, Value.string?]

/-- A workplace without version control, where no program can be started. -/
def ungoverned : Workplace Unit where
  run := fun _ d => (.error .missing, d)
  engine := .unlimited
  settings := ⟨⟨"A", "a@b.c"⟩, "/repo", true⟩
  git := { ask := fun _ w => (.error .gitNotInstalled, w) }
  environment := []
  year := 2026

/-- A repository with one types file. -/
def smallWorld : World Unit :=
  let types := "type DiskSpec struct \x7b\n\x7d\n".toUTF8
  ⟨⟨(Disk.Tree.empty.put ["repo"] .directory).put ["repo", "disk_types.go"] (.file types false), []⟩,
    ()⟩

def fieldLine : String :=
  "\x7b\"jsonrpc\":\"2.0\",\"id\":1,\"method\":\"tools/call\",\"params\":" ++
  "\x7b\"name\":\"kcc_add_field\",\"arguments\":\x7b\"resource\":\"Disk\"," ++
  "\"field_name\":\"Size\",\"field_type\":\"int64\",\"proto_path\":\"a.Disk.size\"," ++
  "\"types_file\":\"disk_types.go\"\x7d\x7d\x7d\n"

/-- A field is added to the one file there is, and its two lines come between the others. -/
theorem session_adds_field :
    let last := (serve ungoverned fieldLine.toUTF8 smallWorld).2
    InsertOnly (fun r => ∃ e ∈ session ungoverned fieldLine.toUTF8 smallWorld, Changes ungoverned e r)
      (fun r => ∃ e ∈ session ungoverned fieldLine.toUTF8 smallWorld, Creates ungoverned e r)
      smallWorld.disk last.disk ∧
    last.disk.tree.lookup? ["repo", "disk_types.go"] = some (.file (Text.Line.ofRows
      ["type DiskSpec struct \x7b", "\t// +kcc:proto=a.Disk.size",
       "\tSize *int64 `json:\"size,omitempty\"`", "\x7d", ""]).toUTF8 false) := by
  have others : ∀ line ∈ linesOf fieldLine.toUTF8.toList,
      calledName? ⟨line.toArray⟩ ≠ some (Tool.name .generateMapper) := by decide +kernel
  refine ⟨session_inserts_only ungoverned fieldLine.toUTF8 smallWorld (fun _ _ => rfl) ?_, ?_⟩
  · intro line mem id arguments asks
    exact others line mem (calledName?_of_asks asks)
  · decide +kernel

end ConnectorKit.Server
