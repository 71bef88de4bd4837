import ConnectorKit.Proofs.Commit.Calls
import ConnectorKit.Proofs.Server.Session

/-!
A session with the calls of version control on record. The recording is not seen by the server: it
replies the same, and leaves the same world beside the log.
-/

set_option autoImplicit false
set_option relaxedAutoImplicit false

namespace ConnectorKit.Server

open Git (Record)
open Json (Value Mismatch)

variable {γ : Type}

namespace World

/-- The world beside the log. -/
def plain (w : World (γ × List Record)) : World γ :=
  ⟨w.disk, w.aside.1⟩

/-- The world with an empty log. -/
def opened (w : World γ) : World (γ × List Record) :=
  ⟨w.disk, (w.aside, [])⟩

def log (w : World (γ × List Record)) : List Record :=
  w.aside.2

end World

/-- The same version control, with each call and its answer added to the log. -/
def recordedGit (git : Git (World γ)) : Git (World (γ × List Record)) where
  ask c := fun w =>
    let (answer, after) := (git.ask c).perform w.plain
    (answer, ⟨after.disk, (after.aside, w.log ++ [⟨c, answer⟩])⟩)

/-- The same workplace, with the calls of version control on record. -/
def Workplace.recorded (p : Workplace γ) : Workplace (γ × List Record) where
  toMachine := p.toMachine
  settings := p.settings
  git := recordedGit p.git

theorem recordedGit_records (git : Git (World γ)) : (recordedGit git).Records World.log :=
  fun _ _ => rfl

/-- Both actions come to the same, and leave the same world beside the log. -/
def Mirrors {α : Type} (watched : Action (World (γ × List Record)) α)
    (act : Action (World γ) α) : Prop :=
  ∀ w, act.perform w.plain = ((watched.perform w).1, (watched.perform w).2.plain)

private theorem mirrors_ofExcept {α : Type} (result : Except Failure α) :
    Mirrors (γ := γ) (Action.ofExcept result) (Action.ofExcept result) :=
  fun _ => rfl

private theorem mirrors_ask (git : Git (World γ)) (c : Git.Call) :
    Mirrors ((recordedGit git).ask c) (git.ask c) :=
  fun _ => rfl

private theorem mirrors_onDisk {α : Type} (act : Action Disk α) :
    Mirrors (γ := γ) (World.onDisk act) (World.onDisk act) :=
  fun _ => rfl

private theorem Mirrors.bind {α β : Type} {watched : Action (World (γ × List Record)) α}
    {act : Action (World γ) α} {next' : α → Action (World (γ × List Record)) β}
    {next : α → Action (World γ) β} (first : Mirrors watched act)
    (later : ∀ a, Mirrors (next' a) (next a)) : Mirrors (watched >>= next') (act >>= next) :=
  Action.Mirrors.bind first later

private theorem mirrors_report {α : Type} (read : Disk → Except Failure α) (write : α → Value) :
    Mirrors (γ := γ) (report read write) (report read write) :=
  Mirrors.bind (fun _ => rfl) fun _ => mirrors_ofExcept (.ok _)

private theorem mirrors_commit (p : Workplace γ) (r : CommitRequest) :
    Mirrors (commit p.recorded r) (commit p r) :=
  (mirrors_ofExcept _).bind fun _ =>
    Mirrors.bind (Commit.create_mirrors (mirrors_ask p.git) _ _ _ _ _) fun _ =>
      mirrors_ofExcept (.ok _)

private theorem mirrors_showStatus (p : Workplace γ) :
    Mirrors (showStatus p.recorded) (showStatus p) :=
  (mirrors_ask p.git .status).bind fun _ => mirrors_ofExcept (.ok _)

/-- Two readings of a call fail alike, or give actions that mirror each other. -/
private def Agree (watched : Except Mismatch (Action (World (γ × List Record)) String))
    (act : Except Mismatch (Action (World γ) String)) : Prop :=
  match watched, act with
  | .ok watched, .ok act => Mirrors watched act
  | .error m', .error m => m' = m
  | _, _ => False

private theorem agree_bind {α : Type} (read : Except Mismatch α)
    {watched : α → Action (World (γ × List Record)) String} {act : α → Action (World γ) String}
    (each : ∀ a, Mirrors (watched a) (act a)) :
    Agree (do return watched (← read)) (do return act (← read)) := by
  cases read with
  | error m => exact rfl
  | ok a => exact each a

private theorem agree_action (t : Tool) (p : Workplace γ) (arguments : Value) :
    Agree (t.action p.recorded arguments) (t.action p arguments) := by
  cases t with
  | gitStatus => exact mirrors_showStatus p
  | gitCommit => exact agree_bind _ (mirrors_commit p)
  | findResource | detectController | migrationStatus | planMigration =>
    exact agree_bind _ fun _ => mirrors_report _ _
  | addField | generateMapper | scaffoldTypes | scaffoldIdentity | scaffoldController
    | scaffoldMock | scaffoldFixtures => exact agree_bind _ fun _ => mirrors_onDisk _

private theorem call_recorded (t : Tool) (p : Workplace γ) (arguments : Value)
    (w : World (γ × List Record)) :
    t.call p arguments w.plain =
      ((t.call p.recorded arguments w).1, (t.call p.recorded arguments w).2.plain) := by
  have agree := agree_action t p arguments
  unfold Tool.call
  generalize t.action p.recorded arguments = watched at agree ⊢
  generalize t.action p arguments = act at agree ⊢
  match watched, act with
  | .error m', .error m =>
    cases (show m' = m from agree)
    rfl
  | .ok watched, .ok act =>
    have same : act.perform w.plain = _ := agree w
    simp only [same]
  | .error _, .ok _ => exact agree.elim
  | .ok _, .error _ => exact agree.elim

private theorem answerCall_recorded (p : Workplace γ) (parameters : Option Value)
    (w : World (γ × List Record)) :
    answerCall p parameters w.plain = ((answerCall p.recorded parameters w).1,
      (answerCall p.recorded parameters w).2.plain) := by
  unfold answerCall
  cases readCall parameters with
  | error fault => rfl
  | ok named =>
    obtain ⟨t, arguments⟩ := named
    have same := call_recorded t p arguments w
    simp only [same]
    rcases t.call p.recorded arguments w with ⟨refusal | text, after⟩ <;> rfl

private theorem request_recorded (r : Request) (p : Workplace γ) (w : World (γ × List Record)) :
    r.answer p w.plain = ((r.answer p.recorded w).1, (r.answer p.recorded w).2.plain) := by
  unfold Request.answer
  split
  · rfl
  · rfl
  · exact answerCall_recorded p r.parameters w
  · rfl

theorem answer_recorded (p : Workplace γ) (line : ByteArray) (w : World (γ × List Record)) :
    answer p line w.plain =
      ((answer p.recorded line w).1, (answer p.recorded line w).2.plain) := by
  unfold answer
  cases Demand.ofLine line with
  | nothing => rfl
  | refused id fault => rfl
  | request r => simp only [request_recorded r p w]

/-- The recording changes neither the replies nor the world beside the log. -/
theorem serve_recorded (p : Workplace γ) (input : ByteArray) (w : World (γ × List Record)) :
    serve p input w.plain =
      ((serve p.recorded input w).1, (serve p.recorded input w).2.plain) := by
  unfold serve
  induction linesOf input.toList generalizing w with
  | nil => rfl
  | cons line lines ih => simp only [serveLines, answer_recorded p _ w, ih]

end ConnectorKit.Server
