import ConnectorKit.Proofs.Commit.Calls
import ConnectorKit.Proofs.Server.Recorded

/-!
No session makes a commit that was not checked. The calls of version control are cut into those of
each exchange; only two tools make any, and a commit is the last call of a request that gave its
message, after the checks and after the identity of the author was found.
-/

set_option autoImplicit false
set_option relaxedAutoImplicit false

namespace ConnectorKit.Server

open Commit (Admissible Attempt lookups identityOf)
open Git (Record)
open Json (Value)

variable {γ : Type}

/-- The calls that an exchange has added to the log. -/
def Exchange.calls (e : Exchange (γ × List Record)) : List Record :=
  e.after.log.drop e.before.log.length

/-- The message that the arguments of a commit give, by key or in the first place. -/
def messageOf? : Value → Option String
  | .object members => (members.lookup "message").bind Value.string?
  | .array (.string message :: _) => some message
  | _ => none

/-- What stands behind a commit that an exchange asked for. -/
structure Checked (p : Workplace γ) (e : Exchange (γ × List Record)) (message : String)
    (author : Author) (answer : Except Failure Unit) : Prop where
  /-- The commit is in the name of the configured author. -/
  named : author = p.settings.author
  /-- It is what the request asked for, and the request was answered. -/
  asked : ∃ id arguments result, Asks e.line id .gitCommit arguments ∧
    messageOf? arguments = some message ∧ e.reply = some ⟨id, .result result⟩
  admissible : Admissible p.settings.conventional message
  /-- It is the last call, and the lookups of the identity are the first two. -/
  verified : ∃ email name staged, identityOf email name = p.settings.author ∧
    e.calls = lookups email name ++ staged ++ [⟨.commit message author, answer⟩] ∧
    ∀ r ∈ staged, r.isCommit = false

/-- A line that calls may be made for: it asks for a tool, and for none but the status, or a commit
with a message that may be committed. -/
structure MayCall (conventional : Bool) (line : ByteArray) : Prop where
  asks : ∃ id t arguments, Asks line id t arguments
  only : ∀ id t arguments, Asks line id t arguments → t = .gitStatus ∨
    t = .gitCommit ∧ ∃ message, messageOf? arguments = some message ∧ Admissible conventional message

private theorem messageOf_read {arguments : Value} {r : CommitRequest}
    (h : readArguments Arguments.commit "CommitArgs" arguments = .ok r) :
    messageOf? arguments = some r.message := by
  have message {get : String → Option Value} (built : Arguments.commit.build get = .ok r) :
      get "message" = some (.string r.message) := by
    unfold Arguments.commit at built
    obtain ⟨_, ⟨_, found, rfl⟩, _, _, rfl⟩ := by
      simpa only [Json.Decoder.build_seq, Json.Decoder.build_map, Json.Decoder.build_text]
        using built
    exact found
  unfold readArguments at h
  split at h
  · obtain ⟨get, source, built⟩ := Json.Decoder.read_ok h
    cases source
    cases message built
  · obtain ⟨get, source, built⟩ := Json.Decoder.read_ok h
    have found := message built
    cases arguments with
    | object members =>
      cases source
      simp [messageOf?, found, Value.string?]
    | array items =>
      cases source
      cases items with
      | nil => cases found
      | cons first rest =>
        cases found
        rfl
    | _ => cases source

/-- The calls that a tool makes, together with its outcome. -/
private inductive Made (p : Workplace γ) (arguments : Value) :
    Tool → List Record → Except Failure String → Prop
  | silent {t : Tool} {outcome : Except Failure String} : Made p arguments t [] outcome
  | status {outcome : Except Failure String} (answer : Except Failure String) :
      Made p arguments .gitStatus [⟨.status, answer⟩] outcome
  | commit {r : CommitRequest} {calls : List Record} {outcome : Except Failure String} :
      messageOf? arguments = some r.message →
      Attempt p.settings.author p.settings.conventional p.root r.message r.files calls
        (outcome.map fun _ => ()) →
      Made p arguments .gitCommit calls outcome

private theorem commit_logs (p : Workplace γ) (r : CommitRequest) :
    (commit p.recorded r).Logs World.log fun calls outcome =>
      Attempt p.settings.author p.settings.conventional p.root r.message r.files calls
        (outcome.map fun _ => ()) := by
  unfold commit
  refine Action.Logs.check (fun f refused => .refused refused) fun _ _ => ?_
  refine Action.Logs.bind
    (Commit.create_logs (recordedGit_records p.git) _ _ _ _ _) (fun _ => Action.Logs.pure _) ?_ ?_
  · intro calls f attempt
    exact attempt
  · rintro calls _ _ _ attempt ⟨rfl, rfl⟩
    rw [List.append_nil]
    exact attempt

private theorem showStatus_logs (p : Workplace γ) (arguments : Value) :
    (showStatus p.recorded).Logs World.log (Made p arguments .gitStatus) := by
  refine Action.Logs.bind (Action.Logs.ask (recordedGit_records p.git) _)
    (fun _ => Action.Logs.pure _) ?_ ?_
  · rintro _ f rfl
    exact .status _
  · rintro _ text _ _ rfl ⟨rfl, rfl⟩
    exact .status _

private theorem silent_logs {p : Workplace γ} {arguments : Value} {t : Tool}
    {act : Action (World (γ × List Record)) String}
    (silent : ∀ w, (act.perform w).2.log = w.log) : act.Logs World.log (Made p arguments t) := by
  refine (Action.Logs.of_silent silent).imp ?_
  rintro _ outcome rfl
  exact .silent

private theorem report_silent {α : Type} (read : Disk → Except Failure α) (write : α → Value)
    (w : World (γ × List Record)) : ((report read write).perform w).2.log = w.log := by
  have inspected : (World.inspect read).perform w = (read w.disk, w) := rfl
  unfold report
  rw [Action.perform_bind, inspected]
  cases read w.disk <;> rfl

private theorem action_logs {p : Workplace γ} {t : Tool} {arguments : Value}
    {act : Action (World (γ × List Record)) String}
    (acted : t.action p.recorded arguments = .ok act) :
    act.Logs World.log (Made p arguments t) := by
  have reads {α : Type} {read : Except Json.Mismatch α}
      {next : α → Action (World (γ × List Record)) String}
      (h : (do return next (← read)) = Except.ok act)
      (each : ∀ a, read = .ok a → (next a).Logs World.log (Made p arguments t)) :
      act.Logs World.log (Made p arguments t) := by
    cases read with
    | error m => cases h
    | ok a =>
      cases h
      exact each a rfl
  cases t with
  | gitStatus =>
    cases acted
    exact showStatus_logs p arguments
  | gitCommit =>
    refine reads acted fun r read => (commit_logs p r).imp fun calls outcome attempt => ?_
    exact .commit (messageOf_read read) attempt
  | findResource | detectController | migrationStatus | planMigration =>
    exact reads acted fun a _ => silent_logs (report_silent _ _)
  | addField | generateMapper | scaffoldTypes | scaffoldIdentity | scaffoldController
    | scaffoldMock | scaffoldFixtures =>
    exact reads acted fun _ _ => silent_logs fun _ => rfl

private theorem exchange_made {p : Workplace γ} {input : ByteArray}
    {w : World (γ × List Record)} {e : Exchange (γ × List Record)}
    (mem : e ∈ session p.recorded input w) :
    e.after.log = e.before.log ++ e.calls ∧ (e.calls = [] ∨ ∃ id t arguments outcome,
      Asks e.line id t arguments ∧ Made p arguments t e.calls outcome ∧
        e.reply = some ⟨id, told outcome⟩) := by
  have answered := answer_of_mem mem
  unfold Exchange.calls
  rcases answer_cases p.recorded e.line e.before with idle | ⟨id, t, arguments, act, asks, acted, did⟩
  · rw [answered] at idle
    rw [show e.after = e.before from idle]
    simp
  · obtain ⟨calls, added, made⟩ := action_logs acted e.before
    rw [answered, Prod.mk.injEq] at did
    obtain ⟨replied, after⟩ := did
    rw [after, added, List.drop_left]
    exact ⟨rfl, .inr ⟨id, t, arguments, _, asks, made, replied⟩⟩

private theorem serveLines_log {p : Workplace (γ × List Record)} {lines : List (List UInt8)}
    {w : World (γ × List Record)}
    (grows : ∀ e ∈ exchanges p lines w, e.after.log = e.before.log ++ e.calls) :
    (serveLines p lines w).2.log = w.log ++ (exchanges p lines w).flatMap Exchange.calls := by
  induction lines generalizing w with
  | nil => exact (List.append_nil _).symm
  | cons line lines ih =>
    have later : (serveLines p lines (answer p ⟨line.toArray⟩ w).2).2.log = _ :=
      ih fun e mem => grows e (List.mem_cons_of_mem _ mem)
    simp only [exchanges, serveLines, List.flatMap_cons]
    rw [later, ← List.append_assoc]
    congr 1
    exact grows _ List.mem_cons_self

private theorem mayCall_of_made {p : Workplace γ} {line : ByteArray} {id arguments : Value}
    {t : Tool} {calls : List Record} {outcome : Except Failure String}
    (asks : Asks line id t arguments) (made : Made p arguments t calls outcome)
    (called : calls ≠ []) : MayCall p.settings.conventional line := by
  refine ⟨⟨id, t, arguments, asks⟩, fun id' t' arguments' asks' => ?_⟩
  obtain ⟨-, rfl, rfl⟩ := asks.unique asks'
  cases made with
  | silent => exact absurd rfl called
  | status => exact .inl rfl
  | commit read attempt =>
    have passed := attempt.checked called
    exact .inr ⟨rfl, _, read, Commit.checkMessage_ok_iff.1 passed⟩

private theorem checked_of_made {p : Workplace γ} {e : Exchange (γ × List Record)}
    {id arguments : Value} {t : Tool} {outcome : Except Failure String}
    (asks : Asks e.line id t arguments) (made : Made p arguments t e.calls outcome)
    (replied : e.reply = some ⟨id, told outcome⟩) {message : String} {author : Author}
    {answer : Except Failure Unit} (mem : ⟨.commit message author, answer⟩ ∈ e.calls) :
    Checked p e message author answer := by
  generalize trace : e.calls = calls at made mem
  cases made with
  | silent => cases mem
  | status =>
    have same := congrArg Record.isCommit (List.mem_singleton.1 mem)
    cases same
  | commit read attempt =>
    obtain ⟨email, name, staged, _, same, sealed, split, before⟩ := attempt.commit_last mem rfl
    have passed := attempt.checked (List.ne_nil_of_mem mem)
    cases sealed
    refine ⟨rfl, ?_, Commit.checkMessage_ok_iff.1 passed, ?_⟩
    · cases outcome with
      | ok text => exact ⟨id, arguments, _, asks, read, replied⟩
      | error f => exact ⟨id, arguments, _, asks, read, replied⟩
    · exact ⟨email, name, staged, same, trace.trans split, before⟩

/-- Every session, on every input and with any version control: the calls on record are those of
its exchanges, each made for a status or for a message that may be committed, and each commit was
checked. -/
theorem session_commits_checked (p : Workplace γ) (input : ByteArray) (w : World γ) :
    let watched := session p.recorded input w.opened
    let last := (serve p.recorded input w.opened).2
    serve p input w = (watched.filterMap (·.reply), last.plain) ∧
      last.log = watched.flatMap Exchange.calls ∧
      ∀ e ∈ watched, (e.calls ≠ [] → MayCall p.settings.conventional e.line) ∧
        ∀ message author answer, ⟨.commit message author, answer⟩ ∈ e.calls →
          Checked p e message author answer := by
  refine ⟨?_, serveLines_log fun e mem => (exchange_made mem).1, fun e mem => ?_⟩
  · rw [← serve_replies]
    exact serve_recorded p input w.opened
  · rcases (exchange_made mem).2 with quiet | ⟨id, t, arguments, outcome, asks, made, replied⟩
    · rw [quiet]
      exact ⟨fun called => absurd rfl called, nofun⟩
    · exact ⟨mayCall_of_made asks made, fun _ _ _ => checked_of_made asks made replied⟩

/-- Whether the call looked a setting up and was told exactly the value. -/
def tells (key value : String) : Record → Bool
  | ⟨.config asked, .ok (some found)⟩ => asked = key && found = value
  | _ => false

/-- A workplace whose author has neither name nor email; version control knows no settings, and
grants everything else. -/
def nameless : Workplace Unit where
  run := fun _ d => (.error .missing, d)
  engine := .unlimited
  settings := ⟨⟨"", ""⟩, "/repo", true⟩
  git := {
    ask := fun
      | .config _ => fun w => (.ok none, w)
      | .add _ => fun w => (.ok (), w)
      | .addAll => fun w => (.ok (), w)
      | .commit _ _ => fun w => (.ok (), w)
      | .status => fun w => (.ok "", w) }
  environment := []
  year := 2026

def emptyWorld : World Unit :=
  ⟨⟨Disk.Tree.empty, []⟩, ()⟩

def commitLine : String :=
  "\x7b\"jsonrpc\":\"2.0\",\"id\":1,\"method\":\"tools/call\",\"params\":" ++
  "\x7b\"name\":\"kcc_git_commit\",\"arguments\":\x7b\"message\":\"fix: typo\"\x7d\x7d\x7d\n"

/-- Settings that are not set pass for the empty texts of the author, so a commit may be made where
no lookup told the configured values. -/
theorem commit_after_unset_identity :
    ∃ e ∈ session nameless.recorded commitLine.toUTF8 emptyWorld.opened,
      e.calls.any (·.isCommit) = true ∧
        e.calls.any (tells "user.email" nameless.settings.author.email) = false ∧
        e.calls.any (tells "user.name" nameless.settings.author.name) = false := by
  decide +kernel

end ConnectorKit.Server
