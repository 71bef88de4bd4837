import ConnectorKit.Git.Basic
import ConnectorKit.Proofs.Basic

/-!
Calls of version control on record. A log is any part of the world that each call is added to; what
an action adds to it is told by laws for the parts of an action. A whole row of calls is carried out
up to the first that fails. A watched action mirrors another one that does the same without the log.
-/

set_option autoImplicit false
set_option relaxedAutoImplicit false

namespace ConnectorKit

namespace Git

/-- A call with what it answered. -/
structure Record where
  call : Call
  answer : Except Failure call.Answer

/-- Whether a commit was asked for. -/
def Record.isCommit (r : Record) : Bool :=
  match r.call with
  | .commit _ _ => true
  | _ => false

/-- The call was answered, and not with a failure. -/
def Record.answered (r : Record) : Bool :=
  r.answer.isOk

/-- Each call is added to the log with its answer. -/
def Records {ω : Type} (git : Git ω) (log : ω → List Record) : Prop :=
  ∀ c w, log ((git.ask c).perform w).2 = log w ++ [⟨c, ((git.ask c).perform w).1⟩]

/-- The same version control over a world with a log: each call is added to it with its answer. -/
def recorded {ω : Type} (git : Git ω) : Git (ω × List Record) where
  ask c := fun w =>
    let (answer, after) := (git.ask c).perform w.1
    (answer, (after, w.2 ++ [⟨c, answer⟩]))

theorem recorded_records {ω : Type} (git : Git ω) : git.recorded.Records Prod.snd :=
  fun _ _ => rfl

/-- Calls made in order, up to the first that fails. -/
inductive Performs : List Call → List Record → Except Failure Unit → Prop
  | done : Performs [] [] (.ok ())
  | failed {c : Call} {rest : List Call} {f : Failure} :
      Performs (c :: rest) [⟨c, .error f⟩] (.error f)
  | answered {c : Call} {rest : List Call} {a : c.Answer} {calls : List Record}
      {outcome : Except Failure Unit} :
      Performs rest calls outcome → Performs (c :: rest) (⟨c, .ok a⟩ :: calls) outcome

theorem Performs.planned_first {planned : List Call} {calls : List Record}
    {outcome : Except Failure Unit} (h : Performs planned calls outcome) :
    calls.map Record.call <+: planned := by
  induction h with
  | done => exact List.prefix_rfl
  | failed => exact List.cons_prefix_cons.2 ⟨rfl, List.nil_prefix⟩
  | answered _ ih => exact List.cons_prefix_cons.2 ⟨rfl, ih⟩

/-- Either all were made and answered, or the last one failed. -/
theorem Performs.ending {planned : List Call} {calls : List Record}
    {outcome : Except Failure Unit} (h : Performs planned calls outcome) :
    (outcome = .ok () ∧ calls.map Record.call = planned ∧ ∀ r ∈ calls, r.answered = true) ∨
      ∃ front c f, calls = front ++ [⟨c, .error f⟩] ∧ outcome = .error f ∧
        ∀ r ∈ front, r.answered = true := by
  induction h with
  | done => exact .inl ⟨rfl, rfl, nofun⟩
  | @failed c rest f => exact .inr ⟨[], c, f, rfl, rfl, nofun⟩
  | @answered c rest a calls outcome _ ih =>
    rcases ih with ⟨went, all, each⟩ | ⟨front, last, f, rfl, stopped, each⟩
    · exact .inl ⟨went, congrArg (c :: ·) all, List.forall_mem_cons.2 ⟨rfl, each⟩⟩
    · exact .inr ⟨⟨c, .ok a⟩ :: front, last, f, rfl, stopped, List.forall_mem_cons.2 ⟨rfl, each⟩⟩

theorem Performs.failed_append {planned more : List Call} {calls : List Record} {f : Failure}
    (h : Performs planned calls (.error f)) : Performs (planned ++ more) calls (.error f) := by
  generalize eq : (Except.error f : Except Failure Unit) = outcome at h
  induction h with
  | done => cases eq
  | failed => exact .failed
  | answered _ ih => exact .answered (ih eq)

theorem Performs.append {planned more : List Call} {calls later : List Record}
    {outcome : Except Failure Unit} (h : Performs planned calls (.ok ()))
    (rest : Performs more later outcome) : Performs (planned ++ more) (calls ++ later) outcome := by
  generalize eq : (Except.ok () : Except Failure Unit) = first at h
  induction h with
  | done => exact rest
  | failed => cases eq
  | answered _ ih => exact .answered (ih eq)

theorem Performs.split_last {planned : List Call} {last : Call} {calls : List Record}
    {outcome : Except Failure Unit} (h : Performs (planned ++ [last]) calls outcome) :
    (∀ r ∈ calls, r.call ∈ planned) ∨
      ∃ before answer, calls = before ++ [⟨last, answer⟩] ∧ ∀ r ∈ before, r.call ∈ planned := by
  induction planned generalizing calls with
  | nil =>
    cases h with
    | failed => exact .inr ⟨[], _, rfl, by simp⟩
    | answered rest =>
      cases rest
      exact .inr ⟨[], _, rfl, by simp⟩
  | cons c planned ih =>
    cases h with
    | failed => exact .inl (by simp)
    | answered rest =>
      rcases ih rest with inner | ⟨before, answer, rfl, inner⟩
      · refine .inl fun r mem => ?_
        rcases List.mem_cons.1 mem with rfl | mem
        · exact List.mem_cons_self
        · exact List.mem_cons_of_mem _ (inner r mem)
      · refine .inr ⟨_ :: before, answer, rfl, fun r mem => ?_⟩
        rcases List.mem_cons.1 mem with rfl | mem
        · exact List.mem_cons_self
        · exact List.mem_cons_of_mem _ (inner r mem)

end Git

namespace Action

open Git (Record)

variable {ω α β : Type}

/-- What an action adds to a log satisfies `post`, together with its outcome. -/
def Logs (log : ω → List Record) (act : Action ω α)
    (post : List Record → Except Failure α → Prop) : Prop :=
  ∀ w, ∃ calls, log (act.perform w).2 = log w ++ calls ∧ post calls (act.perform w).1

variable {log : ω → List Record}

theorem Logs.imp {act : Action ω α} {post wider : List Record → Except Failure α → Prop}
    (h : Logs log act post) (weaken : ∀ calls outcome, post calls outcome → wider calls outcome) :
    Logs log act wider := by
  intro w
  obtain ⟨calls, added, holds⟩ := h w
  exact ⟨calls, added, weaken _ _ holds⟩

theorem Logs.ofExcept (result : Except Failure α) :
    Logs log (Action.ofExcept result) fun calls outcome => calls = [] ∧ outcome = result :=
  fun _ => ⟨[], (List.append_nil _).symm, rfl, rfl⟩

theorem Logs.pure (a : α) :
    Logs log (Pure.pure a : Action ω α) fun calls outcome => calls = [] ∧ outcome = .ok a :=
  Logs.ofExcept (.ok a)

theorem Logs.throw (f : Failure) :
    Logs log (throw f : Action ω α) fun calls outcome => calls = [] ∧ outcome = .error f :=
  Logs.ofExcept (.error f)

theorem Logs.ask {git : Git ω} (records : git.Records log) (c : Git.Call) :
    Logs log (git.ask c) fun calls outcome => calls = [⟨c, outcome⟩] :=
  fun w => ⟨_, records c w, rfl⟩

theorem Logs.performs {git : Git ω} (records : git.Records log) (c : Git.Call) :
    Logs log (git.ask c) fun calls outcome =>
      Git.Performs [c] calls (outcome.map fun _ => ()) := by
  refine (Logs.ask records c).imp ?_
  rintro _ outcome rfl
  cases outcome with
  | error f => exact .failed
  | ok a => exact .answered .done

theorem Logs.of_silent {act : Action ω α} (silent : ∀ w, log (act.perform w).2 = log w) :
    Logs log act fun calls _ => calls = [] :=
  fun w => ⟨[], by rw [silent, List.append_nil], rfl⟩

theorem Logs.bind {act : Action ω α} {next : α → Action ω β}
    {first : List Record → Except Failure α → Prop}
    {second : α → List Record → Except Failure β → Prop}
    {post : List Record → Except Failure β → Prop}
    (ha : Logs log act first) (hn : ∀ a, Logs log (next a) (second a))
    (failed : ∀ calls f, first calls (.error f) → post calls (.error f))
    (went : ∀ calls a later outcome, first calls (.ok a) → second a later outcome →
      post (calls ++ later) outcome) :
    Logs log (act >>= next) post := by
  intro w
  obtain ⟨calls, added, holds⟩ := ha w
  rw [perform_bind]
  rcases result : act.perform w with ⟨f | a, w'⟩
  · rw [result] at added holds
    exact ⟨calls, added, failed _ _ holds⟩
  · rw [result] at added holds
    obtain ⟨later, more, after⟩ := hn a w'
    exact ⟨calls ++ later, by rw [more, added, List.append_assoc], went _ _ _ _ holds after⟩

theorem Logs.check {result : Except Failure α} {next : α → Action ω β}
    {post : List Record → Except Failure β → Prop}
    (failed : ∀ f, result = .error f → post [] (.error f))
    (passed : ∀ a, result = .ok a → Logs log (next a) post) :
    Logs log (Action.ofExcept result >>= next) post := by
  intro w
  rw [perform_bind]
  cases result with
  | error f => exact ⟨[], (List.append_nil _).symm, failed f rfl⟩
  | ok a => exact passed a rfl w

theorem Logs.forM {σ : Type} {call : σ → Git.Call} {act : σ → Action ω Unit}
    (made : ∀ s, Logs log (act s) (Git.Performs [call s])) (items : List σ) :
    Logs log (items.forM act) (Git.Performs (items.map call)) := by
  induction items with
  | nil =>
    refine (Logs.pure ()).imp ?_
    rintro _ _ ⟨rfl, rfl⟩
    exact .done
  | cons s items ih =>
    refine Logs.bind (made s) (fun _ => ih) ?_ ?_
    · intro calls f h
      exact h.failed_append
    · intro calls _ later outcome h rest
      exact h.append rest

section Mirrors

variable {σ : Type} {plain : σ → ω}

/-- Both actions come to the same, and leave the same world but for what `plain` leaves out. -/
def Mirrors (plain : σ → ω) (watched : Action σ α) (act : Action ω α) : Prop :=
  ∀ s, act.perform (plain s) = ((watched.perform s).1, plain (watched.perform s).2)

theorem Mirrors.ofExcept (result : Except Failure α) :
    Mirrors plain (Action.ofExcept result) (Action.ofExcept result) :=
  fun _ => rfl

theorem Mirrors.bind {watched : Action σ α} {act : Action ω α} {next' : α → Action σ β}
    {next : α → Action ω β} (first : Mirrors plain watched act)
    (later : ∀ a, Mirrors plain (next' a) (next a)) :
    Mirrors plain (watched >>= next') (act >>= next) := by
  intro s
  rw [perform_bind, perform_bind, first s]
  rcases watched.perform s with ⟨f | a, after⟩
  · rfl
  · exact later a after

theorem Mirrors.forM {ι : Type} {act' : ι → Action σ Unit} {act : ι → Action ω Unit}
    (each : ∀ i, Mirrors plain (act' i) (act i)) (items : List ι) :
    Mirrors plain (items.forM act') (items.forM act) := by
  induction items with
  | nil => exact fun _ => rfl
  | cons i items ih => exact (each i).bind fun _ => ih

end Mirrors

end Action

theorem Git.recorded_mirrors {ω : Type} (git : Git ω) (c : Git.Call) :
    Action.Mirrors Prod.fst (git.recorded.ask c) (git.ask c) :=
  fun _ => rfl

end ConnectorKit
