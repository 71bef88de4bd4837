import ConnectorKit.Command.Run
import ConnectorKit.Proofs.Commit.Calls

/-!
The course of a commit: lookups of the identity, the adding of files, the commit. The calls are
made in that order up to the first failure, which is what the whole comes to.
-/

set_option autoImplicit false
set_option relaxedAutoImplicit false

namespace ConnectorKit.Commit

open Git (Call Record Performs)

/-- The calls of a commit that nothing stops. -/
def plannedCalls (author : Author) (message : String) (files : List String) : List Call :=
  .config "user.email" :: .config "user.name" :: (stageCalls files ++ [.commit message author])

/-- What the way to a commit comes to: the calls that it makes, and the outcome. -/
structure Course (author : Author) (conventional : Bool) (repository message : String)
    (files : List String) (calls : List Record) (outcome : Except Failure Unit) : Prop where
  /-- A message that is refused leads to no call. -/
  refused : ∀ f, checkMessage conventional message = .error f → calls = [] ∧ outcome = .error f
  /-- The calls are the first ones planned, each answered but the last. -/
  planned : calls.map Record.call <+: plannedCalls author message files
  answered : ∀ r ∈ calls.dropLast, r.answered = true
  /-- An identity other than the author's ends it behind the lookups. -/
  stranger : ∀ email name more, calls = lookups email name ++ more →
    identityOf email name ≠ author → more = [] ∧
      outcome = .error (.identityMismatch (identityOf email name) author repository)
  /-- A commit is the last call. -/
  last : ∀ r ∈ calls.dropLast, r.isCommit = false
  complete : outcome = .ok () → calls.map Record.call = plannedCalls author message files ∧
    ∀ r ∈ calls, r.answered = true
  /-- Only the answer to a commit is a success. -/
  committed : outcome = .ok () ↔ calls.getLast? = some ⟨.commit message author, .ok ()⟩
  /-- A failure is that of the first step that failed: the check of the message, the last call, or
  the identity that the lookups told. -/
  failed : ∀ f, outcome = .error f →
    checkMessage conventional message = .error f ∧ calls = [] ∨
    (∃ front c, calls = front ++ [⟨c, .error f⟩]) ∨
    ∃ email name, calls = lookups email name ∧ identityOf email name ≠ author ∧
      f = .identityMismatch (identityOf email name) author repository

section Course

variable {author : Author} {conventional : Bool} {repository message : String}
  {files : List String} {calls : List Record} {outcome : Except Failure Unit}

private theorem Lookup.first (h : Lookup author repository calls outcome) :
    calls.map Record.call <+: [.config "user.email", .config "user.name"] ∧
      ∀ r ∈ calls.dropLast, r.answered = true := by
  cases h <;> simp [lookups, Record.answered, Except.isOk, Except.toBool]

namespace Attempt

variable (h : Attempt author conventional repository message files calls outcome)
include h

theorem planned_first : calls.map Record.call <+: plannedCalls author message files := by
  cases h with
  | refused => exact List.nil_prefix
  | unverified _ looked => exact looked.first.1.trans (List.prefix_append _ _)
  | carried _ looked performed =>
    cases looked
    exact List.cons_prefix_cons.2 ⟨rfl, List.cons_prefix_cons.2 ⟨rfl, performed.planned_first⟩⟩

theorem answered : ∀ r ∈ calls.dropLast, r.answered = true := by
  cases h with
  | refused => exact nofun
  | unverified _ looked => exact looked.first.2
  | @carried looked made _ _ found performed =>
    have first : ∀ r ∈ looked, r.answered = true := by
      cases found
      simp [lookups, Record.answered, Except.isOk, Except.toBool]
    rcases performed.ending with ⟨-, -, each⟩ | ⟨front, c, f, rfl, -, each⟩
    · intro r mem
      exact List.forall_mem_append.2 ⟨first, each⟩ r (List.mem_of_mem_dropLast mem)
    · rw [← List.append_assoc, List.dropLast_concat]
      exact List.forall_mem_append.2 ⟨first, each⟩

theorem stranger (email name : Option String) (more : List Record)
    (told : calls = lookups email name ++ more) (other : identityOf email name ≠ author) :
    more = [] ∧
      outcome = .error (.identityMismatch (identityOf email name) author repository) := by
  cases h with
  | refused => cases told
  | unverified _ looked =>
    cases looked with
    | emailFailed => cases told
    | nameFailed => cases told
    | stranger =>
      cases told
      exact ⟨rfl, rfl⟩
  | carried _ looked =>
    cases looked with
    | met same =>
      cases told
      exact absurd same other

theorem last : ∀ r ∈ calls.dropLast, r.isCommit = false := by
  intro r mem
  refine Bool.eq_false_iff.2 fun commits => ?_
  obtain ⟨email, name, staged, answer, -, -, whole, others⟩ :=
    h.commit_last (List.mem_of_mem_dropLast mem) commits
  rw [whole, List.dropLast_concat] at mem
  have quiet : r.isCommit = false := by
    rcases List.mem_append.1 mem with looked | inner
    · simp only [lookups, List.mem_cons, List.not_mem_nil, or_false] at looked
      rcases looked with rfl | rfl <;> rfl
    · exact others r inner
  rw [quiet] at commits
  cases commits

theorem failed (f : Failure) (stopped : outcome = .error f) :
    checkMessage conventional message = .error f ∧ calls = [] ∨
    (∃ front c, calls = front ++ [⟨c, .error f⟩]) ∨
    ∃ email name, calls = lookups email name ∧ identityOf email name ≠ author ∧
      f = .identityMismatch (identityOf email name) author repository := by
  subst stopped
  cases h with
  | refused told => exact .inl ⟨told, rfl⟩
  | unverified _ looked =>
    cases looked with
    | emailFailed => exact .inr (.inl ⟨[], _, rfl⟩)
    | nameFailed => exact .inr (.inl ⟨[_], _, rfl⟩)
    | stranger other => exact .inr (.inr ⟨_, _, rfl, other, rfl⟩)
  | @carried looked _ _ _ _ performed =>
    rcases performed.ending with ⟨went, -⟩ | ⟨front, c, _, rfl, ⟨⟩, -⟩
    · cases went
    · exact .inr (.inl ⟨looked ++ front, c, (List.append_assoc looked front _).symm⟩)

theorem complete (went : outcome = .ok ()) :
    calls.map Record.call = plannedCalls author message files ∧ ∀ r ∈ calls, r.answered = true := by
  subst went
  cases h with
  | carried _ looked performed =>
    cases looked
    rcases performed.ending with ⟨-, all, each⟩ | ⟨_, _, _, -, ⟨⟩, -⟩
    refine ⟨congrArg (_ :: _ :: ·) all, ?_⟩
    exact List.forall_mem_cons.2 ⟨rfl, List.forall_mem_cons.2 ⟨rfl, each⟩⟩

theorem committed :
    outcome = .ok () ↔ calls.getLast? = some ⟨.commit message author, .ok ()⟩ := by
  constructor
  · intro went
    obtain ⟨all, each⟩ := h.complete went
    obtain ⟨front, back, rfl, -, ended⟩ := List.map_eq_append_iff.1
      (show calls.map Record.call = (_ :: _ :: stageCalls files) ++ [.commit message author] from all)
    obtain ⟨⟨call, answer⟩, rfl, same⟩ := List.map_eq_singleton_iff.1 ended
    obtain rfl : call = .commit message author := same
    cases answer with
    | error f => exact absurd (each _ (List.mem_append_right _ List.mem_cons_self)) nofun
    | ok _ => exact List.getLast?_concat
  · intro ended
    cases stopped : outcome with
    | ok _ => rfl
    | error f =>
      rcases h.failed f stopped with ⟨-, rfl⟩ | ⟨front, c, rfl⟩ | ⟨email, name, rfl, -⟩
      · cases ended
      · rw [List.getLast?_concat] at ended
        cases ended
      · cases ended

theorem called_iff : calls ≠ [] ↔ checkMessage conventional message = .ok () := by
  refine ⟨h.checked, fun passed none => ?_⟩
  cases h with
  | refused told =>
    rw [passed] at told
    cases told
  | unverified _ looked => cases looked <;> cases none
  | carried _ looked =>
    cases looked
    cases none

theorem course : Course author conventional repository message files calls outcome where
  refused f told := by
    cases h with
    | refused told' =>
      rw [told'] at told
      cases told
      exact ⟨rfl, rfl⟩
    | unverified passed =>
      rw [passed] at told
      cases told
    | carried passed =>
      rw [passed] at told
      cases told
  planned := h.planned_first
  answered := h.answered
  stranger := h.stranger
  last := h.last
  complete := h.complete
  committed := h.committed
  failed := h.failed

end Attempt

end Course

/-- Whatever version control answers, a commit takes its course; a message is accepted on the
command line just where it would lead to a call. -/
theorem calls_end_at_the_first_failure {ω : Type} (git : Git ω) (settings : Settings)
    (repository message : String) (files : List String) (w : ω) :
    ∃ calls outcome after,
      (create git.recorded settings.author settings.conventional repository message files).perform
        (w, []) = (outcome, (after, calls)) ∧
      (create git settings.author settings.conventional repository message files).perform w =
        (outcome, after) ∧
      Course settings.author settings.conventional repository message files calls outcome ∧
      ∀ json machine input d,
        ((Command.Task.checkMessage message).run settings json machine input d).1.code = 0 ↔
          calls ≠ [] := by
  obtain ⟨calls, logged, attempt⟩ := create_logs git.recorded_records settings.author
    settings.conventional repository message files (w, [])
  have mirrored := create_mirrors git.recorded_mirrors settings.author settings.conventional
    repository message files (w, [])
  rcases ran : (create git.recorded settings.author settings.conventional repository message
    files).perform (w, []) with ⟨outcome, after, log⟩
  rw [ran] at logged attempt mirrored
  obtain rfl : log = calls := logged
  refine ⟨_, _, after, rfl, mirrored, attempt.course, fun _ _ _ _ => ?_⟩
  rw [attempt.called_iff]
  cases checked : checkMessage settings.conventional message with
  | ok _ => simp [Command.Task.run, Command.messageExit, checked, Command.Exit.success]
  | error f => simp [Command.Task.run, Command.messageExit, checked, Command.Exit.failure]

end ConnectorKit.Commit
