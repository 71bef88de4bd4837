import ConnectorKit.Commit.Gate
import ConnectorKit.Proofs.Commit.Policy
import ConnectorKit.Proofs.Git.Record

/-!
The calls on the way to a commit. Every way it can go is a case of `Attempt`; a commit is asked for
once at most, last of all, after a checked message and the author's own identity.
-/

set_option autoImplicit false
set_option relaxedAutoImplicit false

namespace ConnectorKit.Commit

open Git (Call Record Performs)

/-- The calls that add files, or every change where none is named. -/
def stageCalls (files : List String) : List Call :=
  if files.isEmpty then [.addAll] else files.map .add

/-- The identity that two lookups tell; what is not set counts as empty. -/
def identityOf (email name : Option String) : Author :=
  ⟨name.getD "", email.getD ""⟩

/-- The two lookups of an identity, both answered. -/
def lookups (email name : Option String) : List Record :=
  [⟨.config "user.email", .ok email⟩, ⟨.config "user.name", .ok name⟩]

/-- How the lookup of an identity can go: the calls that are made, and what it comes to. -/
inductive Lookup (author : Author) (repository : String) :
    List Record → Except Failure Unit → Prop
  | emailFailed {f : Failure} :
      Lookup author repository [⟨.config "user.email", .error f⟩] (.error f)
  | nameFailed {email : Option String} {f : Failure} :
      Lookup author repository
        [⟨.config "user.email", .ok email⟩, ⟨.config "user.name", .error f⟩] (.error f)
  | stranger {email name : Option String} : identityOf email name ≠ author →
      Lookup author repository (lookups email name)
        (.error (.identityMismatch (identityOf email name) author repository))
  | met {email name : Option String} : identityOf email name = author →
      Lookup author repository (lookups email name) (.ok ())

/-- How the way to a commit can go. -/
inductive Attempt (author : Author) (conventional : Bool) (repository message : String)
    (files : List String) : List Record → Except Failure Unit → Prop
  | refused {f : Failure} : checkMessage conventional message = .error f →
      Attempt author conventional repository message files [] (.error f)
  | unverified {calls : List Record} {f : Failure} :
      checkMessage conventional message = .ok () → Lookup author repository calls (.error f) →
      Attempt author conventional repository message files calls (.error f)
  | carried {looked calls : List Record} {outcome : Except Failure Unit} :
      checkMessage conventional message = .ok () → Lookup author repository looked (.ok ()) →
      Performs (stageCalls files ++ [.commit message author]) calls outcome →
      Attempt author conventional repository message files (looked ++ calls) outcome

private theorem Lookup.not_commit {author : Author} {repository : String} {calls : List Record}
    {outcome : Except Failure Unit} (h : Lookup author repository calls outcome) :
    ∀ r ∈ calls, r.isCommit = false := by
  cases h <;> simp [lookups, Record.isCommit]

private theorem stageCalls_not_commit {files : List String} {r : Record}
    (mem : r.call ∈ stageCalls files) : r.isCommit = false := by
  unfold stageCalls at mem
  split at mem
  · simp_all [Record.isCommit]
  · obtain ⟨file, -, made⟩ := List.mem_map.1 mem
    simp [Record.isCommit, ← made]

section Attempt

variable {author : Author} {conventional : Bool} {repository message : String}
  {files : List String} {calls : List Record} {outcome : Except Failure Unit}

theorem Attempt.checked (h : Attempt author conventional repository message files calls outcome)
    (called : calls ≠ []) : checkMessage conventional message = .ok () := by
  cases h with
  | refused => exact absurd rfl called
  | unverified passed => exact passed
  | carried passed => exact passed

theorem Attempt.commit_last
    (h : Attempt author conventional repository message files calls outcome) {r : Record}
    (mem : r ∈ calls) (commits : r.isCommit = true) :
    ∃ email name staged answer, identityOf email name = author ∧
      r = ⟨.commit message author, answer⟩ ∧ calls = lookups email name ++ staged ++ [r] ∧
      ∀ s ∈ staged, s.isCommit = false := by
  have other {s : Record} (quiet : s.isCommit = false) (same : r = s) : False := by
    rw [same, quiet] at commits
    cases commits
  cases h with
  | refused => cases mem
  | unverified _ looked => exact (other (looked.not_commit r mem) rfl).elim
  | @carried looked made _ _ found performed =>
    rcases List.mem_append.1 mem with early | late
    · exact (other (found.not_commit r early) rfl).elim
    · cases found with
      | @met email name same =>
        rcases performed.split_last with stopped | ⟨staged, answer, rfl, before⟩
        · exact (other (stageCalls_not_commit (stopped r late)) rfl).elim
        · rcases List.mem_append.1 late with inner | last
          · exact (other (stageCalls_not_commit (before r inner)) rfl).elim
          · obtain rfl := List.mem_singleton.1 last
            exact ⟨email, name, staged, answer, same, rfl, (List.append_assoc ..).symm,
              fun s inner => stageCalls_not_commit (before s inner)⟩

end Attempt

variable {ω : Type} {log : ω → List Record} {git : Git ω}

theorem verifyIdentity_logs (records : git.Records log) (author : Author) (repository : String) :
    (verifyIdentity git author repository).Logs log (Lookup author repository) := by
  have settled (email name : Option String) : Action.Logs log
      (if identityOf email name = author then pure ()
        else throw (.identityMismatch (identityOf email name) author repository))
      fun calls outcome => Lookup author repository (lookups email name ++ calls) outcome := by
    split
    · rename_i same
      refine (Action.Logs.pure ()).imp ?_
      rintro _ _ ⟨rfl, rfl⟩
      exact .met same
    · rename_i other
      refine (Action.Logs.throw _).imp ?_
      rintro _ _ ⟨rfl, rfl⟩
      exact .stranger other
  have named (email : Option String) : Action.Logs log (do
      let name ← git.ask (.config "user.name")
      if identityOf email name = author then return ()
      else throw (.identityMismatch (identityOf email name) author repository))
      fun calls outcome =>
        Lookup author repository (⟨.config "user.email", .ok email⟩ :: calls) outcome := by
    refine (Action.Logs.ask records _).bind (settled email) ?_ ?_
    · rintro _ f rfl
      exact .nameFailed
    · rintro _ name later outcome rfl h
      exact h
  refine (Action.Logs.ask records _).bind named ?_ ?_
  · rintro _ f rfl
    exact .emailFailed
  · rintro _ email later outcome rfl h
    exact h

private theorem map_unit (outcome : Except Failure Unit) : outcome.map (fun _ => ()) = outcome := by
  cases outcome <;> rfl

theorem stage_logs (records : git.Records log) (files : List String) :
    (stage git files).Logs log (Performs (stageCalls files)) := by
  unfold stage stageCalls
  split
  · simpa only [map_unit] using Action.Logs.performs records .addAll
  · refine Action.Logs.forM (fun file => ?_) files
    simpa only [map_unit] using Action.Logs.performs records (.add file)

theorem create_logs (records : git.Records log) (author : Author) (conventional : Bool)
    (repository message : String) (files : List String) :
    (create git author conventional repository message files).Logs log
      (Attempt author conventional repository message files) := by
  have commits : Action.Logs log (do
      stage git files
      git.ask (.commit message author))
      (Performs (stageCalls files ++ [.commit message author])) := by
    refine (stage_logs records files).bind
      (fun _ => by simpa only [map_unit] using
        Action.Logs.performs records (.commit message author)) ?_ ?_
    · intro calls f h
      exact h.failed_append
    · intro calls _ later outcome h rest
      exact h.append rest
  have verified (passed : checkMessage conventional message = .ok ()) : Action.Logs log (do
      verifyIdentity git author repository
      stage git files
      git.ask (.commit message author))
      (Attempt author conventional repository message files) := by
    refine (verifyIdentity_logs records author repository).bind (fun _ => commits) ?_ ?_
    · intro calls f h
      exact .unverified passed h
    · intro calls _ later outcome h rest
      exact .carried passed h rest
  refine Action.Logs.check (fun f terms => .refused ?_) fun _ terms =>
    Action.Logs.check (fun f form => .refused ?_) fun _ form => verified ?_
  · simp [checkMessage, terms, bind, Except.bind]
  · simp [checkMessage, terms, form, bind, Except.bind]
  · simp [checkMessage, terms, form, bind, Except.bind]

section Mirrors

variable {ω σ : Type} {plain : σ → ω} {watched : Git σ} {git : Git ω}

/-- With a version control that mirrors another one, the way to a commit mirrors its way. -/
theorem create_mirrors (mirrors : ∀ c, Action.Mirrors plain (watched.ask c) (git.ask c))
    (author : Author) (conventional : Bool) (repository message : String) (files : List String) :
    Action.Mirrors plain (create watched author conventional repository message files)
      (create git author conventional repository message files) := by
  have verified : Action.Mirrors plain (verifyIdentity watched author repository)
      (verifyIdentity git author repository) := by
    refine (mirrors _).bind fun email => (mirrors _).bind fun name => ?_
    dsimp only
    split
    · exact .ofExcept (.ok ())
    · exact .ofExcept (.error _)
  have staged : Action.Mirrors plain (stage watched files) (stage git files) := by
    unfold stage
    split
    · exact mirrors .addAll
    · exact .forM (fun file => mirrors (.add file)) files
  refine (Action.Mirrors.ofExcept _).bind fun _ => (Action.Mirrors.ofExcept _).bind fun _ => ?_
  exact verified.bind fun _ => staged.bind fun _ => mirrors (.commit message author)

end Mirrors

end ConnectorKit.Commit
