import ConnectorKit.Proofs.Commit.Calls
import ConnectorKit.Proofs.Text.Blank
import ConnectorKit.Proofs.Text.Utf8
import ConnectorKit.Settings.Resolve

/-!
The identity of a repository as the program tells it, against the one that the settings give. The
settings keep a value as its source has it, and what the program writes is trimmed; so a repository
that is set up with the configured author passes just where neither value has blanks at its ends.
-/

set_option autoImplicit false
set_option relaxedAutoImplicit false

namespace ConnectorKit

namespace Git

variable {run : Process.Runner} {environment : Environment} {repository : String} {c : Call}
  {d d' : Disk} {o : Process.Outcome}

/-- The program on the search path, whatever it is, ends the call in this way and leaves that disk. -/
def Ends (run : Process.Runner) (environment : Environment) (repository : String) (c : Call)
    (d : Disk) (o : Process.Outcome) (d' : Disk) : Prop :=
  ∃ program, program? d environment "git" = some program ∧
    run ⟨program, c.arguments, repository, c.environment ++ environment⟩ d = (.ok o, d')

theorem Ends.perform (ends : Ends run environment repository c d o d') :
    ((commandLine run environment repository).ask c).perform d = (readAnswer c o, d') := by
  obtain ⟨program, found, ran⟩ := ends
  simp [commandLine, Action.perform, found, ran]

/-- The two ends of a lookup that answer it: the value was written, or it is not set. -/
def Answered (o : Process.Outcome) : Prop :=
  o.code = some 0 ∨ o.code = some 1

/-- What a lookup tells. A value is trimmed, and one that is not set counts as empty. -/
def told (o : Process.Outcome) : String :=
  if o.code = some 0 then Text.Blank.trim o.outputText else ""

theorem told_of_unset (unset : o.code = some 1) : told o = "" :=
  if_neg (by simp [unset])

theorem readSetting_told (answered : Answered o) :
    ∃ value, readSetting c o = .ok value ∧ value.getD "" = told o := by
  unfold readSetting told
  rcases answered with zero | one
  · rw [zero]
    exact ⟨_, rfl, Text.Blank.getD_filled?_trim o.outputText⟩
  · rw [one]
    exact ⟨none, rfl, rfl⟩

/-- The value was written as it is, with a line feed behind it. -/
structure Writes (o : Process.Outcome) (value : String) : Prop where
  code : o.code = some 0
  output : o.output = (value ++ "\n").toUTF8

namespace Writes

variable {value : String}

theorem answered (writes : Writes o value) : Answered o :=
  .inl writes.code

theorem told_eq (writes : Writes o value) : told o = Text.Blank.trim value := by
  rw [told, if_pos writes.code, Process.Outcome.outputText, writes.output, Text.Utf8.read_toUTF8,
    Text.Blank.trim_append_lineFeed]

end Writes

end Git

namespace Commit

open Git (Answered Ends Writes commandLine told)
open Text.Blank (Bare trim)

variable {run : Process.Runner} {environment : Environment} {repository place : String}
  {author : Author} {d d₁ d₂ : Disk} {email name : Process.Outcome}

theorem verifyIdentity_perform
    (first : Ends run environment repository (.config "user.email") d email d₁)
    (second : Ends run environment repository (.config "user.name") d₁ name d₂)
    (answered : Answered email) (answered' : Answered name) :
    (verifyIdentity (commandLine run environment repository) author place).perform d =
      (if ⟨told name, told email⟩ = author then .ok ()
        else .error (.identityMismatch ⟨told name, told email⟩ author place), d₂) := by
  obtain ⟨value, read, given⟩ := Git.readSetting_told (c := .config "user.email") answered
  obtain ⟨value', read', given'⟩ := Git.readSetting_told (c := .config "user.name") answered'
  have asked : Git.readAnswer (.config "user.email") email = .ok value := read
  have asked' : Git.readAnswer (.config "user.name") name = .ok value' := read'
  unfold verifyIdentity
  rw [Action.perform_bind, first.perform, asked]
  dsimp only
  rw [Action.perform_bind, second.perform, asked', given]
  dsimp only
  rw [given']
  split <;> rfl

section Resolved

variable {source git : Settings.Source} {file : Settings.File} {settings : Settings}

theorem author_of_resolve (resolved : Settings.resolve source file git = .ok settings) :
    Settings.firstFilled [source Settings.nameKey, file.authorName, git "user.name"] =
        some settings.author.name ∧
      Settings.firstFilled [source Settings.emailKey, file.authorEmail, git "user.email"] =
        some settings.author.email := by
  unfold Settings.resolve at resolved
  split at resolved
  · rename_i named mailed _
    cases resolved
    exact ⟨named, mailed⟩
  · cases resolved
  · cases resolved

theorem ne_empty_of_firstFilled {values : List (Option String)} {value : String}
    (first : Settings.firstFilled values = some value) : value ≠ "" := by
  rintro rfl
  obtain ⟨given, -, filled⟩ := List.exists_of_findSome?_eq_some first
  obtain ⟨text, -, kept⟩ := Option.bind_eq_some_iff.1 filled
  unfold Text.Blank.filled? at kept
  split at kept
  · cases kept
  · rename_i inked
    cases kept
    exact inked rfl

/-- A repository whose program writes just the configured name and email passes the check exactly
where neither has blanks at its ends, and otherwise it is told to be a stranger's. One whose program
tells another value for either, or that it is not set, is told so as well. -/
theorem verifyIdentity_iff_bare (resolved : Settings.resolve source file git = .ok settings)
    (first : Ends run environment repository (.config "user.email") d email d₁)
    (second : Ends run environment repository (.config "user.name") d₁ name d₂) :
    let author := settings.author
    let outcome := (verifyIdentity (commandLine run environment repository) author place).perform d
    (Settings.firstFilled [source Settings.nameKey, file.authorName, git "user.name"] =
        some author.name ∧
      Settings.firstFilled [source Settings.emailKey, file.authorEmail, git "user.email"] =
        some author.email) ∧
    (Writes name author.name → Writes email author.email →
      (outcome = (.ok (), d₂) ↔ Bare author.name ∧ Bare author.email) ∧
      (¬ (Bare author.name ∧ Bare author.email) → outcome =
        (.error (.identityMismatch ⟨trim author.name, trim author.email⟩ author place), d₂))) ∧
    (Answered email → Answered name →
      name.code = some 1 ∨ email.code = some 1 ∨ told name ≠ author.name ∨
        told email ≠ author.email →
      outcome = (.error (.identityMismatch ⟨told name, told email⟩ author place), d₂)) := by
  dsimp only
  have given := author_of_resolve resolved
  refine ⟨given, fun named mailed => ?_, fun answered answered' other => ?_⟩
  · have whole : (⟨trim settings.author.name, trim settings.author.email⟩ : Author) =
        settings.author ↔ Bare settings.author.name ∧ Bare settings.author.email := by
      rw [← Text.Blank.trim_eq_self_iff, ← Text.Blank.trim_eq_self_iff]
      exact Author.mk.injEq .. ▸ Iff.rfl
    rw [verifyIdentity_perform first second mailed.answered named.answered, named.told_eq,
      mailed.told_eq]
    refine ⟨?_, fun blank => by rw [if_neg fun same => blank (whole.1 same)]⟩
    rw [← whole]
    split
    · rename_i same
      exact iff_of_true rfl same
    · rename_i other
      exact iff_of_false nofun other
  · have named := ne_empty_of_firstFilled given.1
    have mailed := ne_empty_of_firstFilled given.2
    have stranger : (⟨told name, told email⟩ : Author) ≠ settings.author := by
      intro same
      rw [← same] at other named mailed
      rcases other with unset | unset | other | other
      · exact named (Git.told_of_unset unset)
      · exact mailed (Git.told_of_unset unset)
      · exact other rfl
      · exact other rfl
    rw [verifyIdentity_perform first second answered answered', if_neg stranger]

end Resolved

/-- A program that writes the values of an identity, as it was set up with, and knows no others. -/
def telling (author : Author) : Process.Runner := fun p d =>
  match p.arguments with
  | ["config", "user.name"] => (.ok ⟨(author.name ++ "\n").toUTF8, .empty, some 0⟩, d)
  | ["config", "user.email"] => (.ok ⟨(author.email ++ "\n").toUTF8, .empty, some 0⟩, d)
  | _ => (.ok ⟨.empty, .empty, some 1⟩, d)

/-- A repository, and the program beside it. -/
def setUp : Disk :=
  ⟨((Disk.Tree.empty.put ["repo"] .directory).put ["bin"] .directory).put ["bin", "git"]
    (.file .empty true), []⟩

/-- The environment that configures the author for that repository. -/
def configured (author : Author) : Environment :=
  [("PATH", "/bin"), (Settings.nameKey, author.name), (Settings.emailKey, author.email),
   (Settings.repositoryKey, "/repo")]

def jane : Author :=
  ⟨"Jane Dev", "jane@example.com"⟩

/-- The same author, with a blank behind the name. -/
def paddedJane : Author :=
  ⟨"Jane Dev ", "jane@example.com"⟩

private theorem ends_in_setUp (author : Author)
    (found : Git.program? setUp (configured author) "git" = some "/bin/git") :
    ∃ email name,
      Ends (telling author) (configured author) "/repo" (.config "user.email") setUp email setUp ∧
      Ends (telling author) (configured author) "/repo" (.config "user.name") setUp name setUp ∧
      Writes name author.name ∧ Writes email author.email :=
  ⟨_, _, ⟨_, found, rfl⟩, ⟨_, found, rfl⟩, ⟨rfl, rfl⟩, rfl, rfl⟩

/-- A repository that is set up as configured passes. -/
theorem verifyIdentity_iff_bare_jane :
    ∃ email name,
      Settings.resolve (Settings.overridden (configured jane) none) {} (fun _ => none) =
        .ok ⟨jane, "/repo", true⟩ ∧
      Ends (telling jane) (configured jane) "/repo" (.config "user.email") setUp email setUp ∧
      Ends (telling jane) (configured jane) "/repo" (.config "user.name") setUp name setUp ∧
      Writes name jane.name ∧ Writes email jane.email ∧
      (verifyIdentity (commandLine (telling jane) (configured jane) "/repo") jane "/repo").perform
        setUp = (.ok (), setUp) := by
  have resolved : Settings.resolve (Settings.overridden (configured jane) none) {}
      (fun _ => none) = .ok ⟨jane, "/repo", true⟩ := by decide +kernel
  obtain ⟨email, name, ends, ends', named, mailed⟩ := ends_in_setUp jane (by decide +kernel)
  have bare : Bare jane.name ∧ Bare jane.email :=
    ⟨Text.Blank.trim_eq_self_iff.1 (by decide), Text.Blank.trim_eq_self_iff.1 (by decide)⟩
  exact ⟨email, name, resolved, ends, ends', named, mailed,
    ((verifyIdentity_iff_bare resolved ends ends').2.1 named mailed).1.2 bare⟩

/-- With a blank behind the configured name it is refused, though it tells just that name. -/
theorem padded_author_is_refused :
    ∃ email name,
      Settings.resolve (Settings.overridden (configured paddedJane) none) {} (fun _ => none) =
        .ok ⟨paddedJane, "/repo", true⟩ ∧
      Ends (telling paddedJane) (configured paddedJane) "/repo" (.config "user.email") setUp email
        setUp ∧
      Ends (telling paddedJane) (configured paddedJane) "/repo" (.config "user.name") setUp name
        setUp ∧
      Writes name paddedJane.name ∧ Writes email paddedJane.email ∧
      (verifyIdentity (commandLine (telling paddedJane) (configured paddedJane) "/repo") paddedJane
        "/repo").perform setUp = (.error (.identityMismatch jane paddedJane "/repo"), setUp) := by
  obtain ⟨email, name, ends, ends', named, mailed⟩ := ends_in_setUp paddedJane (by decide +kernel)
  have told_jane : (⟨told name, told email⟩ : Author) = jane := by
    rw [named.told_eq, mailed.told_eq]
    decide +kernel
  refine ⟨email, name, by decide +kernel, ends, ends', named, mailed, ?_⟩
  rw [verifyIdentity_perform ends ends' mailed.answered named.answered, told_jane,
    if_neg (by decide)]

end Commit

end ConnectorKit
