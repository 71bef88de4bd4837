import ConnectorKit.Settings.Resolve
import Mathlib.Data.List.Forall2

/-!
Settings by their sources. Each item is told by the first of its sources that is not silent, and by
no source of another item; so what stands behind that source counts for nothing, and neither does
what a silent one holds.
-/

set_option autoImplicit false
set_option relaxedAutoImplicit false

namespace ConnectorKit.Settings

open Text.Blank (isBlankText trim)

section Sources

variable {value : Option String} {values values' : List (Option String)} {text text' : String}

/-- A source tells nothing: it has no value, or a blank one. -/
def Silent (value : Option String) : Prop :=
  ∀ text, value = some text → isBlankText text = true

theorem silent_none : Silent none :=
  nofun

theorem silent_some_iff : Silent (some text) ↔ isBlankText text = true :=
  ⟨fun silent => silent text rfl, fun blank _ same => Option.some.inj same ▸ blank⟩

theorem not_silent_of_inked (inked : isBlankText text = false) : ¬ Silent (some text) := by
  rw [silent_some_iff, inked]
  exact nofun

theorem filled_eq_none_iff : filled value = none ↔ Silent value := by
  cases value with
  | none => exact iff_of_true rfl silent_none
  | some text =>
    rw [silent_some_iff, filled, Option.bind_some, Text.Blank.filled?]
    split
    · rename_i blank
      exact iff_of_true rfl blank
    · rename_i inked
      exact iff_of_false nofun inked

theorem filled_eq_some_iff :
    filled value = some text ↔ value = some text ∧ isBlankText text = false := by
  cases value with
  | none => exact iff_of_false nofun fun told => nomatch told.1
  | some own =>
    rw [filled, Option.bind_some, Text.Blank.filled?]
    split
    · rename_i blank
      refine iff_of_false nofun fun told => ?_
      rw [Option.some.inj told.1, told.2] at blank
      cases blank
    · rename_i inked
      refine ⟨fun same => ⟨same, ?_⟩, And.left⟩
      rw [← Option.some.inj same]
      exact Bool.eq_false_iff.2 inked

/-- The text is that of the first source that is not silent. -/
def Prevails (values : List (Option String)) (text : String) : Prop :=
  ∃ before after, values = before ++ some text :: after ∧ (∀ value ∈ before, Silent value) ∧
    isBlankText text = false

theorem firstFilled_eq_none_iff :
    firstFilled values = none ↔ ∀ value ∈ values, Silent value := by
  simp only [firstFilled, List.findSome?_eq_none_iff, filled_eq_none_iff]

theorem firstFilled_eq_some_iff : firstFilled values = some text ↔ Prevails values text := by
  simp only [firstFilled, List.findSome?_eq_some_iff, filled_eq_none_iff, filled_eq_some_iff]
  constructor
  · rintro ⟨before, value, after, split, ⟨rfl, inked⟩, silent⟩
    exact ⟨before, after, split, silent, inked⟩
  · rintro ⟨before, after, split, silent, inked⟩
    exact ⟨before, _, after, split, ⟨rfl, inked⟩, silent⟩

theorem Prevails.unique (h : Prevails values text) (h' : Prevails values text') : text = text' :=
  Option.some.inj ((firstFilled_eq_some_iff.2 h).symm.trans (firstFilled_eq_some_iff.2 h'))

/-- The sources differ only where that does not count: where both are silent, and behind one that
tells the same. -/
inductive Alike : List (Option String) → List (Option String) → Prop
  | done : Alike [] []
  | silent {value value' : Option String} {values values' : List (Option String)} :
      Silent value → Silent value' → Alike values values' →
      Alike (value :: values) (value' :: values')
  | told {text : String} {values values' : List (Option String)} :
      isBlankText text = false → Alike (some text :: values) (some text :: values')

theorem Alike.firstFilled_eq (alike : Alike values values') :
    firstFilled values' = firstFilled values := by
  unfold firstFilled
  induction alike with
  | done => rfl
  | silent none none' _ ih =>
    rw [List.findSome?_cons, List.findSome?_cons, filled_eq_none_iff.2 none,
      filled_eq_none_iff.2 none']
    exact ih
  | told inked => rw [List.findSome?_cons, List.findSome?_cons, filled_eq_some_iff.2 ⟨rfl, inked⟩]

end Sources

section Rule

variable {environment environment' : Option String} {file file' : Option Bool}

/-- The rule is switched off: by a word for it in the environment, or by the file where the
environment is silent. -/
def SwitchedOff (environment : Option String) (file : Option Bool) : Prop :=
  (∃ text, environment = some text ∧ isBlankText text = false ∧
    Text.Case.lower (trim text) ∈ ["0", "false", "no", "off"]) ∨
  Silent environment ∧ file = some false

theorem resolveRule_eq_false_iff :
    resolveRule environment file = false ↔ SwitchedOff environment file := by
  unfold resolveRule SwitchedOff
  split
  · rename_i text told
    obtain ⟨rfl, inked⟩ := filled_eq_some_iff.1 told
    rw [Bool.not_eq_false', isOff, decide_eq_true_eq]
    constructor
    · exact fun off => .inl ⟨text, rfl, inked, off⟩
    · rintro (⟨own, ⟨⟩, -, off⟩ | ⟨silent, -⟩)
      · exact off
      · exact absurd silent (not_silent_of_inked inked)
  · rename_i none
    have silent := filled_eq_none_iff.1 none
    constructor
    · intro off
      refine .inr ⟨silent, ?_⟩
      cases file with
      | none => cases off
      | some on => exact congrArg some off
    · rintro (⟨text, rfl, inked, -⟩ | ⟨-, rfl⟩)
      · exact absurd silent (not_silent_of_inked inked)
      · rfl

/-- The sources of the rule differ only where that does not count. -/
inductive RuleAlike : Option String → Option Bool → Option String → Option Bool → Prop
  | silent {environment environment' : Option String} {file : Option Bool} :
      Silent environment → Silent environment' → RuleAlike environment file environment' file
  | told {text : String} {file file' : Option Bool} :
      isBlankText text = false → RuleAlike (some text) file (some text) file'

theorem RuleAlike.resolveRule_eq (alike : RuleAlike environment file environment' file') :
    resolveRule environment' file' = resolveRule environment file := by
  unfold resolveRule
  cases alike with
  | silent none none' => rw [filled_eq_none_iff.2 none, filled_eq_none_iff.2 none']
  | told inked => rw [filled_eq_some_iff.2 ⟨rfl, inked⟩]

end Rule

/-- Where the settings come from, the first that counts first. -/
structure Layers where
  environment : Source
  file : File
  git : Source

/-- What has to be told. -/
inductive Item where
  | authorName
  | authorEmail
  | repository
  deriving DecidableEq, Repr

/-- The item in settings. -/
def Item.of (s : Settings) : Item → String
  | authorName => s.author.name
  | authorEmail => s.author.email
  | repository => s.repository

namespace Layers

variable {l l' : Layers} {s s' : Settings} {i : Item} {outcome outcome' : Except Failure Settings}

/-- The sources of an item in their order. -/
def values (l : Layers) : Item → List (Option String)
  | .authorName => [l.environment nameKey, l.file.authorName, l.git "user.name"]
  | .authorEmail => [l.environment emailKey, l.file.authorEmail, l.git "user.email"]
  | .repository => [l.environment repositoryKey, l.file.repository]

def resolve (l : Layers) : Except Failure Settings :=
  Settings.resolve l.environment l.file l.git

/-- No source tells the item. -/
def Lacks (l : Layers) (i : Item) : Prop :=
  ∀ value ∈ l.values i, Silent value

/-- Whether the layers switch the rule off. -/
def Lenient (l : Layers) : Prop :=
  SwitchedOff (l.environment conventionalKey) l.file.conventional

/-- What layers come to. -/
inductive Gives (l : Layers) : Except Failure Settings → Prop
  | settled {s : Settings} : (∀ i, Prevails (l.values i) (i.of s)) →
      (s.conventional = false ↔ l.Lenient) → Gives l (.ok s)
  | noAuthor : l.Lacks .authorName ∨ l.Lacks .authorEmail → Gives l (.error .authorNotConfigured)
  | noRepository : ¬ l.Lacks .authorName → ¬ l.Lacks .authorEmail → l.Lacks .repository →
      Gives l (.error .repositoryNotConfigured)

theorem not_lacks_of_prevails {text : String} (h : Prevails (l.values i) text) : ¬ l.Lacks i := by
  obtain ⟨before, after, split, -, inked⟩ := h
  exact fun lacks => not_silent_of_inked inked (lacks (some text) (split ▸ by simp))

theorem Gives.unique (h : l.Gives outcome) (h' : l.Gives outcome') : outcome = outcome' := by
  cases h with
  | @settled s told rule =>
    have has (i : Item) : ¬ l.Lacks i := not_lacks_of_prevails (told i)
    cases h' with
    | @settled s' told' rule' =>
      obtain ⟨⟨name, email⟩, repository, conventional⟩ := s
      obtain ⟨⟨name', email'⟩, repository', conventional'⟩ := s'
      obtain rfl : name = name' := (told .authorName).unique (told' .authorName)
      obtain rfl : email = email' := (told .authorEmail).unique (told' .authorEmail)
      obtain rfl : repository = repository' := (told .repository).unique (told' .repository)
      obtain rfl : conventional = conventional' := Bool.eq_iff_iff.2 (by
        rw [← not_iff_not, Bool.not_eq_true, Bool.not_eq_true]
        exact rule.trans rule'.symm)
      rfl
    | noAuthor lacks => exact (lacks.elim (has _) (has _)).elim
    | noRepository _ _ lacks => exact absurd lacks (has _)
  | noAuthor lacks =>
    cases h' with
    | settled told _ =>
      exact (lacks.elim (not_lacks_of_prevails (told _)) (not_lacks_of_prevails (told _))).elim
    | noAuthor _ => rfl
    | noRepository named mailed _ => exact (lacks.elim named mailed).elim
  | noRepository named mailed lacks =>
    cases h' with
    | settled told _ => exact absurd lacks (not_lacks_of_prevails (told _))
    | noAuthor lacks' => exact (lacks'.elim named mailed).elim
    | noRepository _ _ _ => rfl

private theorem resolve_eq (l : Layers) : l.resolve =
    match firstFilled (l.values .authorName), firstFilled (l.values .authorEmail),
        firstFilled (l.values .repository) with
    | some name, some email, some repository =>
      .ok ⟨⟨name, email⟩, repository,
        resolveRule (l.environment conventionalKey) l.file.conventional⟩
    | some _, some _, none => .error .repositoryNotConfigured
    | _, _, _ => .error .authorNotConfigured :=
  rfl

theorem gives_resolve (l : Layers) : l.Gives l.resolve := by
  have has {i : Item} {text : String} (first : firstFilled (l.values i) = some text) :
      ¬ l.Lacks i := not_lacks_of_prevails (firstFilled_eq_some_iff.1 first)
  rw [resolve_eq]
  cases named : firstFilled (l.values .authorName) with
  | none => exact .noAuthor (.inl (firstFilled_eq_none_iff.1 named))
  | some name =>
    cases mailed : firstFilled (l.values .authorEmail) with
    | none => exact .noAuthor (.inr (firstFilled_eq_none_iff.1 mailed))
    | some email =>
      cases kept : firstFilled (l.values .repository) with
      | none => exact .noRepository (has named) (has mailed) (firstFilled_eq_none_iff.1 kept)
      | some repository =>
        refine .settled (fun i => firstFilled_eq_some_iff.1 ?_) resolveRule_eq_false_iff
        cases i with
        | authorName => exact named
        | authorEmail => exact mailed
        | repository => exact kept

theorem resolve_eq_iff : l.resolve = outcome ↔ l.Gives outcome :=
  ⟨fun same => same ▸ l.gives_resolve, fun gives => l.gives_resolve.unique gives⟩

theorem exists_resolve_iff : (∃ s, l.resolve = .ok s) ↔ ∀ i, ¬ l.Lacks i := by
  constructor
  · rintro ⟨s, went⟩ i
    obtain ⟨told, -⟩ := resolve_eq_iff.1 went
    exact not_lacks_of_prevails (told i)
  · intro has
    have gives := l.gives_resolve
    generalize l.resolve = outcome at gives
    cases gives with
    | settled => exact ⟨_, rfl⟩
    | noAuthor lacks => exact (lacks.elim (has _) (has _)).elim
    | noRepository _ _ lacks => exact absurd lacks (has _)

/-- The layers differ only where that does not count. -/
structure Alike (l l' : Layers) : Prop where
  values : ∀ i, Settings.Alike (l.values i) (l'.values i)
  rule : RuleAlike (l.environment conventionalKey) l.file.conventional
    (l'.environment conventionalKey) l'.file.conventional

theorem Alike.resolve_eq (alike : l.Alike l') : l'.resolve = l.resolve := by
  rw [Layers.resolve_eq, Layers.resolve_eq, (alike.values .authorName).firstFilled_eq,
    (alike.values .authorEmail).firstFilled_eq, (alike.values .repository).firstFilled_eq,
    alike.rule.resolveRule_eq]

/-- Each source that tells an item in the first layers tells it in the others, the same or not. -/
def Within (l l' : Layers) : Prop :=
  ∀ i, List.Forall₂ (fun value value' => Silent value' → Silent value) (l.values i) (l'.values i)

theorem Within.lacks (within : l.Within l') (lacks : l'.Lacks i) : l.Lacks i := by
  have each := within i
  unfold Lacks at lacks ⊢
  generalize l.values i = values at each ⊢
  generalize l'.values i = values' at each lacks
  induction each with
  | nil => exact List.forall_mem_nil _
  | cons imp _ ih =>
    obtain ⟨first, later⟩ := List.forall_mem_cons.1 lacks
    exact List.forall_mem_cons.2 ⟨imp first, ih later⟩

/-- Layers come to the values of the first sources that are not silent, word for word and item by
item. They do so exactly where each item has such a source, and otherwise fail, for the author where
that is missing and else for the repository. What is behind the source that counts, or silent before
and after, changes nothing, and a source that begins to speak never makes them fail. -/
theorem resolve_layers (l : Layers) :
    (∀ s, l.resolve = .ok s ↔
      (∀ i, Prevails (l.values i) (i.of s)) ∧ (s.conventional = false ↔ l.Lenient)) ∧
    ((∃ s, l.resolve = .ok s) ↔ ∀ i, ¬ l.Lacks i) ∧
    (l.resolve = .error .authorNotConfigured ↔ l.Lacks .authorName ∨ l.Lacks .authorEmail) ∧
    (l.resolve = .error .repositoryNotConfigured ↔
      ¬ l.Lacks .authorName ∧ ¬ l.Lacks .authorEmail ∧ l.Lacks .repository) ∧
    (∀ l', l.Alike l' → l'.resolve = l.resolve) ∧
    (∀ (l' : Layers) (s s' : Settings) (i : Item), l.resolve = .ok s → l'.resolve = .ok s' →
      Settings.Alike (l.values i) (l'.values i) → i.of s' = i.of s) ∧
    ∀ l', l.Within l' → (∃ s, l.resolve = .ok s) → ∃ s', l'.resolve = .ok s' := by
  refine ⟨fun s => ?_, exists_resolve_iff, ?_, ?_, fun l' => Alike.resolve_eq, ?_, ?_⟩
  · rw [resolve_eq_iff]
    refine ⟨fun gives => ?_, fun told => .settled told.1 told.2⟩
    cases gives with
    | settled told rule => exact ⟨told, rule⟩
  · rw [resolve_eq_iff]
    refine ⟨fun gives => ?_, .noAuthor⟩
    cases gives with
    | noAuthor lacks => exact lacks
  · rw [resolve_eq_iff]
    refine ⟨fun gives => ?_, fun told => .noRepository told.1 told.2.1 told.2.2⟩
    cases gives with
    | noRepository named mailed lacks => exact ⟨named, mailed, lacks⟩
  · intro l' s s' i went went' alike
    obtain ⟨told, -⟩ := resolve_eq_iff.1 went
    obtain ⟨told', -⟩ := resolve_eq_iff.1 went'
    have first := firstFilled_eq_some_iff.2 (told' i)
    rw [alike.firstFilled_eq] at first
    exact (firstFilled_eq_some_iff.1 first).unique (told i)
  · intro l' within went
    exact exists_resolve_iff.2 fun i lacks => exists_resolve_iff.1 went i (within.lacks lacks)

/-- The environment tells the email and has a blank name, the file tells the rest, and there is
another name behind it. -/
def mixed : Layers where
  environment key := [(nameKey, " "), (emailKey, "jane@example.com")].lookup key
  file := ⟨some "Jane", none, some "/repo", some false⟩
  git key := [("user.name", "Joe")].lookup key

/-- The same without the blank name, and with another one and an email at the end. -/
def mixed' : Layers where
  environment key := [(emailKey, "jane@example.com")].lookup key
  file := mixed.file
  git key := [("user.name", "Jim"), ("user.email", "jim@example.com")].lookup key

/-- Both come to the name in the file; and where the environment alone tells anything, it is the
author that is missed, and not the repository. -/
theorem resolve_layers_mixed :
    mixed.resolve = .ok ⟨⟨"Jane", "jane@example.com"⟩, "/repo", false⟩ ∧
    mixed.Alike mixed' ∧ mixed'.resolve = mixed.resolve ∧
    { mixed with file := {} , git := fun _ => none }.resolve = .error .authorNotConfigured := by
  have blank : Silent (some " ") := silent_some_iff.2 (by decide)
  have alike : mixed.Alike mixed' := by
    refine ⟨fun i => ?_, .silent silent_none silent_none⟩
    cases i with
    | authorName => exact .silent blank silent_none (.told (by decide))
    | authorEmail => exact .told (by decide)
    | repository => exact .silent silent_none silent_none (.told (by decide))
  obtain ⟨-, -, -, -, same, -⟩ := resolve_layers mixed
  obtain ⟨-, -, author, -⟩ := resolve_layers { mixed with file := {}, git := fun _ => none }
  refine ⟨by decide +kernel, alike, same mixed' alike, author.2 (.inl ?_)⟩
  exact List.forall_mem_cons.2 ⟨blank, List.forall_mem_cons.2
    ⟨silent_none, List.forall_mem_cons.2 ⟨silent_none, List.forall_mem_nil _⟩⟩⟩

end Layers

end ConnectorKit.Settings
