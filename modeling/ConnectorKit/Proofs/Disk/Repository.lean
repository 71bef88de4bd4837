import ConnectorKit.Disk.Search
import ConnectorKit.Proofs.Disk.Ascent
import ConnectorKit.Proofs.Disk.Write

/-!
Repositories of directories and files. Below the root there are no links, so a path of plain names
leads to the route of those names or nowhere, and what is written there comes to stand at that route
with the directories above it.
-/

set_option autoImplicit false
set_option relaxedAutoImplicit false

namespace ConnectorKit.Disk

open Disk.Path (Plain join ofNames)

/-- The root leads to the directory `base`; below it there are no links, and every name is one that
a path can have as a component. -/
structure Repository (d : Disk) (root : String) (base : Route) : Prop where
  leads : d.locate (join root ".") = .ok base
  directory : d.tree.lookup? base = some .directory
  unlinked {r : Route} {target : String} : base <+: r → d.tree.lookup? r ≠ some (.link target)
  named {r : Route} {n : Name} {e : Entry} : base <+: r → d.tree.lookup? (r ++ [n]) = some e →
    Plain n

section Entries

variable {d : Disk} {root : String} {base : Route}

/-- A directory or a file, no link. -/
def Entry.ordinary : Entry → Bool
  | .directory | .file _ _ => true
  | .link _ => false

/-- Whether a disk is a repository can be read off its entries. -/
theorem repository_iff : Repository d root base ↔ d.locate (join root ".") = .ok base ∧
    d.tree.lookup? base = some .directory ∧ ∀ a ∈ d.tree.entries, base <+: a.1 →
      a.2.ordinary = true ∧ (base ≠ a.1 → Plain (a.1.getLastD "")) := by
  constructor
  · refine fun repo => ⟨repo.leads, repo.directory, fun (r, e) mem inside => ⟨?_, fun low => ?_⟩⟩
    · have stands := (Tree.lookup?_iff (d.tree.rooted r e mem).1).2 mem
      cases e with
      | link target => exact absurd stands (repo.unlinked inside)
      | directory => rfl
      | file data executable => rfl
    · have inner := (d.tree.rooted r e mem).1
      obtain ⟨front, n, rfl⟩ : ∃ front n, r = front ++ [n] :=
        ⟨_, _, (List.dropLast_concat_getLast inner).symm⟩
      have above := (List.prefix_concat_iff.1 inside).resolve_left low
      rw [List.getLastD_concat]
      exact repo.named above ((Tree.lookup?_iff inner).2 mem)
  · rintro ⟨leads, directory, entries⟩
    refine ⟨leads, directory, fun {r target} inside stands => ?_, fun {r n e} inside stands => ?_⟩
    · by_cases top : r = []
      · subst top
        cases stands
      · cases (entries _ ((Tree.lookup?_iff top).1 stands) inside).1
    · have mem := (Tree.lookup?_iff (by simp)).1 stands
      have own := (entries _ mem (inside.trans (List.prefix_append _ _))).2 fun same => by
        have long := inside.length_le
        simp only [same, List.length_append, List.length_singleton] at long
        omega
      rwa [List.getLastD_concat] at own

instance : Decidable (Repository d root base) :=
  decidable_of_iff _ repository_iff.symm

/-- The tree with an empty file at a route, and the directories above it. -/
def Tree.withFile (t : Tree) (r : Route) : Tree :=
  (r.dropLast.inits.foldl (fun t q => t.put q .directory) t).put r (.file .empty false)

end Entries

section Descent

variable {t : Tree} {base r : Route} {names : List Name}

theorem descend_name {n : Name} (plain : Plain n) (short : n.utf8ByteSize ≤ nameLimit)
    (rest : List String) : descend t base (n :: rest) = match t.lookup? (base ++ [n]) with
      | none => .stopped .missing
      | some .directory => descend t (base ++ [n]) rest
      | some (.file _ _) => if rest = [] then .arrived (base ++ [n]) else .stopped .notDirectory
      | some (.link target) => .linked base target rest := by
  have real : ¬ (n = "" ∨ n = ".") := not_or.2 ⟨plain.nonempty, plain.notHere⟩
  rw [descend, if_neg real, if_neg plain.notUp]
  exact if_neg (Nat.not_lt.2 short)

theorem descend_long {n : Name} (plain : Plain n) (long : ¬ n.utf8ByteSize ≤ nameLimit)
    (rest : List String) : descend t base (n :: rest) = .stopped .nameTooLong := by
  have real : ¬ (n = "" ∨ n = ".") := not_or.2 ⟨plain.nonempty, plain.notHere⟩
  rw [descend, if_neg real, if_neg plain.notUp, if_pos (Nat.lt_of_not_le long)]

/-- Names within the limit lead from the base to something that stands there. -/
private structure Present (t : Tree) (base : Route) (names : List Name) : Prop where
  sizes : ∀ n ∈ names, n.utf8ByteSize ≤ nameLimit
  stands : names = [] ∨ ∃ e, t.lookup? (base ++ names) = some e

private theorem present_cons_iff {n : Name} : Present t base (n :: names) ↔
    n.utf8ByteSize ≤ nameLimit ∧ ∃ e, t.lookup? (base ++ [n]) = some e ∧
      if e = .directory then Present t (base ++ [n]) names else names = [] := by
  have whole : base ++ n :: names = base ++ [n] ++ names := by simp
  constructor
  · rintro ⟨sizes, empty | ⟨e, found⟩⟩
    · cases empty
    · obtain ⟨short, sizes⟩ := List.forall_mem_cons.1 sizes
      rw [whole] at found
      by_cases last : names = []
      · subst last
        rw [List.append_nil] at found
        refine ⟨short, e, found, ?_⟩
        split
        · exact ⟨sizes, .inl rfl⟩
        · rfl
      · have dir := Tree.lookup?_above found (List.prefix_append _ names) (by simpa using last)
        exact ⟨short, .directory, dir, sizes, .inr ⟨e, found⟩⟩
  · rintro ⟨short, e, stands, leads⟩
    have last (only : names = []) : Present t base (n :: names) := by
      subst only
      exact ⟨by simpa using short, .inr ⟨e, stands⟩⟩
    split at leads
    · rcases leads.stands with only | found
      · exact last only
      · exact ⟨List.forall_mem_cons.2 ⟨short, leads.sizes⟩, .inr (whole ▸ found)⟩
    · exact last leads

private theorem descend_plain (unlinked : ∀ r target, base <+: r → t.lookup? r ≠ some (.link target))
    (plain : ∀ n ∈ names, Plain n) :
    (descend t base names = .arrived (base ++ names) ∧ Present t base names) ∨
      (∃ fault, descend t base names = .stopped fault) ∧ ¬ Present t base names := by
  induction names generalizing base with
  | nil => exact .inl ⟨by simp [descend], nofun, .inl rfl⟩
  | cons n rest ih =>
    obtain ⟨first, later⟩ := List.forall_mem_cons.1 plain
    have whole : base ++ n :: rest = base ++ [n] ++ rest := by simp
    rw [present_cons_iff, whole]
    by_cases short : n.utf8ByteSize ≤ nameLimit
    · rw [descend_name first short, and_iff_right short]
      cases stands : t.lookup? (base ++ [n]) with
      | none => exact .inr ⟨⟨_, rfl⟩, by simp⟩
      | some e =>
        simp only [Option.some.injEq, exists_eq_left']
        cases e with
        | link target => exact absurd stands (unlinked _ target (List.prefix_append _ _))
        | directory =>
          exact ih (fun r target inside => unlinked r target ((List.prefix_append _ _).trans inside))
            later
        | file data executable =>
          by_cases last : rest = []
          · exact .inl ⟨by simp [last], last⟩
          · exact .inr ⟨⟨_, if_neg last⟩, last⟩
    · rw [descend_long first short]
      exact .inr ⟨⟨_, rfl⟩, fun h => short h.1⟩

theorem follow_plain (unlinked : ∀ r target, base <+: r → t.lookup? r ≠ some (.link target))
    (plain : ∀ n ∈ names, Plain n) (links : Nat) :
    follow t links base names = .ok r ↔ r = base ++ names ∧
      (∀ n ∈ names, n.utf8ByteSize ≤ nameLimit) ∧
      (names = [] ∨ ∃ e, t.lookup? (base ++ names) = some e) := by
  rw [follow]
  rcases descend_plain unlinked plain with ⟨went, sizes, reached⟩ | ⟨⟨fault, stopped⟩, absent⟩
  · rw [went]
    simp only [Except.ok.injEq]
    exact ⟨fun same => ⟨same.symm, sizes, reached⟩, fun h => h.1.symm⟩
  · rw [stopped]
    constructor
    · intro h
      cases h
    · exact fun h => absurd ⟨h.2.1, h.2.2⟩ absent

end Descent

theorem checkPath_eq_ok_iff {path : String} : checkPath path = .ok () ↔
    '\x00' ∉ path.toList ∧ path ≠ "" ∧ path.utf8ByteSize < pathLimit := by
  unfold checkPath
  by_cases zero : path.toList.contains '\x00' = true
  · rw [if_pos zero]
    exact ⟨nofun, fun h => absurd (List.contains_iff_mem.1 zero) h.1⟩
  · rw [if_neg zero]
    by_cases empty : path = ""
    · rw [if_pos empty]
      exact ⟨nofun, fun h => absurd empty h.2.1⟩
    · rw [if_neg empty]
      by_cases long : pathLimit ≤ path.utf8ByteSize
      · rw [if_pos long]
        exact ⟨nofun, fun h => absurd h.2.2 (Nat.not_lt.2 long)⟩
      · rw [if_neg long]
        exact ⟨fun _ => ⟨fun mem => zero (List.contains_iff_mem.2 mem), empty, Nat.lt_of_not_le long⟩,
          fun _ => rfl⟩

theorem checkPath_front {front rest : String} (possible : checkPath (front ++ rest) = .ok ())
    (real : front ≠ "") : checkPath front = .ok () := by
  obtain ⟨clean, -, short⟩ := checkPath_eq_ok_iff.1 possible
  rw [String.toList_append, List.mem_append, not_or] at clean
  rw [String.utf8ByteSize_append] at short
  exact checkPath_eq_ok_iff.2 ⟨clean.1, real, by omega⟩

theorem checkPath_ofParts {path : String} {parts more : List String}
    (cut : Text.Search.split '/' path = parts ++ more) (real : parts ≠ []) (longer : more ≠ [])
    (possible : checkPath path = .ok ()) : checkPath (Path.ofParts parts) = .ok () := by
  obtain ⟨rest, whole⟩ := Path.exists_ofParts_append cut real longer
  refine checkPath_front (whole ▸ possible) fun empty => ?_
  have own := Path.split_ofParts real fun part mem =>
    Text.Search.not_mem_of_mem_split (cut ▸ List.mem_append_left more mem)
  rw [empty, Text.Search.split_empty] at own
  split at own
  · cases own
  · rename_i low
    exact low own.symm

/-- The names and the whole path are within the limits of the system. -/
def Allowed (root : String) (names : List Name) : Prop :=
  checkPath (join root (ofNames names)) = .ok () ∧ ∀ n ∈ names, n.utf8ByteSize ≤ nameLimit

instance (root : String) (names : List Name) : Decidable (Allowed root names) :=
  inferInstanceAs (Decidable (_ ∧ _))

theorem Allowed.above {root : String} {names more : List Name} (h : Allowed root (names ++ more))
    (nonempty : names ≠ []) (plain : ∀ n ∈ names ++ more, Plain n) : Allowed root names := by
  refine ⟨?_, fun n mem => h.2 n (List.mem_append_left _ mem)⟩
  have own := fun n mem => plain n (List.mem_append_left _ mem)
  have relative := Path.not_isAbsolute_ofNames nonempty own
  have relative' := Path.not_isAbsolute_ofNames (by simp [nonempty]) plain
  obtain ⟨rest, longer⟩ : ∃ rest,
      join root (ofNames (names ++ more)) = join root (ofNames names) ++ rest := by
    obtain ⟨rest, more_⟩ := Path.ofNames_append names more
    rw [Path.join_relative relative, Path.join_relative relative', more_]
    exact ⟨rest, (String.append_assoc ..).symm⟩
  refine checkPath_front (longer ▸ h.1) fun empty => ?_
  have parts : Text.Search.split '/' (join root (ofNames names)) = _ := Path.split_join relative
  rw [empty, Text.Search.split_empty, Path.split_ofNames nonempty own] at parts
  have inside : ∀ n ∈ names, n = "" := by
    intro n mem
    have part : n ∈ Path.frontParts root ++ names := List.mem_append_right _ mem
    rw [← parts] at part
    exact List.mem_singleton.1 part
  obtain ⟨n, mem⟩ := List.exists_mem_of_ne_nil _ nonempty
  exact (own n mem).nonempty (inside n mem)

/-- A route below the base, by names that a path can have as components. -/
def Below (base r : Route) : Prop :=
  ∃ names n, (∀ m ∈ names ++ [n], Plain m) ∧ r = base ++ (names ++ [n])

theorem filter_frontParts (root : String) :
    (Path.frontParts root).filter leads = (Text.Search.split '/' root).filter leads := by
  rcases Path.split_root root with same | ended
  · rw [same]
  · rw [ended, List.filter_append]
    simp [leads]

/-- The first parts of a path lead to the base, and the others are the names. -/
def LeadsBelow (d : Disk) (base : Route) (path : String) (names : List Name) : Prop :=
  ∃ front, Text.Search.split '/' path = front ++ names ∧
    follow d.tree linkLimit (d.start path) (front ++ [""]) = .ok base

theorem LeadsBelow.locate_eq {d : Disk} {base : Route} {path : String} {names : List Name}
    (h : LeadsBelow d base path names) : ∃ left, d.locate path =
      (checkPath path >>= fun _ => follow d.tree left base names) := by
  obtain ⟨front, cut, went⟩ := h
  obtain ⟨left, on⟩ := follow_split names went
  refine ⟨left, ?_⟩
  unfold locate
  rw [cut, ← on]

/-- The root leads to the directory `base`; links may stand anywhere. -/
structure Rooted (d : Disk) (root : String) (base : Route) : Prop where
  leads : d.locate (join root ".") = .ok base
  directory : d.tree.lookup? base = some .directory

namespace Rooted

variable {d : Disk} {root : String} {base : Route} {names : List Name}

theorem follow_root (rooted : Rooted d root base) :
    follow d.tree linkLimit (d.start root) (Path.frontParts root ++ [""]) = .ok base := by
  have dot : Path.isAbsolute "." = false := by decide
  have cut : Text.Search.split '/' "." = ["."] := by decide
  obtain ⟨-, -, found⟩ := bind_ok rooted.leads
  rw [Path.split_join dot, cut, start, Path.isAbsolute_join dot] at found
  rw [follow_leads (.inl rfl), ← follow_leads (.inr rfl)]
  exact found

theorem join_leads (rooted : Rooted d root base) (nonempty : names ≠ [])
    (plain : ∀ n ∈ names, Plain n) : LeadsBelow d base (join root (ofNames names)) names := by
  have relative := Path.not_isAbsolute_ofNames nonempty plain
  refine ⟨Path.frontParts root, ?_, ?_⟩
  · rw [Path.split_join relative, Path.split_ofNames nonempty plain]
  · rw [start, Path.isAbsolute_join relative]
    exact rooted.follow_root

end Rooted

namespace Repository

variable {d d' : Disk} {root : String} {base r : Route} {names : List Name}

theorem rooted (repo : Repository d root base) : Rooted d root base :=
  ⟨repo.leads, repo.directory⟩

theorem follow_root (repo : Repository d root base) :
    follow d.tree linkLimit (d.start root) (Path.frontParts root ++ [""]) = .ok base :=
  repo.rooted.follow_root

theorem of_leads (repo : Repository d root base) {root' : String}
    (parts : (Text.Search.split '/' root').filter Disk.leads =
      (Text.Search.split '/' root).filter Disk.leads)
    (absolute : Path.isAbsolute root' = Path.isAbsolute root)
    (possible : checkPath (join root' ".") = .ok ()) : Repository d root' base := by
  have dot : Path.isAbsolute "." = false := by decide
  have cut : Text.Search.split '/' "." = ["."] := by decide
  refine ⟨?_, repo.directory, repo.unlinked, repo.named⟩
  have found := repo.follow_root
  rw [follow_leads (.inl rfl), filter_frontParts, ← parts, ← filter_frontParts,
    ← follow_leads (.inr rfl)] at found
  unfold locate
  rw [possible, Path.split_join dot, cut, start, Path.isAbsolute_join dot, absolute]
  exact found

theorem join_leads (repo : Repository d root base) (nonempty : names ≠ [])
    (plain : ∀ n ∈ names, Plain n) : LeadsBelow d base (join root (ofNames names)) names :=
  repo.rooted.join_leads nonempty plain

theorem locate_iff (repo : Repository d root base) (nonempty : names ≠ [])
    (plain : ∀ n ∈ names, Plain n) :
    d.locate (join root (ofNames names)) = .ok r ↔
      Allowed root names ∧ r = base ++ names ∧ ∃ e, d.tree.lookup? (base ++ names) = some e := by
  obtain ⟨left, whole⟩ := (repo.join_leads nonempty plain).locate_eq
  have below := follow_plain (r := r) (fun _ _ => repo.unlinked) plain left
  rw [whole, Allowed]
  cases checkPath (join root (ofNames names)) with
  | error fault => exact ⟨nofun, fun h => nomatch h.1.1⟩
  | ok =>
    refine below.trans ⟨fun h => ⟨⟨rfl, h.2.1⟩, h.1, h.2.2.resolve_left nonempty⟩, fun h => ?_⟩
    exact ⟨h.2.1, h.1.2, .inr h.2.2⟩

/-- A path below the root leads to what stands at the route of its names. -/
theorem lookup?_iff (repo : Repository d root base) (nonempty : names ≠ [])
    (plain : ∀ n ∈ names, Plain n) {e : Entry} :
    d.lookup? (join root (ofNames names)) = some e ↔
      Allowed root names ∧ d.tree.lookup? (base ++ names) = some e := by
  have reached := fun r => repo.locate_iff (r := r) nonempty plain
  unfold lookup?
  cases found : d.locate (join root (ofNames names)) with
  | ok r =>
    obtain ⟨allowed, rfl, -⟩ := (reached r).1 found
    exact ⟨fun stands => ⟨allowed, stands⟩, fun h => h.2⟩
  | error fault =>
    refine ⟨nofun, fun h => ?_⟩
    have there := (reached _).2 ⟨h.1, rfl, e, h.2⟩
    rw [found] at there
    cases there

theorem stands_iff (repo : Repository d root base) (nonempty : names ≠ [])
    (plain : ∀ n ∈ names, Plain n) :
    d.stands root (ofNames names) = true ↔
      Allowed root names ∧ ∃ e, d.tree.lookup? (base ++ names) = some e := by
  unfold stands holds
  cases found : d.locate (join root (ofNames names)) with
  | ok r =>
    obtain ⟨allowed, -, stands⟩ := (repo.locate_iff nonempty plain).1 found
    exact ⟨fun _ => ⟨allowed, stands⟩, fun _ => rfl⟩
  | error fault =>
    refine ⟨nofun, fun h => ?_⟩
    have reached := (repo.locate_iff nonempty plain).2 ⟨h.1, rfl, h.2⟩
    rw [found] at reached
    cases reached

theorem plain_of_stands (repo : Repository d root base) {e : Entry}
    (stands : d.tree.lookup? (base ++ names) = some e) : ∀ n ∈ names, Plain n := by
  intro n mem
  obtain ⟨front, back, rfl⟩ := List.append_of_mem mem
  have whole : base ++ (front ++ n :: back) = base ++ front ++ [n] ++ back := by simp
  rw [whole] at stands
  obtain ⟨e', there⟩ : ∃ e', d.tree.lookup? (base ++ front ++ [n]) = some e' := by
    by_cases last : back = []
    · rw [last, List.append_nil] at stands
      exact ⟨e, stands⟩
    · exact ⟨_, Tree.lookup?_above stands (List.prefix_append _ _)
        fun same => last (by simpa using same)⟩
  exact repo.named (List.prefix_append _ _) there

/-- Growth below the base leaves a repository one. -/
theorem grow {directories : Route → Prop} {files : Route → ByteArray → Prop}
    (repo : Repository d root base) (gains : Gains directories files d d')
    (dirs_below : ∀ r, directories r → Below base r)
    (files_below : ∀ r data, files r data → Below base r) : Repository d' root base where
  leads := locate_mono gains.grown gains.current repo.leads
  directory := gains.grown _ _ repo.directory
  unlinked {r target} inside := by
    rcases gains.entry r with same | ⟨-, ⟨-, dir⟩ | ⟨data, -, file⟩⟩
    · rw [same]
      exact repo.unlinked inside
    · rw [dir]
      nofun
    · rw [file]
      nofun
  named {r n e} inside stands := by
    have plain (below : Below base (r ++ [n])) : Plain n := by
      obtain ⟨names, m, plain, same⟩ := below
      rw [← List.append_assoc] at same
      obtain ⟨-, last⟩ := List.append_inj' same rfl
      obtain rfl : n = m := by simpa using last
      exact plain n (List.mem_append_right _ List.mem_cons_self)
    rcases gains.entry (r ++ [n]) with same | ⟨-, ⟨told, -⟩ | ⟨data, told, -⟩⟩
    · rw [same] at stands
      exact repo.named inside stands
    · exact plain (dirs_below _ told)
    · exact plain (files_below _ data told)

end Repository

section Slashes

/-- Slashes at the end of a root. -/
def slashes : Nat → String
  | 0 => ""
  | n + 1 => slashes n ++ "/"

variable {d : Disk} {root : String} {base : Route} {names : List Name}

private theorem utf8ByteSize_slashes (n : Nat) : (slashes n).utf8ByteSize = n := by
  induction n with
  | zero => rfl
  | succ n ih =>
    rw [slashes, String.utf8ByteSize_append, ih]
    rfl

private theorem not_mem_slashes (n : Nat) {c : Char} (other : c ≠ '/') : c ∉ (slashes n).toList := by
  induction n with
  | zero => simp [slashes]
  | succ n ih => simp [slashes, ih, other]

private theorem filter_split_slashes (root : String) (n : Nat) :
    (Text.Search.split '/' (root ++ slashes n)).filter leads =
      (Text.Search.split '/' root).filter leads := by
  induction n with
  | zero => simp [slashes]
  | succ n ih =>
    have whole : (root ++ slashes (n + 1)).toList = (root ++ slashes n).toList ++ '/' :: "".toList := by
      simp [slashes]
    rw [Text.Search.split_append whole, List.filter_append, ih, Text.Search.split_empty]
    simp [leads]

private theorem join_slashes {rest : String} (n : Nat) (relative : Path.isAbsolute rest = false) :
    join (root ++ slashes (n + 1)) rest = root ++ slashes (n + 1) ++ rest := by
  rw [Path.join_relative relative, if_pos (.inr (by simp [slashes]))]

/-- A root keeps its base with slashes at its end, as far as its length allows. -/
theorem Repository.slashes (repo : Repository d root base) (real : root ≠ "")
    (clean : '\x00' ∉ root.toList) {n : Nat} (short : root.utf8ByteSize + n + 2 < pathLimit) :
    Repository d (root ++ Disk.slashes (n + 1)) base := by
  refine repo.of_leads (filter_split_slashes root _) ?_ ?_
  · obtain ⟨c, rest, chars⟩ := List.exists_cons_of_ne_nil fun none => real (String.toList_eq_nil_iff.1 none)
    simp [Path.isAbsolute, chars]
  · rw [join_slashes n (by decide), checkPath_eq_ok_iff]
    refine ⟨?_, ?_, ?_⟩
    · simp [clean, not_mem_slashes]
    · simp [real]
    · rw [String.utf8ByteSize_append, String.utf8ByteSize_append, utf8ByteSize_slashes]
      exact short

theorem allowed_slashes_iff (real : root ≠ "") (clean : '\x00' ∉ root.toList) (n : Nat)
    (nonempty : names ≠ []) (plain : ∀ m ∈ names, Plain m) :
    Allowed (root ++ slashes (n + 1)) names ↔ ('\x00' ∉ (ofNames names).toList ∧
      root.utf8ByteSize + (n + 1) + (ofNames names).utf8ByteSize < pathLimit) ∧
      ∀ m ∈ names, m.utf8ByteSize ≤ nameLimit := by
  have absent := not_mem_slashes (n + 1) (by decide : '\x00' ≠ '/')
  unfold Allowed
  rw [join_slashes n (Path.not_isAbsolute_ofNames nonempty plain), checkPath_eq_ok_iff]
  refine and_congr_left fun _ => ?_
  simp [clean, absent, real, String.utf8ByteSize_append, utf8ByteSize_slashes]

end Slashes

end ConnectorKit.Disk
