import ConnectorKit.Proofs.Disk.Replace

/-!
Making the directories of a path where links may stand on the way. What is made is a straight line:
from the first name that is missing on, each directory stands in the one before it. So making them
leaves everything in the directory that the path leads to as it was.
-/

set_option autoImplicit false
set_option relaxedAutoImplicit false

namespace ConnectorKit.Disk

open Disk.Path (Plain join ofNames)
open Text.Search (split)

section Beneath

variable {d d' : Disk} {root n : String} {base dir r : Route} {names front more : List Name}

/-- The directory that names below a root lead to, links on the way included. -/
def beneath (d : Disk) (root : String) (names : List Name) : Except Fault Route :=
  follow d.tree linkLimit (d.start root) (Path.frontParts root ++ names ++ [""])

theorem beneath_mono (grown : d.tree.Extends d'.tree) (same : d'.current = d.current)
    (went : d.beneath root names = .ok dir) : d'.beneath root names = .ok dir := by
  have begun : d'.start root = d.start root := by rw [start, start, same]
  unfold beneath at went ⊢
  rw [begun]
  exact follow_mono grown went

theorem beneath_append (went : d.beneath root front = .ok r) (more : List Name) :
    ∃ left, d.beneath root (front ++ more) = follow d.tree left r (more ++ [""]) := by
  obtain ⟨left, on⟩ := follow_split (more ++ [""]) went
  refine ⟨left, ?_⟩
  rw [← on, beneath]
  simp only [List.append_assoc]

theorem Rooted.beneath_nil (rooted : Rooted d root base) : d.beneath root [] = .ok base := by
  have whole : Path.frontParts root ++ [] ++ [""] = Path.frontParts root ++ [""] := by simp
  rw [beneath, whole]
  exact rooted.follow_root

theorem Rooted.beneath_directory (rooted : Rooted d root base)
    (went : d.beneath root names = .ok dir) : d.tree.lookup? dir = some .directory := by
  obtain ⟨left, on⟩ := beneath_append rooted.beneath_nil names
  rw [List.nil_append, went] at on
  exact follow_directory rooted.directory on.symm

theorem Rooted.grown {directories : Route → Prop} {files : Route → ByteArray → Prop}
    (rooted : Rooted d root base) (gains : Gains directories files d d') : Rooted d' root base :=
  ⟨locate_mono gains.grown gains.current rooted.leads, gains.grown _ _ rooted.directory⟩

theorem split_join_names (plain : ∀ m ∈ names ++ [n], Plain m) :
    split '/' (join root (ofNames (names ++ [n]))) = Path.frontParts root ++ names ++ [n] := by
  have relative := Path.not_isAbsolute_ofNames (by simp) plain
  rw [Path.split_join relative, Path.split_ofNames (by simp) plain, List.append_assoc]

theorem start_join_names (plain : ∀ m ∈ names ++ [n], Plain m) :
    d.start (join root (ofNames (names ++ [n]))) = d.start root := by
  have relative := Path.not_isAbsolute_ofNames (by simp) plain
  rw [start, start, Path.isAbsolute_join relative]

private theorem slot_iff {path : String} {parts : List String} {s : Slot} (plain : Plain n)
    (cut : split '/' path = parts ++ [n])
    (led : follow d.tree linkLimit (d.start path) (parts ++ [""]) = d.beneath root names) :
    d.slot path = .ok s ↔ checkPath path = .ok () ∧ n.utf8ByteSize ≤ nameLimit ∧
      ∃ dir, d.beneath root names = .ok dir ∧ s = .name dir n false := by
  have dots : ¬ (n = "." ∨ n = "..") := not_or.2 ⟨plain.notHere, plain.notUp⟩
  rw [slot_of_split cut plain.nonempty, led]
  simp only [if_neg dots]
  constructor
  · intro last
    obtain ⟨⟨⟩, possible, last⟩ := bind_ok last
    obtain ⟨dir, went, last⟩ := bind_ok last
    split at last
    · cases last
    · rename_i short
      cases last
      exact ⟨possible, Nat.le_of_not_lt short, dir, went, rfl⟩
  · rintro ⟨possible, short, dir, went, rfl⟩
    rw [possible, went]
    change (if nameLimit < n.utf8ByteSize then Except.error Fault.nameTooLong
      else .ok (Slot.name dir n false)) = _
    exact if_neg (Nat.not_lt.2 short)

theorem slot_join_iff {s : Slot} (plain : ∀ m ∈ names ++ [n], Plain m) :
    d.slot (join root (ofNames (names ++ [n]))) = .ok s ↔
      checkPath (join root (ofNames (names ++ [n]))) = .ok () ∧ n.utf8ByteSize ≤ nameLimit ∧
        ∃ dir, d.beneath root names = .ok dir ∧ s = .name dir n false := by
  refine slot_iff (plain n (List.mem_append_right _ List.mem_cons_self)) (split_join_names plain) ?_
  rw [start_join_names plain]
  rfl

private theorem descend_directories {t : Tree} (plain : ∀ m ∈ names, Plain m)
    (sizes : ∀ m ∈ names, m.utf8ByteSize ≤ nameLimit)
    (stands : t.lookup? (base ++ names) = some .directory) :
    descend t base (names ++ [""]) = .arrived (base ++ names) := by
  induction names generalizing base with
  | nil => simp [descend]
  | cons m rest ih =>
    have whole : base ++ m :: rest = base ++ [m] ++ rest := by simp
    obtain ⟨own, plain⟩ := List.forall_mem_cons.1 plain
    obtain ⟨short, sizes⟩ := List.forall_mem_cons.1 sizes
    rw [whole] at stands ⊢
    have above : t.lookup? (base ++ [m]) = some .directory := by
      by_cases last : rest = []
      · rwa [last, List.append_nil] at stands
      · exact Tree.lookup?_above stands (List.prefix_append _ rest) (by simpa using last)
    rw [List.cons_append, descend_name own short, above]
    exact ih plain sizes stands

/-- In a repository the last place of a possible path is where its names say. -/
theorem Repository.slot_of_directory (repo : Repository d root base)
    (plain : ∀ m ∈ names ++ [n], Plain m) (allowed : Allowed root (names ++ [n]))
    (stands : d.tree.lookup? (base ++ names) = some .directory) :
    d.slot (join root (ofNames (names ++ [n]))) = .ok (.name (base ++ names) n false) := by
  obtain ⟨sizes, short⟩ := List.forall_mem_append.1 allowed.2
  refine (slot_join_iff plain).2 ⟨allowed.1, short n List.mem_cons_self, _, ?_, rfl⟩
  obtain ⟨left, on⟩ := beneath_append repo.rooted.beneath_nil names
  rw [List.nil_append] at on
  rw [on, follow, descend_directories (fun m mem => plain m (List.mem_append_left _ mem)) sizes stands]

end Beneath

section Line

variable {d d₁ : Disk} {root n m : String} {base dir r : Route} {names front rest : List Name}

/-- Directories in a straight line, where nothing stood before, are what the names lead through. -/
theorem beneath_straight (plain : ∀ k ∈ m :: rest, Plain k) (begun : d.beneath root front = .ok r)
    (free : d.tree.lookup? (r ++ [m]) = none)
    (gains : Gains (OnTheWay r (m :: rest)) (fun _ _ => False) d d₁)
    (went : d₁.beneath root (front ++ m :: rest) = .ok dir) : dir = r ++ m :: rest := by
  have own := plain m List.mem_cons_self
  have begun₁ := beneath_mono gains.grown gains.current begun
  obtain ⟨left, on⟩ := beneath_append begun₁ (m :: rest)
  rw [went, List.cons_append] at on
  by_cases short : m.utf8ByteSize ≤ nameLimit
  · have unlinked (q : Route) (target : String) (inside : r ++ [m] <+: q) :
        d₁.tree.lookup? q ≠ some (.link target) := by
      have before := Tree.lookup?_below free inside
      rcases gains.entry q with same | ⟨-, ⟨-, made⟩ | ⟨_, told, -⟩⟩
      · rw [same, before]
        nofun
      · rw [made]
        nofun
      · exact told.elim
    have first : follow d₁.tree left r (m :: (rest ++ [""])) =
        follow d₁.tree left (r ++ [m]) (rest ++ [""]) := by
      rcases gains.entry (r ++ [m]) with same | ⟨-, ⟨-, made⟩ | ⟨_, told, -⟩⟩
      · rw [follow, descend_name own short, same, free] at on
        cases on
      · rw [follow, descend_name own short, made]
        exact (follow.eq_def ..).symm
      · exact told.elim
    rw [first] at on
    obtain ⟨place, -⟩ :=
      follow_unlinked unlinked (fun k mem => plain k (List.mem_cons_of_mem _ mem)) on.symm
    rw [place, List.append_assoc, List.singleton_append]
  · rw [follow, descend_long own short] at on
    cases on

/-- The disk after directories were made for names below a root: as it was, or with a straight line of
directories from the first name that is missing, as far as that went. -/
inductive Paved (d : Disk) (root : String) (names : List Name) : Disk → Prop
  | idle : Paved d root names d
  | laid {front rest : List Name} {m : Name} {r : Route} {d₁ : Disk} :
      names = front ++ m :: rest → d.beneath root front = .ok r →
      d.tree.lookup? (r ++ [m]) = none →
      Gains (OnTheWay r (m :: rest)) (fun _ _ => False) d d₁ → Paved d root names d₁

/-- Where directories for names below a root may be missing: the first names lead to a directory, and
the route is on the way that the others go from there. -/
def Lacking (d : Disk) (root : String) (names : List Name) (q : Route) : Prop :=
  ∃ front rest r, names = front ++ rest ∧ d.beneath root front = .ok r ∧ OnTheWay r rest q

namespace Paved

theorem gains (paved : Paved d root names d₁) :
    Gains (Lacking d root names) (fun _ _ => False) d d₁ := by
  cases paved with
  | idle => exact .refl d
  | laid whole begun free gains =>
    exact gains.mono (fun q way => ⟨_, _, _, whole, begun, way⟩) fun _ _ => id

theorem longer (paved : Paved d root names d₁) : Paved d root (names ++ [n]) d₁ := by
  cases paved with
  | idle => exact .idle
  | laid whole begun free gains =>
    rename_i front rest m r
    have split : names ++ [n] = front ++ m :: (rest ++ [n]) := by rw [whole]; simp
    exact .laid split begun free (gains.mono (fun q way => way.longer) fun _ _ => id)

theorem put (paved : Paved d root names d₁) (plain : ∀ k ∈ names, Plain k)
    (went : d₁.beneath root names = .ok dir) (free : d₁.tree.lookup? (dir ++ [n]) = none) :
    Paved d root (names ++ [n]) (d₁.put (dir ++ [n]) .directory) := by
  cases paved with
  | idle =>
    refine .laid rfl went free (.put_directory free ?_)
    exact ⟨[n], by simp, List.prefix_rfl, rfl⟩
  | laid whole begun free₀ gains =>
    rename_i front rest m r
    subst whole
    have inner : ∀ k ∈ m :: rest, Plain k := fun k mem => plain k (List.mem_append_right _ mem)
    have place : dir = r ++ m :: rest := beneath_straight inner begun free₀ gains went
    subst place
    have split : front ++ m :: rest ++ [n] = front ++ m :: (rest ++ [n]) := by simp
    have line : Gains (OnTheWay r (m :: (rest ++ [n]))) (fun _ _ => False) d d₁ :=
      gains.mono (fun q way => way.longer) fun _ _ => id
    refine .laid split begun free₀ (line.trans (.put_directory free ?_))
    exact ⟨m :: (rest ++ [n]), by simp, List.prefix_rfl, by simp⟩

theorem lookup?_eq (paved : Paved d root names d₁) (plain : ∀ k ∈ names, Plain k)
    (went : d₁.beneath root names = .ok dir) (n : Name) :
    d₁.tree.lookup? (dir ++ [n]) = d.tree.lookup? (dir ++ [n]) ∧
      (d.tree.lookup? (dir ++ [n]) ≠ none → d₁ = d) := by
  cases paved with
  | idle => exact ⟨rfl, fun _ => rfl⟩
  | laid whole begun free gains =>
    rename_i front rest m r
    subst whole
    have inner : ∀ k ∈ m :: rest, Plain k := fun k mem => plain k (List.mem_append_right _ mem)
    have place : dir = r ++ m :: rest := beneath_straight inner begun free gains went
    subst place
    have outside : ¬ OnTheWay r (m :: rest) (r ++ m :: rest ++ [n]) := by
      rintro ⟨line, -, before, same⟩
      rw [List.append_assoc] at same
      have long := before.length_le
      rw [← List.append_cancel_left same, List.length_append, List.length_singleton] at long
      omega
    have below : r ++ [m] <+: r ++ m :: rest ++ [n] := ⟨rest ++ [n], by simp⟩
    refine ⟨gains.same_of_not outside (by simp), fun stood => ?_⟩
    exact absurd (Tree.lookup?_below free below) stood

end Paved

end Line

section Making

variable {d : Disk} {root n : String} {base : Route} {names : List Name}

private theorem settle_cases (d : Disk) (path : String) (made : Except Fault Disk) :
    (makeAscent.settle d path made).2 = d ∨
      ∃ d', made = .ok d' ∧ (makeAscent.settle d path made).2 = d' := by
  cases made with
  | ok d' => exact .inr ⟨d', rfl, rfl⟩
  | error fault =>
    refine .inl ?_
    change (if d.isDirectory path then ((.ok (), d) : Except Fault Unit × Disk)
      else (.error fault, d)).2 = d
    split <;> rfl

/-- Making the directories of names below a root, from the first that is missing on. -/
theorem makeAscent_paved (rooted : Rooted d root base) (plain : ∀ k ∈ names, Plain k) :
    Paved d root names (d.makeAscent (Path.ascent (join root (ofNames names)))).2 := by
  induction names using List.reverseRecOn with
  | nil =>
    rw [rooted.makeAscent_root]
    exact .idle
  | append_singleton names n ih =>
    have inner : ∀ k ∈ names, Plain k := fun k mem => plain k (List.mem_append_left _ mem)
    have before := ih inner
    have next {d₁ d₂ : Disk} (paved : Paved d root names d₁)
        (made : d₁.makeDirectory (join root (ofNames (names ++ [n]))) = .ok d₂) :
        Paved d root (names ++ [n]) d₂ := by
      obtain ⟨dir, m, closed, last, free, rfl⟩ := makeDirectory_ok made
      obtain ⟨-, -, _, went, same⟩ := (slot_join_iff plain).1 last
      cases same
      exact paved.put inner went free
    rw [Path.ascent_join plain, makeAscent]
    split
    · rename_i d₁ made
      exact next .idle made
    · split
      · rename_i fault d₁ refused
        rw [refused] at before
        exact before.longer
      · rename_i d₁ reached
        rw [reached] at before
        rcases settle_cases d₁ _ (d₁.makeDirectory _) with same | ⟨d₂, made, same⟩
        · rw [same]
          exact before.longer
        · rw [same]
          exact next before made
    · rename_i fault _ _
      rcases settle_cases d _ (.error fault) with same | ⟨_, made, -⟩
      · rw [same]
        exact .idle
      · cases made

theorem makeAscent_above_paved (rooted : Rooted d root base)
    (plain : ∀ k ∈ names ++ [n], Plain k) :
    Paved d root names (d.makeAscent (Path.above (join root (ofNames (names ++ [n]))))).2 := by
  rw [rooted.makeAscent_above plain]
  exact makeAscent_paved rooted fun k mem => plain k (List.mem_append_left _ mem)

end Making

end ConnectorKit.Disk
