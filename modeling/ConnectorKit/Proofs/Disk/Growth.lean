import ConnectorKit.Proofs.Disk.Search

/-!
Writing below the root of a repository. A new file comes to stand at the route of its names, and the
only other things that come are the directories on the way there.
-/

set_option autoImplicit false
set_option relaxedAutoImplicit false

namespace ConnectorKit.Disk

open Disk.Path (Plain join ofNames)
open Text.Search (split)

/-- The route of a directory that names below the base lead through. -/
def OnTheWay (base : Route) (names : List Name) (r : Route) : Prop :=
  ∃ front, front ≠ [] ∧ front <+: names ∧ r = base ++ front

/-- The route of such a directory, where its path from the root is within the limits. -/
def OnThePath (root : String) (base : Route) (names : List Name) (r : Route) : Prop :=
  ∃ front, front ≠ [] ∧ front <+: names ∧ Allowed root front ∧ r = base ++ front

theorem OnThePath.onTheWay {root : String} {base : Route} {names : List Name} {r : Route}
    (h : OnThePath root base names r) : OnTheWay base names r := by
  obtain ⟨front, nonempty, before, -, rfl⟩ := h
  exact ⟨front, nonempty, before, rfl⟩

section Root

variable {d : Disk} {root : String} {base : Route}

theorem follow_unlinked {t : Tree} {names : List Name} {left : Nat} {q : Route}
    (unlinked : ∀ r target, base <+: r → t.lookup? r ≠ some (.link target))
    (plain : ∀ n ∈ names, Plain n) (reached : follow t left base (names ++ [""]) = .ok q) :
    q = base ++ names ∧ ∀ n ∈ names, n.utf8ByteSize ≤ nameLimit := by
  obtain ⟨left', again⟩ := follow_split [] reached
  have stay : follow t left' q [] = .ok q := by simp [follow, descend]
  rw [List.append_nil, stay] at again
  obtain ⟨place, sizes, -⟩ := (follow_plain unlinked plain left).1 again
  exact ⟨place, sizes⟩

namespace Repository

theorem follow_names {names : List Name} {left : Nat} {q : Route} (repo : Repository d root base)
    (plain : ∀ n ∈ names, Plain n) (reached : follow d.tree left base (names ++ [""]) = .ok q) :
    q = base ++ names ∧ ∀ n ∈ names, n.utf8ByteSize ≤ nameLimit :=
  follow_unlinked (fun _ _ => repo.unlinked) plain reached

theorem slot_below {path : String} {names : List Name} {n m : Name}
    {dir : Route} {closed : Bool} (repo : Repository d root base)
    (leads : LeadsBelow d base path (names ++ [n])) (plain : ∀ m ∈ names ++ [n], Plain m)
    (last : d.slot path = .ok (.name dir m closed)) :
    dir ++ [m] = base ++ (names ++ [n]) ∧ d.tree.lookup? dir = some .directory ∧
      checkPath path = .ok () ∧ ∀ m ∈ names ++ [n], m.utf8ByteSize ≤ nameLimit := by
  obtain ⟨front, cut, went⟩ := leads
  have own := plain n (List.mem_append_right _ List.mem_cons_self)
  rw [← List.append_assoc] at cut
  rw [slot_of_split cut own.nonempty] at last
  obtain ⟨⟨⟩, possible, last⟩ := bind_ok last
  obtain ⟨q, reached, last⟩ := bind_ok last
  obtain ⟨left, on⟩ := follow_split (names ++ [""]) went
  rw [List.append_assoc, on] at reached
  obtain ⟨place, sizes⟩ :=
    repo.follow_names (fun m mem => plain m (List.mem_append_left _ mem)) reached
  rw [if_neg (by simp [own.notHere, own.notUp])] at last
  split at last
  · cases last
  · rename_i short
    cases last
    refine ⟨by rw [place, List.append_assoc], follow_directory repo.directory reached, possible, ?_⟩
    intro m mem
    rcases List.mem_append.1 mem with above | here
    · exact sizes m above
    · rw [List.mem_singleton.1 here]
      exact Nat.le_of_not_lt short

end Repository

private theorem makeDirectory_there {path : String} (there : d.isDirectory path = true) :
    ∃ fault, d.makeDirectory path = .error fault ∧ fault ≠ .missing := by
  rw [isDirectory, decide_eq_true_eq, lookup?] at there
  cases led : d.locate path with
  | error fault =>
    rw [led] at there
    cases there
  | ok goal =>
    have told := slot_ne_missing led
    unfold makeDirectory
    cases last : d.slot path with
    | error fault => exact ⟨fault, rfl, fun same => told (by rw [last, same])⟩
    | ok place =>
      cases place with
      | noName => exact ⟨.exists, rfl, by decide⟩
      | name dir n closed =>
        obtain ⟨e, stands⟩ := Option.ne_none_iff_exists'.1 (stands_of_locate led last)
        exact ⟨.exists, by simp only [bind, Except.bind, stands], by decide⟩

theorem makeAscent_there {path : String} (there : d.isDirectory path = true) (up : List String) :
    d.makeAscent (path :: up) = (.ok (), d) := by
  obtain ⟨fault, refused, other⟩ := makeDirectory_there there
  have settled : d.makeAscent (path :: up) = makeAscent.settle d path (.error fault) := by
    rw [makeAscent, refused]
    cases fault with
    | missing => exact absurd rfl other
    | _ => rfl
  rw [settled]
  exact if_pos there

theorem makeAscent_above {path n : String} {front : List String} {q : Route}
    (cut : split '/' path = front ++ [n]) (real : leads n = true)
    (reached : follow d.tree linkLimit (d.start path) (front ++ [""]) = .ok q)
    (there : d.tree.lookup? q = some .directory)
    (possible : ∀ kept blanks, front = kept ++ blanks → kept ≠ [] →
      checkPath (Path.ofParts kept) = .ok ()) :
    d.makeAscent (Path.above path) = (.ok (), d) := by
  obtain ⟨kept, blanks, up, whole, blank, relative, first⟩ := Path.exists_above cut real
  rw [first]
  have same : front.filter leads = kept.filter leads := by
    have none : blanks.filter leads = [] := List.filter_eq_nil_iff.2 (by simpa using blank)
    rw [whole, List.filter_append, none, List.append_nil]
  rw [follow_leads (.inl rfl), same] at reached
  have led {path' : String} (parts : (split '/' path').filter leads = kept.filter leads)
      (absolute : Path.isAbsolute path' = Path.isAbsolute path)
      (possible : checkPath path' = .ok ()) : d.isDirectory path' = true := by
    rw [← parts, ← follow_leads (.inl rfl)] at reached
    obtain ⟨left, on⟩ := follow_split [] reached
    have went : d.locate path' = .ok q := by
      unfold locate
      rw [possible, start, absolute]
      rw [List.append_nil] at on
      exact on.trans (by simp [follow, descend])
    rw [isDirectory, lookup?, went]
    exact decide_eq_true there
  refine makeAscent_there ?_ up
  split
  · rename_i none
    subst none
    exact led (by decide) (by rw [relative rfl]; decide) (by decide)
  · rename_i kept_
    have inner : split '/' path = kept ++ (blanks ++ [n]) := by rw [cut, whole, List.append_assoc]
    refine led ?_ (Path.isAbsolute_ofParts inner kept_ (by simp)) (possible kept blanks whole kept_)
    exact Path.filter_ofParts kept_ fun part mem =>
      Text.Search.not_mem_of_mem_split (inner ▸ List.mem_append_left _ mem)

namespace Rooted

variable {names : List Name} {n : Name}

private theorem makeAscent_above_root (rooted : Rooted d root base) (plain : Plain n) :
    d.makeAscent (Path.above (join root (ofNames [n]))) = (.ok (), d) := by
  have own : ∀ m ∈ [n], Plain m := List.forall_mem_singleton.2 plain
  have relative := Path.not_isAbsolute_ofNames (List.cons_ne_nil n []) own
  have parts : split '/' (join root ".") = Path.frontParts root ++ split '/' "." :=
    Path.split_join (by decide)
  have dot : split '/' "." = ["."] := by decide
  obtain ⟨⟨⟩, possible, -⟩ := bind_ok rooted.leads
  have cut : split '/' (join root (ofNames [n])) = Path.frontParts root ++ [n] := by
    rw [Path.split_join relative, Path.split_ofNames (List.cons_ne_nil n []) own]
  refine makeAscent_above cut (by simp [Disk.leads, plain.nonempty, plain.notHere]) ?_
    rooted.directory fun kept blanks whole real => ?_
  · rw [start, Path.isAbsolute_join relative]
    exact rooted.follow_root
  · rw [whole, dot, List.append_assoc] at parts
    exact checkPath_ofParts parts real (by simp) possible

theorem makeAscent_root (rooted : Rooted d root base) :
    d.makeAscent (Path.ascent (join root (ofNames []))) = (.ok (), d) := by
  have plain : Plain "x" := by decide
  have made := rooted.makeAscent_above_root plain
  have above := @Path.above_join root "x" [] (List.forall_mem_singleton.2 plain)
  rw [List.nil_append] at above
  rw [above] at made
  split at made
  · rename_i none
    rw [none]
    rfl
  · exact made

theorem makeAscent_above (rooted : Rooted d root base) (plain : ∀ m ∈ names ++ [n], Plain m) :
    d.makeAscent (Path.above (join root (ofNames (names ++ [n])))) =
      d.makeAscent (Path.ascent (join root (ofNames names))) := by
  by_cases none : names = []
  · subst none
    rw [rooted.makeAscent_root]
    exact rooted.makeAscent_above_root (plain n (by simp))
  · obtain ⟨front, m, rfl⟩ : ∃ front m, names = front ++ [m] :=
      ⟨_, _, (List.dropLast_concat_getLast none).symm⟩
    rw [Path.above_join plain, if_neg]
    rw [Path.ascent_join fun k mem => plain k (List.mem_append_left _ mem)]
    nofun

end Rooted

end Root

section Writing

variable {d : Disk} {root : String} {base : Route} {names : List Name}

theorem OnTheWay.below {r : Route} (plain : ∀ n ∈ names, Plain n) (h : OnTheWay base names r) :
    Below base r := by
  obtain ⟨front, nonempty, before, rfl⟩ := h
  refine ⟨front.dropLast, front.getLast nonempty, ?_, by rw [List.dropLast_concat_getLast]⟩
  rw [List.dropLast_concat_getLast]
  exact fun m mem => plain m (before.subset mem)

theorem Repository.grow_way {d' : Disk} (repo : Repository d root base) (plain : ∀ n ∈ names, Plain n)
    (gains : Gains (OnTheWay base names) (fun _ _ => False) d d') : Repository d' root base :=
  repo.grow gains (fun _ way => way.below plain) fun _ _ => False.elim

theorem gains_way {d' : Disk} {files : Route → ByteArray → Prop}
    (gains : Gains (OnThePath root base names) files d d') : Gains (OnTheWay base names) files d d' :=
  gains.mono (fun _ => OnThePath.onTheWay) fun _ _ => id

theorem OnTheWay.longer {n : Name} {r : Route} (h : OnTheWay base names r) :
    OnTheWay base (names ++ [n]) r := by
  obtain ⟨front, nonempty, before, rfl⟩ := h
  exact ⟨front, nonempty, before.trans (List.prefix_append _ _), rfl⟩

theorem OnThePath.longer {n : Name} {r : Route} (h : OnThePath root base names r) :
    OnThePath root base (names ++ [n]) r := by
  obtain ⟨front, nonempty, before, allowed, rfl⟩ := h
  exact ⟨front, nonempty, before.trans (List.prefix_append _ _), allowed, rfl⟩

theorem makeAscent_below (repo : Repository d root base) (plain : ∀ n ∈ names, Plain n) :
    Gains (OnThePath root base names) (fun _ _ => False) d
      (d.makeAscent (Path.ascent (join root (ofNames names)))).2 := by
  induction names using List.reverseRecOn with
  | nil =>
    rw [repo.rooted.makeAscent_root]
    exact .refl d
  | append_singleton names n ih =>
    have before := ih fun m mem => plain m (List.mem_append_left _ mem)
    have gain {d₀ d' : Disk} (repo : Repository d₀ root base)
        (made : d₀.makeDirectory (join root (ofNames (names ++ [n]))) = .ok d') :
        Gains (OnThePath root base (names ++ [n])) (fun _ _ => False) d₀ d' := by
      obtain ⟨dir, m, closed, last, free, rfl⟩ := makeDirectory_ok made
      obtain ⟨place, -, allowed⟩ := repo.slot_below (repo.join_leads (by simp) plain) plain last
      exact .put_directory free ⟨names ++ [n], by simp, List.prefix_rfl, allowed, place⟩
    rw [Path.ascent_join plain, makeAscent]
    split
    · rename_i d' made
      exact gain repo made
    · have earlier := before.mono (fun _ => OnThePath.longer (n := n)) fun _ _ => id
      split
      · rename_i fault d' went
        rw [went] at earlier
        exact earlier
      · rename_i d' went
        rw [went] at before earlier
        have grown := repo.grow_way (fun m mem => plain m (List.mem_append_left _ mem)) (gains_way before)
        exact earlier.trans (settle_gains fun _ made => gain grown made)
    · refine settle_gains fun _ made => ?_
      cases made

section New

variable {n : Name} {data : ByteArray}

theorem writeNew_slot (repo : Repository d root base) (plain : ∀ m ∈ names ++ [n], Plain m)
    {dir : Route} {m : Name} {closed : Bool}
    (last : d.slot (join root (ofNames (names ++ [n]))) = .ok (.name dir m closed)) :
    dir ++ [m] = base ++ (names ++ [n]) ∧ d.tree.lookup? dir = some .directory ∧
      Allowed root (names ++ [n]) := by
  exact repo.slot_below (repo.join_leads (by simp) plain) plain last

theorem made_below (repo : Repository d root base) (plain : ∀ m ∈ names ++ [n], Plain m) :
    Gains (OnThePath root base names) (fun _ _ => False) d
      (d.makeAscent (Path.above (join root (ofNames (names ++ [n]))))).2 := by
  rw [repo.rooted.makeAscent_above plain]
  exact makeAscent_below repo fun m mem => plain m (List.mem_append_left _ mem)

/-- A file that is written anew below the root comes to stand at the route of its names, and
directories come on the way there. -/
theorem writeNew_below (repo : Repository d root base) (plain : ∀ m ∈ names ++ [n], Plain m) :
    Gains (OnThePath root base names) (fun r bytes => bytes = data ∧ r = base ++ (names ++ [n])) d
      ((writeNew (join root (ofNames (names ++ [n]))) data).perform d).2 := by
  have made := made_below repo plain
  rcases writeNew_cases (join root (ofNames (names ++ [n]))) data d with
    ⟨-, refused⟩ | ⟨f, failed⟩ | ⟨dir, m, -, last, free, put⟩
  · rw [refused]
    exact .refl d
  · rw [failed]
    dsimp only
    exact made.mono (fun _ => id) fun _ _ => False.elim
  · rw [put]
    dsimp only
    have grown := repo.grow_way (fun m mem => plain m (List.mem_append_left _ mem)) (gains_way made)
    obtain ⟨place, -⟩ := writeNew_slot grown plain last
    exact (made.mono (fun _ => id) fun _ _ => False.elim).trans (.put_file free ⟨rfl, place⟩)

/-- Where writing a new file succeeds, nothing stood at its route, and the file does now; and the path
was within the limits. -/
theorem writeNew_ok (repo : Repository d root base) (plain : ∀ m ∈ names ++ [n], Plain m) {d' : Disk}
    (h : (writeNew (join root (ofNames (names ++ [n]))) data).perform d = (.ok (), d')) :
    d.tree.lookup? (base ++ (names ++ [n])) = none ∧
      d'.tree.lookup? (base ++ (names ++ [n])) = some (.file data false) ∧
      Allowed root (names ++ [n]) := by
  have made := made_below repo plain
  rcases writeNew_cases (join root (ofNames (names ++ [n]))) data d with
    ⟨-, refused⟩ | ⟨f, failed⟩ | ⟨dir, m, -, last, free, put⟩
  · rw [refused] at h
    cases h
  · rw [failed] at h
    cases h
  · have after := congrArg Prod.snd (put.symm.trans h)
    have grown := repo.grow_way (fun m mem => plain m (List.mem_append_left _ mem)) (gains_way made)
    obtain ⟨place, above, allowed⟩ := writeNew_slot grown plain last
    dsimp only at after
    generalize (d.makeAscent (Path.above (join root (ofNames (names ++ [n]))))).2 = d₁
      at made free above after
    subst after
    have fits : d₁.tree.Fits (dir ++ [m]) (.file data false) := by
      refine ⟨by simp, by simpa using above, ?_⟩
      rw [free]
      nofun
    rw [← place]
    refine ⟨?_, by rw [lookup?_put fits, if_pos rfl], allowed⟩
    cases before : d.tree.lookup? (dir ++ [m]) with
    | none => rfl
    | some e =>
      rw [made.grown _ e before] at free
      cases free

end New

end Writing

theorem stands_of_lookup? {d : Disk} {root path : String} {e : Entry}
    (found : d.lookup? (join root path) = some e) : d.stands root path = true := by
  unfold lookup? at found
  unfold Disk.stands holds
  cases led : d.locate (join root path) with
  | error fault =>
    rw [led] at found
    cases found
  | ok r => rfl

theorem Gains.stands {directories : Route → Prop} {files : Route → ByteArray → Prop} {d d' : Disk}
    {root path : String} (gains : Gains directories files d d') (there : d.stands root path = true) :
    d'.stands root path = true := by
  unfold Disk.stands holds at there ⊢
  cases found : d.locate (join root path) with
  | error fault =>
    rw [found] at there
    cases there
  | ok r =>
    rw [locate_mono gains.grown gains.current found]
    rfl

/-- A disk that has gained a file below the base, and directories on the way there. -/
abbrev GainsFile (root : String) (base : Route) (names : List Name) (n : Name) (data : ByteArray)
    (d d' : Disk) : Prop :=
  Gains (OnThePath root base names) (fun r bytes => bytes = data ∧ r = base ++ (names ++ [n])) d d'

namespace GainsFile

variable {d d' : Disk} {root : String} {base : Route} {names start : List Name} {n : Name}
  {data : ByteArray}

theorem repository (gains : GainsFile root base names n data d d') (repo : Repository d root base)
    (plain : ∀ m ∈ names ++ [n], Plain m) : Repository d' root base := by
  refine repo.grow gains
    (fun r way => way.onTheWay.below fun m mem => plain m (List.mem_append_left _ mem)) ?_
  rintro r bytes ⟨-, rfl⟩
  exact ⟨names, n, plain, rfl⟩

theorem lookup?_eq (gains : GainsFile root base names n data d d')
    (apart : ¬ start <+: names ++ [n]) :
    d'.tree.lookup? (base ++ start) = d.tree.lookup? (base ++ start) := by
  refine gains.same_of_not ?_ ?_
  · rintro ⟨front, -, before, -, same⟩
    obtain rfl := List.append_cancel_left same
    exact apart (before.trans (List.prefix_append _ _))
  · rintro bytes ⟨-, same⟩
    obtain rfl := List.append_cancel_left same
    exact apart List.prefix_rfl

theorem stands_eq (gains : GainsFile root base names n data d d') (repo : Repository d root base)
    (plain : ∀ m ∈ names ++ [n], Plain m) (nonempty : start ≠ []) (plain' : ∀ m ∈ start, Plain m)
    (apart : ¬ start <+: names ++ [n]) :
    d'.stands root (ofNames start) = d.stands root (ofNames start) := by
  rw [Bool.eq_iff_iff, (gains.repository repo plain).stands_iff nonempty plain',
    repo.stands_iff nonempty plain', gains.lookup?_eq apart]

/-- A search that does not look for the file finds what it found. -/
theorem listed_eq (gains : GainsFile root base names n data d d') (repo : Repository d root base)
    (plain : ∀ m ∈ names ++ [n], Plain m) (nonempty : start ≠ []) (plain' : ∀ m ∈ start, Plain m)
    {keep : Found → Bool}
    (other : ∀ q, q ≠ [] → start ++ q = names ++ [n] → keep (foundAt start q) = false) :
    (d'.listed root (ofNames start)).filter keep = (d.listed root (ofNames start)).filter keep := by
  refine repo.listed_congr (gains.repository repo plain) nonempty plain' fun q bytes x inner kept => ?_
  rcases gains.entry (base ++ start ++ q) with same | ⟨free, ⟨-, dir⟩ | ⟨_, ⟨-, here⟩, -⟩⟩
  · rw [same]
  · rw [free, dir]
    exact ⟨nofun, nofun⟩
  · rw [List.append_assoc] at here
    rw [other q inner (List.append_cancel_left here)] at kept
    cases kept

private theorem directory_cases (gains : GainsFile root base names n data d d') {q : List Name}
    (stands : d'.tree.lookup? (base ++ q) = some .directory) :
    d.tree.lookup? (base ++ q) = some .directory ∨ checkPath (join root (ofNames q)) = .ok () := by
  rcases gains.entry (base ++ q) with same | ⟨-, ⟨⟨front, -, -, allowed, place⟩, -⟩ | ⟨_, -, file⟩⟩
  · exact .inl (same ▸ stands)
  · obtain rfl := List.append_cancel_left place
    exact .inr allowed.1
  · cases stands.symm.trans file

theorem searchable_iff (gains : GainsFile root base names n data d d') (repo : Repository d root base)
    (plain : ∀ m ∈ names ++ [n], Plain m) (nonempty : start ≠ []) (plain' : ∀ m ∈ start, Plain m) :
    d'.Searchable root (ofNames start) ↔ d.Searchable root (ofNames start) := by
  rw [(gains.repository repo plain).searchable_iff nonempty plain',
    repo.searchable_iff nonempty plain']
  refine imp_congr_right fun _ => ⟨fun possible q stands => ?_, fun possible q stands => ?_⟩
  · exact possible q (gains.grown _ _ stands)
  · rw [List.append_assoc] at stands
    rcases gains.directory_cases stands with there | opened
    · exact possible q (by rwa [List.append_assoc])
    · exact opened

theorem failures_eq (gains : GainsFile root base names n data d d') (repo : Repository d root base)
    (plain : ∀ m ∈ names ++ [n], Plain m) (nonempty : start ≠ []) (plain' : ∀ m ∈ start, Plain m) :
    d'.failures root (ofNames start) = d.failures root (ofNames start) := by
  have repo' := gains.repository repo plain
  cases begun : d.searchStart? (join root (ofNames start)) with
  | none =>
    have searchable : d.Searchable root (ofNames start) := fun r other => nomatch begun.symm.trans other
    rw [failures_eq_nil_iff.2 searchable,
      failures_eq_nil_iff.2 ((gains.searchable_iff repo plain nonempty plain').2 searchable)]
  | some r =>
    obtain ⟨led, dir⟩ := searchStart?_eq_some_iff.1 begun
    obtain ⟨allowed, rfl, -⟩ := (repo.locate_iff nonempty plain').1 led
    have dir' := gains.grown _ _ dir
    have begun' : d'.searchStart? (join root (ofNames start)) = some (base ++ start) :=
      searchStart?_eq_some_iff.2 ⟨(repo'.locate_iff nonempty plain').2 ⟨allowed, rfl, _, dir'⟩, dir'⟩
    unfold failures
    rw [begun, begun']
    dsimp only
    unfold Tree.failures
    rw [List.filterMap_cons, List.filterMap_cons, Tree.filterMap_below_congr]
    intro q e shut
    obtain ⟨f, shut⟩ := Option.ne_none_iff_exists'.1 shut
    obtain ⟨rfl, fault, refused, -⟩ := shut?_eq_some_iff.1 shut
    refine ⟨fun stands => ?_, gains.grown _ _⟩
    rw [List.append_assoc] at stands ⊢
    refine (gains.directory_cases stands).resolve_right fun opened => ?_
    rw [foldl_join nonempty (repo'.plain_of_stands stands), opened] at refused
    cases refused

end GainsFile

end ConnectorKit.Disk
