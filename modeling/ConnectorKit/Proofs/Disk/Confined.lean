import ConnectorKit.Proofs.Disk.Growth

/-!
Actions that keep to a part of a repository. Writing a file reads and changes nothing but what stands
on the way to it; so on two disks that are alike there it comes to the same, and two actions on
different parts can be swapped.
-/

set_option autoImplicit false
set_option relaxedAutoImplicit false

namespace ConnectorKit.Disk

open Disk.Path (Plain join ofNames)
open Text.Search (split)

/-- The disks have the same at the routes that `part` tells of. -/
def AgreeOn (part : Route → Prop) (d d' : Disk) : Prop :=
  ∀ r, part r → d'.tree.lookup? r = d.tree.lookup? r

/-- Two outcomes with the same result, and with the same at the routes that `part` tells of. -/
structure Alike {α : Type} (part : Route → Prop) (x y : α × Disk) : Prop where
  result : y.1 = x.1
  disk : AgreeOn part x.2 y.2

theorem AgreeOn.mono {part smaller : Route → Prop} {d d' : Disk} (h : AgreeOn part d d')
    (sub : ∀ r, smaller r → part r) : AgreeOn smaller d d' :=
  fun r mem => h r (sub r mem)

theorem onTheWay_concat_iff {base : Route} {names : List Name} {n : Name} {r : Route} :
    OnTheWay base (names ++ [n]) r ↔ OnTheWay base names r ∨ r = base ++ (names ++ [n]) := by
  constructor
  · rintro ⟨front, nonempty, before, rfl⟩
    rcases List.prefix_concat_iff.1 before with rfl | inside
    · exact .inr rfl
    · exact .inl ⟨front, nonempty, inside, rfl⟩
  · rintro (way | rfl)
    · exact way.longer
    · exact ⟨names ++ [n], by simp, List.prefix_rfl, rfl⟩

section Ways

variable {t t' : Tree} {base : Route} {names : List Name} {tail : List String}

private theorem descend_congr
    (unlinked : ∀ r target, base <+: r → t.lookup? r ≠ some (.link target))
    (plain : ∀ n ∈ names, Plain n)
    (same : ∀ r, OnTheWay base names r → t'.lookup? r = t.lookup? r)
    (blank : tail = [] ∨ tail = [""]) :
    descend t' base (names ++ tail) = descend t base (names ++ tail) ∧
      ∀ b target rest, descend t base (names ++ tail) ≠ .linked b target rest := by
  induction names generalizing base with
  | nil =>
    rcases blank with rfl | rfl
    · exact ⟨rfl, nofun⟩
    · exact ⟨rfl, nofun⟩
  | cons n rest ih =>
    have first := plain n List.mem_cons_self
    rw [List.cons_append]
    by_cases short : n.utf8ByteSize ≤ nameLimit
    · have here := same (base ++ [n]) ⟨[n], by simp, by simp, rfl⟩
      rw [descend_name first short, descend_name first short, here]
      cases stands : t.lookup? (base ++ [n]) with
      | none => exact ⟨rfl, nofun⟩
      | some e =>
        cases e with
        | link target => exact absurd stands (unlinked _ target (List.prefix_append _ _))
        | file data executable =>
          refine ⟨rfl, fun b target more => ?_⟩
          dsimp only
          split <;> nofun
        | directory =>
          refine ih (fun r target inside => unlinked r target ((List.prefix_append _ _).trans inside))
            (fun m mem => plain m (List.mem_cons_of_mem _ mem)) ?_
          rintro r ⟨front, nonempty, before, rfl⟩
          exact same _ ⟨n :: front, by simp, List.cons_prefix_cons.2 ⟨rfl, before⟩, by simp⟩
    · rw [descend_long first short, descend_long first short]
      exact ⟨rfl, nofun⟩

private theorem follow_congr
    (unlinked : ∀ r target, base <+: r → t.lookup? r ≠ some (.link target))
    (plain : ∀ n ∈ names, Plain n)
    (same : ∀ r, OnTheWay base names r → t'.lookup? r = t.lookup? r)
    (blank : tail = [] ∨ tail = [""]) (links links' : Nat) :
    follow t' links' base (names ++ tail) = follow t links base (names ++ tail) := by
  obtain ⟨way, unlinked⟩ := descend_congr unlinked plain same blank
  rw [follow, follow, way]
  cases went : descend t base (names ++ tail) with
  | arrived r => rfl
  | stopped fault => rfl
  | linked b target rest => exact absurd went (unlinked b target rest)

end Ways

section Paths

variable {d d' : Disk} {root path : String} {base : Route} {names : List Name} {n : Name}

namespace LeadsBelow

theorem locate_congr (leads : LeadsBelow d base path names) (leads' : LeadsBelow d' base path names)
    (repo : Repository d root base) (plain : ∀ m ∈ names, Plain m)
    (same : AgreeOn (OnTheWay base names) d d') : d'.locate path = d.locate path := by
  obtain ⟨left, told⟩ := leads.locate_eq
  obtain ⟨left', told'⟩ := leads'.locate_eq
  have way := follow_congr (fun _ _ => repo.unlinked) plain same (.inl rfl) left left'
  rw [List.append_nil] at way
  rw [told, told', way]

theorem lookup?_congr (leads : LeadsBelow d base path names)
    (leads' : LeadsBelow d' base path names) (repo : Repository d root base) (nonempty : names ≠ [])
    (plain : ∀ m ∈ names, Plain m) (same : AgreeOn (OnTheWay base names) d d') :
    d'.lookup? path = d.lookup? path := by
  unfold lookup?
  rw [leads.locate_congr leads' repo plain same]
  obtain ⟨left, told⟩ := leads.locate_eq
  cases found : d.locate path with
  | error fault => rfl
  | ok r =>
    rw [told] at found
    obtain ⟨⟨⟩, -, went⟩ := bind_ok found
    obtain ⟨rfl, -⟩ := (follow_plain (fun _ _ => repo.unlinked) plain left).1 went
    exact same _ ⟨names, nonempty, List.prefix_rfl, rfl⟩

theorem slot_congr (leads : LeadsBelow d base path (names ++ [n]))
    (leads' : LeadsBelow d' base path (names ++ [n])) (repo : Repository d root base)
    (plain : ∀ m ∈ names ++ [n], Plain m) (same : AgreeOn (OnTheWay base names) d d') :
    d'.slot path = d.slot path := by
  obtain ⟨front, cut, went⟩ := leads
  obtain ⟨front', cut', went'⟩ := leads'
  obtain rfl := List.append_cancel_right (cut.symm.trans cut')
  have real := (plain n (List.mem_append_right _ List.mem_cons_self)).nonempty
  obtain ⟨left, on⟩ := follow_split (names ++ [""]) went
  obtain ⟨left', on'⟩ := follow_split (names ++ [""]) went'
  have way := follow_congr (fun _ _ => repo.unlinked)
    (fun m mem => plain m (List.mem_append_left _ mem)) same (.inr rfl) left left'
  rw [← List.append_assoc] at cut
  rw [slot_of_split cut real, slot_of_split cut real, List.append_assoc, on, on', way]

end LeadsBelow

theorem Repository.stands_congr (repo : Repository d root base) (repo' : Repository d' root base)
    (nonempty : names ≠ []) (plain : ∀ m ∈ names, Plain m)
    (same : AgreeOn (OnTheWay base names) d d') :
    d'.stands root (ofNames names) = d.stands root (ofNames names) := by
  have here := same _ ⟨names, nonempty, List.prefix_rfl, rfl⟩
  rw [Bool.eq_iff_iff, repo'.stands_iff nonempty plain, repo.stands_iff nonempty plain, here]

end Paths

section Making

variable {d d' : Disk} {root path : String} {base : Route} {names : List Name} {n : Name}

private theorem put_agree {r dir : Route} {e : Entry} {m : Name} (place : dir ++ [m] = r)
    (above : d.tree.lookup? dir = some .directory) (above' : d'.tree.lookup? dir = some .directory)
    (free : d.tree.lookup? r = none) (free' : d'.tree.lookup? r = none) {part : Route → Prop}
    (same : AgreeOn part d d') : AgreeOn part (d.put r e) (d'.put r e) := by
  subst place
  have fits : d.tree.Fits (dir ++ [m]) e :=
    ⟨by simp, by rwa [List.dropLast_concat], by rw [free]; nofun⟩
  have fits' : d'.tree.Fits (dir ++ [m]) e :=
    ⟨by simp, by rwa [List.dropLast_concat], by rw [free']; nofun⟩
  intro q mem
  rw [lookup?_put fits, lookup?_put fits', same q mem]

private theorem makeDirectory_alike (repo : Repository d root base) (repo' : Repository d' root base)
    (leads : LeadsBelow d base path (names ++ [n])) (leads' : LeadsBelow d' base path (names ++ [n]))
    (plain : ∀ m ∈ names ++ [n], Plain m) (same : AgreeOn (OnTheWay base (names ++ [n])) d d') :
    (∃ fault, d.makeDirectory path = .error fault ∧ d'.makeDirectory path = .error fault) ∨
      ∃ made made', d.makeDirectory path = .ok made ∧ d'.makeDirectory path = .ok made' ∧
        AgreeOn (OnTheWay base (names ++ [n])) made made' := by
  have slots := leads.slot_congr leads' repo plain (same.mono fun _ => OnTheWay.longer)
  unfold makeDirectory
  rw [slots]
  cases last : d.slot path with
  | error fault => exact .inl ⟨fault, rfl, rfl⟩
  | ok place =>
    cases place with
    | noName => exact .inl ⟨.exists, rfl, rfl⟩
    | name dir m closed =>
      obtain ⟨place, above, -⟩ := repo.slot_below leads plain last
      obtain ⟨-, above', -⟩ := repo'.slot_below leads' plain (slots.trans last)
      have here := same _ (onTheWay_concat_iff.2 (.inr place))
      simp only [bind, Except.bind, here]
      cases stands : d.tree.lookup? (dir ++ [m]) with
      | some e => exact .inl ⟨.exists, rfl, rfl⟩
      | none =>
        exact .inr ⟨_, _, rfl, rfl, put_agree rfl above above' stands (here.trans stands) same⟩

private theorem settle_alike (repo : Repository d root base)
    (leads : LeadsBelow d base path (names ++ [n])) (leads' : LeadsBelow d' base path (names ++ [n]))
    (plain : ∀ m ∈ names ++ [n], Plain m) (same : AgreeOn (OnTheWay base (names ++ [n])) d d')
    (fault : Fault) : Alike (OnTheWay base (names ++ [n]))
      (makeAscent.settle d path (.error fault)) (makeAscent.settle d' path (.error fault)) := by
  have there : d'.isDirectory path = d.isDirectory path := by
    rw [isDirectory, isDirectory, leads.lookup?_congr leads' repo (by simp) plain same]
  simp only [makeAscent.settle, there]
  split
  · exact ⟨rfl, same⟩
  · exact ⟨rfl, same⟩

private theorem settle_makeDirectory_alike (repo : Repository d root base)
    (repo' : Repository d' root base) (leads : LeadsBelow d base path (names ++ [n]))
    (leads' : LeadsBelow d' base path (names ++ [n])) (plain : ∀ m ∈ names ++ [n], Plain m)
    (same : AgreeOn (OnTheWay base (names ++ [n])) d d') : Alike (OnTheWay base (names ++ [n]))
      (makeAscent.settle d path (d.makeDirectory path))
      (makeAscent.settle d' path (d'.makeDirectory path)) := by
  rcases makeDirectory_alike repo repo' leads leads' plain same with
    ⟨fault, refused, refused'⟩ | ⟨made, made', went, went', agree⟩
  · rw [refused, refused']
    exact settle_alike repo leads leads' plain same fault
  · rw [went, went']
    exact ⟨rfl, agree⟩

private theorem agree_concat {d₁ d₁' : Disk} (same : AgreeOn (OnTheWay base (names ++ [n])) d d')
    (gains : Gains (OnTheWay base names) (fun _ _ => False) d d₁)
    (gains' : Gains (OnTheWay base names) (fun _ _ => False) d' d₁')
    (before : AgreeOn (OnTheWay base names) d₁ d₁') :
    AgreeOn (OnTheWay base (names ++ [n])) d₁ d₁' := by
  intro r way
  rcases onTheWay_concat_iff.1 way with earlier | rfl
  · exact before r earlier
  · have apart : ¬ OnTheWay base names (base ++ (names ++ [n])) := by
      rintro ⟨front, -, inside, whole⟩
      obtain rfl := List.append_cancel_left whole
      have long := inside.length_le
      rw [List.length_append, List.length_singleton] at long
      omega
    rw [gains.same_of_not apart (by simp), gains'.same_of_not apart (by simp), same _ way]

private theorem makeAscent_alike (repo : Repository d root base) (repo' : Repository d' root base)
    (plain : ∀ m ∈ names, Plain m) (same : AgreeOn (OnTheWay base names) d d') :
    Alike (OnTheWay base names) (d.makeAscent (Path.ascent (join root (ofNames names))))
      (d'.makeAscent (Path.ascent (join root (ofNames names)))) := by
  induction names using List.reverseRecOn with
  | nil =>
    rw [repo.rooted.makeAscent_root, repo'.rooted.makeAscent_root]
    exact ⟨rfl, same⟩
  | append_singleton names n ih =>
    have inner := fun m mem => plain m (List.mem_append_left _ mem)
    have before := ih inner (same.mono fun _ => OnTheWay.longer)
    have gains := gains_way (makeAscent_below repo inner)
    have gains' := gains_way (makeAscent_below repo' inner)
    have leads {d₀ : Disk} (repo : Repository d₀ root base) :=
      repo.join_leads (by simp) plain
    have first := makeDirectory_alike repo repo' (leads repo) (leads repo') plain same
    have settled := settle_alike repo (leads repo) (leads repo') plain same
    have later {d₁ d₁' : Disk} (repo₁ : Repository d₁ root base) (repo₁' : Repository d₁' root base) :=
      settle_makeDirectory_alike repo₁ repo₁' (leads repo₁) (leads repo₁') plain
    rw [Path.ascent_join plain, makeAscent, makeAscent]
    rcases first with ⟨fault, refused, refused'⟩ | ⟨made, made', went, went', agree⟩
    · rw [refused, refused']
      cases fault with
      | missing =>
        dsimp only
        generalize Path.ascent (join root (ofNames names)) = above at before gains gains' ⊢
        generalize d.makeAscent above = x at before gains ⊢
        generalize d'.makeAscent above = x' at before gains' ⊢
        obtain ⟨outcome, d₁⟩ := x
        obtain ⟨outcome', d₁'⟩ := x'
        obtain rfl : outcome = outcome' := before.result.symm
        have agree := agree_concat same gains gains' before.disk
        cases outcome with
        | error fault => exact ⟨rfl, agree⟩
        | ok => exact later (repo.grow_way inner gains) (repo'.grow_way inner gains') agree
      | _ => exact settled _
    · rw [went, went']
      exact ⟨rfl, agree⟩

end Making

section Writing

variable {d d' : Disk} {root path : String} {base : Route} {names : List Name} {n : Name}
  {data : ByteArray}

private theorem publishNew_alike (repo : Repository d root base) (repo' : Repository d' root base)
    (leads : LeadsBelow d base path (names ++ [n])) (leads' : LeadsBelow d' base path (names ++ [n]))
    (plain : ∀ m ∈ names ++ [n], Plain m) (same : AgreeOn (OnTheWay base (names ++ [n])) d d') :
    Alike (OnTheWay base (names ++ [n])) (publishNew path data d) (publishNew path data d') := by
  have slots := leads.slot_congr leads' repo plain (same.mono fun _ => OnTheWay.longer)
  unfold publishNew
  rw [slots]
  cases last : d.slot path with
  | error fault => exact ⟨rfl, same⟩
  | ok place =>
    cases place with
    | noName => exact ⟨rfl, same⟩
    | name dir m closed =>
      obtain ⟨place, above, -⟩ := repo.slot_below leads plain last
      obtain ⟨-, above', -⟩ := repo'.slot_below leads' plain (slots.trans last)
      have here := same _ (onTheWay_concat_iff.2 (.inr place))
      dsimp only
      rw [publishAt_eq, publishAt_eq, here]
      cases stands : d.tree.lookup? (dir ++ [m]) with
      | some e => exact ⟨rfl, same⟩
      | none =>
        cases closed with
        | true => exact ⟨rfl, same⟩
        | false => exact ⟨rfl, put_agree rfl above above' stands (here.trans stands) same⟩

/-- Writing a new file comes to the same on disks that agree on the way to it. -/
theorem writeNew_alike (repo : Repository d root base) (repo' : Repository d' root base)
    (plain : ∀ m ∈ names ++ [n], Plain m)
    (same : AgreeOn (OnTheWay base (names ++ [n])) d d') : Alike (OnTheWay base (names ++ [n]))
      ((writeNew (join root (ofNames (names ++ [n]))) data).perform d)
      ((writeNew (join root (ofNames (names ++ [n]))) data).perform d') := by
  have front := fun m mem => plain m (List.mem_append_left _ mem)
  have leads {d₀ : Disk} (repo : Repository d₀ root base) := repo.join_leads (by simp) plain
  have there : d'.holds (join root (ofNames (names ++ [n]))) =
      d.holds (join root (ofNames (names ++ [n]))) := by
    rw [holds, holds, (leads repo).locate_congr (leads repo') repo plain same]
  have gains := gains_way (made_below repo plain)
  have gains' := gains_way (made_below repo' plain)
  have made : Alike (OnTheWay base names)
      (d.makeAscent (Path.above (join root (ofNames (names ++ [n])))))
      (d'.makeAscent (Path.above (join root (ofNames (names ++ [n]))))) := by
    rw [repo.rooted.makeAscent_above plain, repo'.rooted.makeAscent_above plain]
    exact makeAscent_alike repo repo' front (same.mono fun _ => OnTheWay.longer)
  unfold writeNew Action.perform
  dsimp only
  rw [there]
  split
  · exact ⟨rfl, same⟩
  · unfold withDirectory
    have agree := agree_concat same gains gains' made.disk
    have given {d₁ d₁' : Disk} (repo₁ : Repository d₁ root base) (repo₁' : Repository d₁' root base) :=
      @publishNew_alike _ _ root (join root (ofNames (names ++ [n]))) base names n data repo₁ repo₁'
        (leads repo₁) (leads repo₁') plain
    generalize join root (ofNames (names ++ [n])) = path at *
    generalize d.makeAscent (Path.above path) = x at made gains agree ⊢
    generalize d'.makeAscent (Path.above path) = x' at made gains' agree ⊢
    obtain ⟨outcome, d₁⟩ := x
    obtain ⟨outcome', d₁'⟩ := x'
    obtain rfl : outcome = outcome' := made.result.symm
    cases outcome with
    | error fault => exact ⟨rfl, agree⟩
    | ok =>
      have put := given (repo.grow_way front gains) (repo'.grow_way front gains') agree
      refine ⟨?_, put.disk⟩
      change (publishNew path data d₁').1.mapError _ = (publishNew path data d₁).1.mapError _
      rw [put.result]

end Writing

/-- An action that reads and changes a part of a repository only, and does no more than add to it. -/
structure Confined (root : String) (base : Route) (part : Route → Prop) {α : Type}
    (act : Action Disk α) : Prop where
  below {r : Route} : part r → Below base r
  gains {d : Disk} : Repository d root base →
    Gains part (fun r _ => part r) d (act.perform d).2
  alike {d d' : Disk} : Repository d root base → Repository d' root base → AgreeOn part d d' →
    Alike part (act.perform d) (act.perform d')

/-- Two actions come to the same in either order: each gives the result that it gives without the
other before it, and the disk is the same in the end. -/
structure Swappable {α β : Type} (act : Action Disk α) (act' : Action Disk β) (d : Disk) : Prop where
  first : (act.perform (act'.perform d).2).1 = (act.perform d).1
  second : (act'.perform (act.perform d).2).1 = (act'.perform d).1
  disk : (act.perform (act'.perform d).2).2 = (act'.perform (act.perform d).2).2

namespace Swappable

variable {α β : Type} {act : Action Disk α} {act' : Action Disk β} {d : Disk}

theorem symm (h : Swappable act act' d) : Swappable act' act d :=
  ⟨h.second, h.first, h.disk.symm⟩

theorem of_idle {answer : Except Failure α} (idle : ∀ d, act.perform d = (answer, d)) :
    Swappable act act' d := by
  constructor
  · rw [idle, idle]
  · rw [idle]
  · rw [idle, idle]

end Swappable

namespace Confined

variable {d d' : Disk} {root : String} {base : Route} {part part' : Route → Prop} {α β : Type}
  {act : Action Disk α} {act' : Action Disk β}

theorem keeps (h : Confined root base part act) (repo : Repository d root base) :
    Repository (act.perform d).2 root base :=
  repo.grow (h.gains repo) (fun _ => h.below) fun _ _ => h.below

theorem outside (h : Confined root base part act) (repo : Repository d root base) {r : Route}
    (apart : ¬ part r) : (act.perform d).2.tree.lookup? r = d.tree.lookup? r :=
  (h.gains repo).same_of_not apart fun _ => apart

theorem agree (h : Confined root base part act) (repo : Repository d root base)
    (repo' : Repository d' root base) (sub : ∀ r, part r → part' r) (same : AgreeOn part' d d') :
    AgreeOn part' (act.perform d).2 (act.perform d').2 := by
  intro r mem
  by_cases inside : part r
  · exact (h.alike repo repo' (same.mono sub)).disk r inside
  · rw [h.outside repo inside, h.outside repo' inside, same r mem]

theorem mono (h : Confined root base part act) (sub : ∀ r, part r → part' r)
    (below : ∀ r, part' r → Below base r) : Confined root base part' act where
  below := below _
  gains repo := (h.gains repo).mono sub fun _ _ => sub _
  alike repo repo' same :=
    ⟨(h.alike repo repo' (same.mono sub)).result, h.agree repo repo' sub same⟩

theorem of_idle {answer : Except Failure α} (idle : ∀ d, act.perform d = (answer, d))
    (below : ∀ r, part r → Below base r) : Confined root base part act where
  below := below _
  gains repo := by
    rw [idle]
    exact .refl _
  alike repo repo' same := by
    rw [idle, idle]
    exact ⟨rfl, same⟩

theorem retold (h : Confined root base part act) {tell : Except Failure α → Except Failure β}
    (told : ∀ d, act'.perform d = (tell (act.perform d).1, (act.perform d).2)) :
    Confined root base part act' where
  below := h.below
  gains repo := by
    rw [told]
    exact h.gains repo
  alike repo repo' same := by
    have first := h.alike repo repo' same
    rw [told, told, first.result]
    exact ⟨rfl, first.disk⟩

theorem guarded {careful : Action Disk α} (h : Confined root base part act)
    {refused : Disk → Option Failure}
    (look : ∀ {d d' : Disk}, Repository d root base → Repository d' root base → AgreeOn part d d' →
      refused d' = refused d)
    (told : ∀ d, careful.perform d = match refused d with
      | some f => (.error f, d)
      | none => act.perform d) : Confined root base part careful where
  below := h.below
  gains {d} repo := by
    rw [told]
    cases refused d with
    | some f => exact .refl d
    | none => exact h.gains repo
  alike {d d'} repo repo' same := by
    rw [told, told, look repo repo' same]
    cases refused d with
    | some f => exact ⟨rfl, same⟩
    | none => exact h.alike repo repo' same

theorem bind {next : α → Action Disk β} (h : Confined root base part act)
    (later : ∀ a, Confined root base part (next a)) : Confined root base part (act >>= next) where
  below := h.below
  gains {d} repo := by
    have first := h.gains repo
    have kept := h.keeps repo
    rw [Action.perform_bind]
    generalize act.perform d = x at first kept
    obtain ⟨f | a, d₁⟩ := x
    · exact first
    · exact first.trans ((later a).gains kept)
  alike {d d'} repo repo' same := by
    have first := h.alike repo repo' same
    have kept := h.keeps repo
    have kept' := h.keeps repo'
    rw [Action.perform_bind, Action.perform_bind]
    generalize act.perform d = x at first kept
    generalize act.perform d' = x' at first kept'
    obtain ⟨answer, d₁⟩ := x
    obtain ⟨answer', d₁'⟩ := x'
    obtain rfl : answer = answer' := first.result.symm
    cases answer with
    | error f => exact ⟨rfl, first.disk⟩
    | ok a => exact (later a).alike kept kept' first.disk

private theorem agree_other (h : Confined root base part act) (repo : Repository d root base)
    (common : ∀ r, part r → part' r → ∃ e, d.tree.lookup? r = some e) :
    AgreeOn part' d (act.perform d).2 := by
  intro r mem
  by_cases shared : part r
  · obtain ⟨e, stands⟩ := common r shared mem
    rw [stands, (h.gains repo).grown r e stands]
  · exact h.outside repo shared

/-- Two actions whose parts share only what is there can be swapped. -/
theorem swap (first : Confined root base part act) (second : Confined root base part' act')
    (repo : Repository d root base)
    (common : ∀ r, part r → part' r → ∃ e, d.tree.lookup? r = some e) : Swappable act act' d := by
  have repo₁ := first.keeps repo
  have repo₂ := second.keeps repo
  have again := first.alike repo repo₂
    (second.agree_other repo fun r mem mem' => common r mem' mem)
  have again' := second.alike repo repo₁ (first.agree_other repo common)
  refine ⟨again.result, again'.result, ?_⟩
  have tree : (act.perform (act'.perform d).2).2.tree = (act'.perform (act.perform d).2).2.tree := by
    refine Tree.ext fun r => ?_
    by_cases mem : part r
    · rw [again.disk r mem]
      by_cases mem' : part' r
      · obtain ⟨e, stands⟩ := common r mem mem'
        rw [again'.disk r mem', (first.gains repo).grown r e stands,
          (second.gains repo).grown r e stands]
      · exact (second.outside repo₁ mem').symm
    · rw [first.outside repo₂ mem]
      by_cases mem' : part' r
      · exact (again'.disk r mem').symm
      · rw [second.outside repo₁ mem', second.outside repo mem', first.outside repo mem]
  have current : (act.perform (act'.perform d).2).2.current =
      (act'.perform (act.perform d).2).2.current := by
    rw [(first.gains repo₂).current, (second.gains repo).current, (second.gains repo₁).current,
      (first.gains repo).current]
  generalize (act.perform (act'.perform d).2).2 = x at tree current
  generalize (act'.perform (act.perform d).2).2 = y at tree current
  cases x
  cases y
  exact congr (congrArg Disk.mk tree) current

end Confined

theorem writeNew_confined {root : String} {base : Route} {names : List Name} {n : Name}
    (plain : ∀ m ∈ names ++ [n], Plain m) (data : ByteArray) : Confined root base (OnTheWay base (names ++ [n]))
      (writeNew (join root (ofNames (names ++ [n]))) data) where
  below way := way.below plain
  gains repo := (writeNew_below repo plain).mono (fun _ way => way.onTheWay.longer) fun _ _ told =>
    onTheWay_concat_iff.2 (.inr told.2)
  alike repo repo' same := writeNew_alike repo repo' plain same

end ConnectorKit.Disk
