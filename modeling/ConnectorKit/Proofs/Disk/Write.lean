import ConnectorKit.Disk.Write
import ConnectorKit.Proofs.Disk.Resolution
import Std.Data.String.ToNat

/-!
What writing does to a disk. The prepared file is gone in either case, so a file is put at its place
or nothing happens; and all that is made on the way is directories.
-/

set_option autoImplicit false
set_option relaxedAutoImplicit false

namespace ConnectorKit.Disk

private theorem preparedNames_distinct (t : Tree) (dir : Route) :
    ((preparedNames t).map (dir ++ [·])).Nodup := by
  unfold preparedNames
  rw [List.map_map]
  refine List.Pairwise.map _ (fun m n apart same => apart ?_) List.nodup_range
  have names : ".tmp" ++ toString m = ".tmp" ++ toString n := by
    simpa using List.append_cancel_left same
  exact Nat.repr_injective (by simpa using names)

/-- Beside any place there is room for a prepared file: there are more names than entries. -/
private theorem preparedAt_free (t : Tree) (place : Route) :
    preparedAt t place ≠ place ∧ t.lookup? (preparedAt t place) = none ∧
      ∃ n, preparedAt t place = place.dropLast ++ [n] := by
  unfold preparedAt
  generalize names : (preparedNames t).map (place.dropLast ++ [·]) = candidates
  cases found : candidates.find? fun r => r ≠ place ∧ (t.lookup? r).isNone with
  | some r =>
    have mem := List.mem_of_find?_eq_some found
    have holds := List.find?_some found
    simp only [decide_eq_true_eq, Option.isNone_iff_eq_none] at holds
    rw [← names, List.mem_map] at mem
    obtain ⟨n, -, rfl⟩ := mem
    exact ⟨holds.1, holds.2, n, rfl⟩
  | none =>
    have distinct := preparedNames_distinct t place.dropLast
    rw [names] at distinct
    have taken : candidates ⊆ place :: t.entries.map Prod.fst := by
      intro r mem
      have no := List.find?_eq_none.1 found r mem
      have inner : r ≠ [] := by
        rw [← names, List.mem_map] at mem
        obtain ⟨n, -, rfl⟩ := mem
        simp
      by_cases same : r = place
      · exact same ▸ List.mem_cons_self
      · obtain ⟨e, stands⟩ : ∃ e, t.lookup? r = some e :=
          Option.ne_none_iff_exists'.1 fun free => no (by simp [same, free])
        have entry := (Tree.lookup?_iff inner).1 stands
        exact List.mem_cons_of_mem _ (List.mem_map.2 ⟨_, entry, rfl⟩)
    have few := distinct.length_le_of_subset taken
    have many : candidates.length = t.entries.length + 2 := by
      rw [← names]
      simp [preparedNames]
    simp at few
    omega

theorem lookup?_put {d : Disk} {r : Route} {e : Entry} (fits : d.tree.Fits r e) (q : Route) :
    (d.put r e).tree.lookup? q = if q = r then some e else d.tree.lookup? q :=
  Tree.lookup?_put fits q

theorem fits_of_file {d : Disk} {r : Route} {old new : ByteArray} {before after : Bool}
    (stands : d.tree.lookup? r = some (.file old before)) : d.tree.Fits r (.file new after) := by
  refine ⟨?_, Tree.lookup?_parent stands, ?_⟩
  · rintro rfl
    cases stands
  · rw [stands]
    nofun

theorem put_of_not_fits {d : Disk} {r : Route} {e : Entry} (h : ¬ d.tree.Fits r e) :
    d.put r e = d := by
  unfold put
  rw [Tree.put_of_not_fits h]

private theorem remove_put {d : Disk} {r : Route} {e : Entry} (inner : r ≠ [])
    (free : d.tree.lookup? r = none) : (d.put r e).remove r = d := by
  have tree : ((d.put r e).remove r).tree = d.tree := by
    refine Tree.ext fun q => ?_
    change ((d.put r e).tree.remove r).lookup? q = _
    rw [Tree.lookup?_remove inner]
    split
    · rename_i below
      exact (Tree.lookup?_below free below).symm
    · rename_i apart
      by_cases fits : d.tree.Fits r e
      · have other : q ≠ r := fun same => apart (same ▸ List.prefix_rfl)
        rw [lookup?_put fits, if_neg other]
      · rw [put_of_not_fits fits]
  calc (d.put r e).remove r = ⟨((d.put r e).remove r).tree, d.current⟩ := rfl
    _ = d := by rw [tree]

/-- Publishing leaves no trace of the prepared file: the file is at its place, or all is as it
was. -/
theorem publishAt_eq (d : Disk) (place : Route) (data : ByteArray)
    (check : Option Entry → Except Fault Unit) :
    d.publishAt place data check = match check (d.tree.lookup? place) with
      | .ok () => (.ok (), d.put place (.file data false))
      | .error fault => (.error fault, d) := by
  obtain ⟨apart, free, n, beside⟩ := preparedAt_free d.tree place
  unfold publishAt
  dsimp only
  generalize preparedAt d.tree place = source at apart free beside ⊢
  have source_inner : source ≠ [] := by simp [beside]
  have removed : (d.put source (.file data false)).remove source = d := remove_put source_inner free
  have seen : (d.put source (.file data false)).tree.lookup? place = d.tree.lookup? place := by
    by_cases fits : d.tree.Fits source (.file data false)
    · rw [lookup?_put fits, if_neg apart.symm]
    · rw [put_of_not_fits fits]
  rw [seen]
  cases check (d.tree.lookup? place) with
  | error fault => simp only [removed]
  | ok =>
    have renamed : (d.put source (.file data false)).rename source place =
        d.put place (.file data false) := by
      unfold rename
      by_cases fits : d.tree.Fits source (.file data false)
      · rw [lookup?_put fits, if_pos rfl]
        dsimp only
        rw [removed]
      · rw [put_of_not_fits fits, free]
        have parent : source.dropLast = place.dropLast := by simp [beside]
        refine (put_of_not_fits fun room => fits ⟨source_inner, parent ▸ room.2.1, ?_⟩).symm
        rw [free]
        exact nofun
    simp only [renamed]

/-- A disk that has gained directories and files that `directories` and `files` tell of; the rest is
as it was. -/
structure Gains (directories : Route → Prop) (files : Route → ByteArray → Prop) (d d' : Disk) :
    Prop where
  current : d'.current = d.current
  entry : ∀ r, d'.tree.lookup? r = d.tree.lookup? r ∨ d.tree.lookup? r = none ∧
    (directories r ∧ d'.tree.lookup? r = some .directory ∨
      ∃ data, files r data ∧ d'.tree.lookup? r = some (.file data false))

/-- A disk that has gained any directories, and files that `files` tells of. -/
abbrev Adds (files : Route → ByteArray → Prop) (d d' : Disk) : Prop :=
  Gains (fun _ => True) files d d'

/-- A disk that has gained directories only. -/
abbrev AddsDirectories (d d' : Disk) : Prop :=
  Adds (fun _ _ => False) d d'

namespace Gains

variable {directories directories' : Route → Prop} {files files' : Route → ByteArray → Prop}
  {d d₁ d₂ : Disk}

theorem refl (d : Disk) : Gains directories files d d :=
  ⟨rfl, fun _ => .inl rfl⟩

theorem mono (h : Gains directories files d d₁) (dirs : ∀ r, directories r → directories' r)
    (imp : ∀ r data, files r data → files' r data) : Gains directories' files' d d₁ := by
  refine ⟨h.current, fun r => (h.entry r).imp_right ?_⟩
  rintro ⟨free, ⟨told, dir⟩ | ⟨data, told, file⟩⟩
  · exact ⟨free, .inl ⟨dirs r told, dir⟩⟩
  · exact ⟨free, .inr ⟨data, imp r data told, file⟩⟩

theorem trans (h : Gains directories files d d₁) (h' : Gains directories files d₁ d₂) :
    Gains directories files d d₂ := by
  refine ⟨h'.current.trans h.current, fun r => ?_⟩
  rcases h.entry r with same | ⟨free, gained⟩
  · rw [← same]
    exact h'.entry r
  · rcases h'.entry r with same' | ⟨free', -⟩
    · rw [same']
      exact .inr ⟨free, gained⟩
    · rcases gained with ⟨-, dir⟩ | ⟨data, -, file⟩
      · rw [dir] at free'
        cases free'
      · rw [file] at free'
        cases free'

theorem grown (h : Gains directories files d d₁) : d.tree.Extends d₁.tree := by
  intro r e stands
  rcases h.entry r with same | ⟨free, -⟩
  · rw [same, stands]
  · rw [stands] at free
    cases free

theorem same_of_not (h : Gains directories files d d₁) {r : Route} (dirs : ¬ directories r)
    (none : ∀ data, ¬ files r data) : d₁.tree.lookup? r = d.tree.lookup? r := by
  rcases h.entry r with same | ⟨-, ⟨told, -⟩ | ⟨data, told, -⟩⟩
  · exact same
  · exact absurd told dirs
  · exact absurd told (none data)

theorem put_directory {r : Route} (free : d.tree.lookup? r = none) (told : directories r) :
    Gains directories files d (d.put r .directory) := by
  by_cases fits : d.tree.Fits r .directory
  · refine ⟨rfl, fun q => ?_⟩
    rw [lookup?_put fits]
    split
    · rename_i here
      subst here
      exact .inr ⟨free, .inl ⟨told, rfl⟩⟩
    · exact .inl rfl
  · rw [put_of_not_fits fits]
    exact .refl d

theorem put_file {r : Route} {data : ByteArray} (free : d.tree.lookup? r = none)
    (told : files r data) : Gains directories files d (d.put r (.file data false)) := by
  by_cases fits : d.tree.Fits r (.file data false)
  · refine ⟨rfl, fun q => ?_⟩
    rw [lookup?_put fits]
    split
    · rename_i here
      subst here
      exact .inr ⟨free, .inr ⟨data, told, rfl⟩⟩
    · exact .inl rfl
  · rw [put_of_not_fits fits]
    exact .refl d

end Gains

theorem makeDirectory_ok {d d' : Disk} {path : String} (h : d.makeDirectory path = .ok d') :
    ∃ dir n closed, d.slot path = .ok (.name dir n closed) ∧ d.tree.lookup? (dir ++ [n]) = none ∧
      d' = d.put (dir ++ [n]) .directory := by
  obtain ⟨last, found, h⟩ := bind_ok h
  cases last with
  | noName => cases h
  | name dir n closed =>
    dsimp only at h
    cases stands : d.tree.lookup? (dir ++ [n]) with
    | some e =>
      rw [stands] at h
      cases h
    | none =>
      rw [stands] at h
      cases h
      exact ⟨dir, n, closed, found, stands, rfl⟩

private theorem makeDirectory_adds {d d' : Disk} {path : String}
    (h : d.makeDirectory path = .ok d') : AddsDirectories d d' := by
  obtain ⟨dir, n, closed, -, free, rfl⟩ := makeDirectory_ok h
  exact .put_directory free trivial

theorem settle_gains {directories : Route → Prop} {files : Route → ByteArray → Prop} {d : Disk}
    {path : String} {made : Except Fault Disk}
    (h : ∀ d', made = .ok d' → Gains directories files d d') :
    Gains directories files d (makeAscent.settle d path made).2 := by
  cases made with
  | ok d' => exact h d' rfl
  | error fault =>
    have same : (makeAscent.settle d path (.error fault)).2 = d := by
      change (if d.isDirectory path then ((.ok (), d) : Except Fault Unit × Disk)
        else (.error fault, d)).2 = d
      split <;> rfl
    rw [same]
    exact .refl d

theorem makeAscent_adds (d : Disk) (paths : List String) :
    AddsDirectories d (d.makeAscent paths).2 := by
  induction paths with
  | nil => exact .refl d
  | cons path above ih =>
    unfold makeAscent
    split
    · rename_i d' made
      exact makeDirectory_adds made
    · split
      · rename_i fault d' went
        rw [went] at ih
        exact ih
      · rename_i d' went
        rw [went] at ih
        exact ih.trans (settle_gains fun _ made => makeDirectory_adds made)
    · exact settle_gains nofun

private theorem publishNew_cases (path : String) (data : ByteArray) (d : Disk) :
    (∃ fault, publishNew path data d = (.error fault, d)) ∨
      ∃ dir n, d.slot path = .ok (.name dir n false) ∧ d.tree.lookup? (dir ++ [n]) = none ∧
        publishNew path data d = (.ok (), d.put (dir ++ [n]) (.file data false)) := by
  unfold publishNew
  cases last : d.slot path with
  | error fault => exact .inl ⟨fault, rfl⟩
  | ok place =>
    cases place with
    | noName => exact .inl ⟨.exists, rfl⟩
    | name dir n closed =>
      dsimp only
      rw [publishAt_eq]
      cases stands : d.tree.lookup? (dir ++ [n]) with
      | some e => exact .inl ⟨.exists, rfl⟩
      | none =>
        cases closed with
        | true => exact .inl ⟨.notDirectory, rfl⟩
        | false => exact .inr ⟨dir, n, rfl, stands, rfl⟩

theorem withDirectory_perform (path : String) (give : Disk → Except Fault Unit × Disk)
    (failure : Fault → Failure) (d : Disk) : (withDirectory path give failure).perform d =
      match d.makeAscent (Path.above path) with
      | (.error fault, d₁) => (.error (.disk fault), d₁)
      | (.ok (), d₁) => ((give d₁).1.mapError failure, (give d₁).2) := by
  unfold withDirectory Action.perform
  dsimp only
  rcases d.makeAscent (Path.above path) with ⟨fault | _, d₁⟩
  · rfl
  · rfl

theorem withDirectory_cases (path : String) (give : Disk → Except Fault Unit × Disk)
    (failure : Fault → Failure) (d : Disk) :
    let made := d.makeAscent (Path.above path)
    (∃ f, (withDirectory path give failure).perform d = (.error f, made.2)) ∨
      made.1 = .ok () ∧ (withDirectory path give failure).perform d =
        ((give made.2).1.mapError failure, (give made.2).2) := by
  rw [withDirectory_perform]
  rcases d.makeAscent (Path.above path) with ⟨fault | _, d₁⟩
  · exact .inl ⟨.disk fault, rfl⟩
  · exact .inr ⟨rfl, rfl⟩

theorem writeNew_of_holds {path : String} {d : Disk} (held : d.holds path = true)
    (data : ByteArray) : (writeNew path data).perform d = (.error (.collision path), d) := by
  unfold writeNew Action.perform
  exact if_pos held

theorem writeNew_of_not_holds {path : String} {d : Disk} (free : d.holds path = false)
    (data : ByteArray) : (writeNew path data).perform d =
      (withDirectory path (publishNew path data) (writeNew.refused path)).perform d := by
  unfold writeNew Action.perform
  exact if_neg (Bool.eq_false_iff.1 free)

/-- What writing a new file comes to: nothing where something is, else directories on the way, and
then the file at its place. -/
theorem writeNew_cases (path : String) (data : ByteArray) (d : Disk) :
    let made := d.makeAscent (Path.above path)
    (d.holds path = true ∧ (writeNew path data).perform d = (.error (.collision path), d)) ∨
      (∃ f, (writeNew path data).perform d = (.error f, made.2)) ∨
      ∃ dir n, made.1 = .ok () ∧ made.2.slot path = .ok (.name dir n false) ∧
        made.2.tree.lookup? (dir ++ [n]) = none ∧
        (writeNew path data).perform d = (.ok (), made.2.put (dir ++ [n]) (.file data false)) := by
  cases held : d.holds path with
  | true => exact .inl ⟨rfl, writeNew_of_holds held data⟩
  | false =>
    refine .inr ?_
    rw [writeNew_of_not_holds held]
    rcases withDirectory_cases path (publishNew path data) (writeNew.refused path) d with
      failed | ⟨went, gave⟩
    · exact .inl failed
    · rw [gave]
      rcases publishNew_cases path data (d.makeAscent (Path.above path)).2 with
        ⟨fault, refused⟩ | ⟨dir, n, last, free, put⟩
      · rw [refused]
        exact .inl ⟨_, rfl⟩
      · rw [put]
        exact .inr ⟨dir, n, went, last, free, rfl⟩

theorem writeNew_adds (path : String) (data : ByteArray) (d : Disk) :
    Adds (fun r bytes => bytes = data ∧
        ((writeNew path data).perform d).2.locate path = .ok r) d
      ((writeNew path data).perform d).2 := by
  have made := makeAscent_adds d (Path.above path)
  rcases writeNew_cases path data d with ⟨-, refused⟩ | ⟨f, failed⟩ | ⟨dir, n, -, last, free, put⟩
  · rw [refused]
    exact .refl d
  · rw [failed]
    exact made.mono (fun _ => id) fun _ _ => False.elim
  · rw [put]
    generalize (d.makeAscent (Path.above path)).2 = d₁ at made last free
    refine (made.mono (fun _ => id) fun _ _ => False.elim).trans ?_
    by_cases fits : d₁.tree.Fits (dir ++ [n]) (.file data false)
    · refine .put_file free ⟨rfl, ?_⟩
      have added : Adds (fun _ _ => True) d₁ (d₁.put (dir ++ [n]) (.file data false)) :=
        .put_file free trivial
      refine locate_slot (slot_mono added.grown rfl last) (e := .file data false) ?_ nofun
      rw [lookup?_put fits, if_pos rfl]
    · rw [put_of_not_fits fits]
      exact .refl d₁

private theorem publish_cases (path : String) (data : ByteArray) (d : Disk) :
    (publish path data d).2 = d ∨ ∃ dir n, d.slot path = .ok (.name dir n false) ∧
      d.tree.lookup? (dir ++ [n]) ≠ some .directory ∧
      publish path data d = (.ok (), d.put (dir ++ [n]) (.file data false)) := by
  by_cases zero : path.toList.contains '\x00' = true
  · exact .inl (by rw [publish, if_pos zero])
  · cases last : d.slot path with
    | error fault => exact .inl (by rw [publish, if_neg zero, last])
    | ok place =>
      cases place with
      | noName => exact .inl (by rw [publish, if_neg zero, last])
      | name dir n closed =>
        have given : publish path data d = d.publishAt (dir ++ [n]) data fun standing =>
            if closed then .error .notDirectory
            else if standing = some .directory then .error .isDirectory
            else .ok () := by
          rw [publish, if_neg zero, last]
        rw [publishAt_eq] at given
        cases closed with
        | true => exact .inl (by rw [given]; rfl)
        | false =>
          by_cases standing : d.tree.lookup? (dir ++ [n]) = some .directory
          · exact .inl (by rw [given, standing]; rfl)
          · have allowed : publish path data d = (.ok (), d.put (dir ++ [n]) (.file data false)) := by
              rw [given]
              simp only [Bool.false_eq_true, if_false, if_neg standing]
            exact .inr ⟨dir, n, rfl, standing, allowed⟩

/-- What replacing a file comes to: directories on the way, and then the file at its place. -/
theorem replace_cases (path : String) (data : ByteArray) (d : Disk) :
    AddsDirectories d ((replace path data).perform d).2 ∨ ∃ d₁ dir n, AddsDirectories d d₁ ∧
      d₁.slot path = .ok (.name dir n false) ∧
      d₁.tree.lookup? (dir ++ [n]) ≠ some .directory ∧
      (replace path data).perform d = (.ok (), d₁.put (dir ++ [n]) (.file data false)) := by
  have made := makeAscent_adds d (Path.above path)
  rcases withDirectory_cases path (publish path data) .disk d with ⟨f, failed⟩ | ⟨-, gave⟩
  · refine .inl ?_
    rw [replace, failed]
    exact made
  · rw [replace, gave]
    generalize (d.makeAscent (Path.above path)).2 = d₁ at made
    rcases publish_cases path data d₁ with idle | ⟨dir, n, last, beside, put⟩
    · rw [idle]
      exact .inl made
    · rw [put]
      exact .inr ⟨d₁, dir, n, made, last, beside, rfl⟩

end ConnectorKit.Disk
