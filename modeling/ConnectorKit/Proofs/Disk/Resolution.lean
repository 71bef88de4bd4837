import ConnectorKit.Disk.Basic
import ConnectorKit.Proofs.Disk.Tree

/-!
Where paths lead. What a path leads to stays its goal when a tree only grows; and a path leads to
its last place whenever a file or a directory stands there.
-/

set_option autoImplicit false
set_option relaxedAutoImplicit false

namespace ConnectorKit.Disk

/-- Whatever stands in the first tree stands in the second. -/
def Tree.Extends (t u : Tree) : Prop :=
  ∀ r e, t.lookup? r = some e → u.lookup? r = some e

/-- The trail of a way that ends somewhere: straight there, or to a link and on from where it points. -/
inductive Trail (t : Tree) : Nat → Route → List String → Route → Prop
  | straight {links : Nat} {dir r : Route} {parts : List String} :
      descend t dir parts = .arrived r → Trail t links dir parts r
  | linked {links : Nat} {dir base r : Route} {target : String} {parts rest : List String} :
      descend t dir parts = .linked base target rest →
      Trail t links (if Path.isAbsolute target then [] else base)
        (Text.Search.split '/' target ++ rest) r → Trail t (links + 1) dir parts r

theorem trail_of_follow {t : Tree} {links : Nat} {dir r : Route} {parts : List String}
    (h : follow t links dir parts = .ok r) : Trail t links dir parts r := by
  fun_induction follow t links dir parts with
  | case1 links dir parts goal went =>
    cases h
    exact .straight went
  | case2 => cases h
  | case3 => cases h
  | case4 dir parts base target rest went links ih => exact .linked went (ih h)

section Growth

variable {t u : Tree} {dir : Route} {parts : List String}

private theorem descend_mono (grown : t.Extends u)
    (going : ∀ fault, descend t dir parts ≠ .stopped fault) :
    descend u dir parts = descend t dir parts := by
  induction parts generalizing dir with
  | nil => rfl
  | cons part rest ih =>
    unfold descend at going ⊢
    split
    · rename_i skipped
      rw [if_pos skipped] at going
      exact ih going
    · rename_i other
      rw [if_neg other] at going
      split
      · rename_i up
        rw [if_pos up] at going
        exact ih going
      · rename_i down
        rw [if_neg down] at going
        split
        · rfl
        · rename_i short
          rw [if_neg short] at going
          cases found : t.lookup? (dir ++ [part]) with
          | none =>
            rw [found] at going
            exact absurd rfl (going _)
          | some e =>
            rw [found] at going
            rw [grown _ e found]
            cases e with
            | directory => exact ih going
            | file data executable => rfl
            | link target => rfl

theorem follow_mono (grown : t.Extends u) {links : Nat} {r : Route}
    (h : follow t links dir parts = .ok r) : follow u links dir parts = .ok r := by
  fun_induction follow t links dir parts with
  | case1 links dir parts goal went =>
    rw [follow, descend_mono grown (by simp [went]), went]
    exact h
  | case2 => cases h
  | case3 => cases h
  | case4 dir parts base target rest went links ih =>
    rw [follow, descend_mono grown (by simp [went]), went]
    exact ih h

end Growth

theorem locate_mono {d d' : Disk} (grown : d.tree.Extends d'.tree) (same : d'.current = d.current)
    {path : String} {r : Route} (h : d.locate path = .ok r) : d'.locate path = .ok r := by
  obtain ⟨_, possible, found⟩ := bind_ok h
  have begun : d'.start path = d.start path := by rw [start, start, same]
  unfold locate
  rw [possible, begun]
  exact follow_mono grown found

theorem slot_mono {d d' : Disk} (grown : d.tree.Extends d'.tree) (same : d'.current = d.current)
    {path : String} {s : Slot} (h : d.slot path = .ok s) : d'.slot path = .ok s := by
  have begun : d'.start path = d.start path := by rw [start, start, same]
  have steps {front : List String} {dir : Route}
      (went : follow d.tree linkLimit (d.start path) front = .ok dir) :
      follow d'.tree linkLimit (d'.start path) front = .ok dir := begun ▸ follow_mono grown went
  unfold slot at h ⊢
  obtain ⟨⟨⟩, possible, h⟩ := bind_ok h
  dsimp only at h
  split at h
  · rename_i none
    simp only [possible, none, bind, Except.bind]
    exact h
  · rename_i last found
    obtain ⟨dir, went, h⟩ := bind_ok h
    simp only [possible, found, steps went, bind, Except.bind]
    exact h

/-- What one part of a path does at a place, whatever comes after it. -/
private inductive Part (t : Tree) (dir : Route) (part : String) : Prop
  | goes (next : Route) :
      (∀ rest, descend t dir (part :: rest) = descend t next rest) →
      (t.lookup? dir = some .directory → t.lookup? next = some .directory) → Part t dir part
  | atFile : (∀ rest, descend t dir (part :: rest) =
      if rest = [] then .arrived (dir ++ [part]) else .stopped .notDirectory) → Part t dir part
  | atLink (target : String) :
      (∀ rest, descend t dir (part :: rest) = .linked dir target rest) → Part t dir part
  | nowhere (fault : Fault) :
      (∀ rest, descend t dir (part :: rest) = .stopped fault) → Part t dir part

private theorem part_cases (t : Tree) (dir : Route) (part : String) : Part t dir part := by
  by_cases skipped : part = "" ∨ part = "."
  · exact .goes dir (fun rest => by rw [descend, if_pos skipped]) id
  by_cases up : part = ".."
  · exact .goes dir.dropLast (fun rest => by rw [descend, if_neg skipped, if_pos up])
      Tree.lookup?_parent
  by_cases long : nameLimit < part.utf8ByteSize
  · exact .nowhere .nameTooLong fun rest => by
      rw [descend, if_neg skipped, if_neg up, if_pos long]
  have named (rest : List String) := show descend t dir (part :: rest) = _ by
    rw [descend, if_neg skipped, if_neg up, if_neg long]
  cases found : t.lookup? (dir ++ [part]) with
  | none => exact .nowhere .missing fun rest => by rw [named, found]
  | some e =>
    cases e with
    | directory => exact .goes (dir ++ [part]) (fun rest => by rw [named, found]) fun _ => found
    | file data executable => exact .atFile fun rest => by rw [named, found]
    | link target => exact .atLink target fun rest => by rw [named, found]

section Split

variable {t : Tree} {dir r base : Route} {front rest : List String} {target : String}

private theorem descend_arrived (tail : List String)
    (h : descend t dir (front ++ [""]) = .arrived r) :
    descend t dir (front ++ tail) = descend t r tail := by
  induction front generalizing dir with
  | nil =>
    obtain rfl := Descent.arrived.inj h
    rfl
  | cons part front ih =>
    rw [List.cons_append] at h ⊢
    cases part_cases t dir part with
    | goes next goes _ =>
      rw [goes] at h ⊢
      exact ih h
    | atFile stays =>
      rw [stays, if_neg (by simp)] at h
      cases h
    | atLink target leads =>
      rw [leads] at h
      cases h
    | nowhere fault stops =>
      rw [stops] at h
      cases h

private theorem descend_linked (tail : List String)
    (h : descend t dir (front ++ [""]) = .linked base target rest) : ∃ more, rest = more ++ [""] ∧
      descend t dir (front ++ tail) = .linked base target (more ++ tail) := by
  induction front generalizing dir with
  | nil => cases h
  | cons part front ih =>
    rw [List.cons_append] at h ⊢
    cases part_cases t dir part with
    | goes next goes _ =>
      rw [goes] at h ⊢
      exact ih h
    | atFile stays =>
      rw [stays, if_neg (by simp)] at h
      cases h
    | atLink target leads =>
      rw [leads] at h ⊢
      cases h
      exact ⟨front, rfl, rfl⟩
    | nowhere fault stops =>
      rw [stops] at h
      cases h

/-- The way to a directory is the first part of every way that goes on from there. -/
theorem follow_split {links : Nat} (tail : List String)
    (h : follow t links dir (front ++ [""]) = .ok r) :
    ∃ left, follow t links dir (front ++ tail) = follow t left r tail := by
  have trail := trail_of_follow h
  clear h
  generalize whole : front ++ [""] = parts at trail
  induction trail generalizing front with
  | @straight links _ _ _ went =>
    subst whole
    exact ⟨links, by rw [follow, follow, descend_arrived tail went]⟩
  | linked went _ ih =>
    subst whole
    obtain ⟨more, rfl, on⟩ := descend_linked tail went
    obtain ⟨left, rest⟩ := ih (List.append_assoc ..)
    rw [List.append_assoc] at rest
    exact ⟨left, by rw [follow, on]; exact rest⟩

private theorem descend_front (t : Tree) (dir : Route) (front : List String) (part : String)
    (tail : List String) : (∃ q, descend t dir (front ++ [""]) = .arrived q) ∨
      (∃ fault, descend t dir (front ++ part :: tail) = .stopped fault) ∨
      ∃ base target more, descend t dir (front ++ [""]) = .linked base target (more ++ [""]) ∧
        descend t dir (front ++ part :: tail) = .linked base target (more ++ part :: tail) := by
  induction front generalizing dir with
  | nil => exact .inl ⟨dir, rfl⟩
  | cons name front ih =>
    rw [List.cons_append, List.cons_append]
    cases part_cases t dir name with
    | goes next goes _ =>
      rw [goes, goes]
      exact ih _
    | atFile stays =>
      rw [stays (front ++ part :: tail), if_neg (by simp)]
      exact .inr (.inl ⟨_, rfl⟩)
    | atLink target leads => exact .inr (.inr ⟨dir, target, front, leads _, leads _⟩)
    | nowhere fault stops => exact .inr (.inl ⟨fault, stops _⟩)

theorem follow_front {links : Nat} {part : String} {tail : List String}
    (h : follow t links dir (front ++ part :: tail) = .ok r) :
    ∃ q, follow t links dir (front ++ [""]) = .ok q := by
  have trail := trail_of_follow h
  clear h
  generalize whole : front ++ part :: tail = parts at trail
  induction trail generalizing front with
  | @straight _ dir _ _ went =>
    subst whole
    rcases descend_front t dir front part tail with
      ⟨q, first⟩ | ⟨fault, stopped⟩ | ⟨_, _, _, -, on⟩
    · exact ⟨q, by rw [follow, first]⟩
    · cases went.symm.trans stopped
    · cases went.symm.trans on
  | @linked _ dir _ _ _ _ _ went _ ih =>
    subst whole
    rcases descend_front t dir front part tail with
      ⟨q, first⟩ | ⟨fault, stopped⟩ | ⟨base, target, more, first, on⟩
    · exact ⟨q, by rw [follow, first]⟩
    · cases went.symm.trans stopped
    · cases went.symm.trans on
      obtain ⟨q, rest⟩ := ih (List.append_assoc ..)
      rw [List.append_assoc] at rest
      exact ⟨q, by rw [follow, first]; exact rest⟩

private theorem directory_of_arrived (begun : t.lookup? dir = some .directory)
    (h : descend t dir (front ++ [""]) = .arrived r) : t.lookup? r = some .directory := by
  induction front generalizing dir with
  | nil =>
    cases h
    exact begun
  | cons name front ih =>
    rw [List.cons_append] at h
    cases part_cases t dir name with
    | goes next goes kept => exact ih (kept begun) ((goes _).symm.trans h)
    | atFile stays =>
      rw [stays, if_neg (by simp)] at h
      cases h
    | atLink target leads => cases (leads _).symm.trans h
    | nowhere fault stops => cases (stops _).symm.trans h

private theorem directory_of_linked {parts : List String} (begun : t.lookup? dir = some .directory)
    (h : descend t dir parts = .linked base target rest) : t.lookup? base = some .directory := by
  induction parts generalizing dir with
  | nil => cases h
  | cons name parts ih =>
    cases part_cases t dir name with
    | goes next goes kept => exact ih (kept begun) ((goes _).symm.trans h)
    | atFile stays =>
      rw [stays] at h
      split at h <;> cases h
    | atLink target leads =>
      cases (leads _).symm.trans h
      exact begun
    | nowhere fault stops => cases (stops _).symm.trans h

theorem follow_directory {links : Nat} (begun : t.lookup? dir = some .directory)
    (h : follow t links dir (front ++ [""]) = .ok r) : t.lookup? r = some .directory := by
  have trail := trail_of_follow h
  clear h
  generalize whole : front ++ [""] = parts at trail
  induction trail generalizing front with
  | straight went =>
    subst whole
    exact directory_of_arrived begun went
  | linked went _ ih =>
    subst whole
    obtain ⟨more, rfl, -⟩ := descend_linked [] went
    refine ih ?_ (List.append_assoc ..)
    split
    · exact Tree.lookup?_top t
    · exact directory_of_linked begun went

end Split

section Blank

/-- Whether a part of a path leads anywhere. -/
def leads (part : String) : Bool :=
  !(part = "" ∨ part = ".")

variable {t : Tree} {dir : Route} {front : List String} {last : String}

variable (t dir front) in
private theorem descend_leads (blank : last = "" ∨ last = ".") :
    descend t dir (front ++ [last]) = descend t dir (front.filter leads ++ [""]) ∨
      ∃ base target more, descend t dir (front ++ [last]) = .linked base target (more ++ [last]) ∧
        descend t dir (front.filter leads ++ [""]) =
          .linked base target (more.filter leads ++ [""]) := by
  induction front generalizing dir with
  | nil =>
    refine .inl ?_
    rw [List.nil_append, List.filter_nil, List.nil_append, descend, if_pos blank]
    rfl
  | cons part front ih =>
    by_cases skipped : part = "" ∨ part = "."
    · have dropped : (part :: front).filter leads = front.filter leads := by simp [leads, skipped]
      rw [dropped, List.cons_append, descend, if_pos skipped]
      exact ih _
    · have kept : (part :: front).filter leads = part :: front.filter leads := by
        simp [leads, skipped]
      rw [kept, List.cons_append, List.cons_append]
      cases part_cases t dir part with
      | goes next goes _ =>
        rw [goes, goes]
        exact ih _
      | atFile stays =>
        rw [stays, stays, if_neg (by simp), if_neg (by simp)]
        exact .inl rfl
      | atLink target leads => exact .inr ⟨dir, target, front, leads _, leads _⟩
      | nowhere fault stops =>
        rw [stops, stops]
        exact .inl rfl

/-- On the way to a directory, only the parts that lead somewhere count. -/
theorem follow_leads {links : Nat} (blank : last = "" ∨ last = ".") :
    follow t links dir (front ++ [last]) = follow t links dir (front.filter leads ++ [""]) := by
  induction links generalizing dir front last with
  | zero =>
    unfold follow
    rcases descend_leads t dir front blank with
      same | ⟨base, target, more, first, plain⟩
    · rw [same]
    · rw [first, plain]
  | succ links ih =>
    rcases descend_leads t dir front blank with
      same | ⟨base, target, more, first, plain⟩
    · rw [follow, follow, same]
    · rw [follow, follow, first, plain]
      dsimp only
      have thinned := @ih (if Path.isAbsolute target then [] else base)
        (Text.Search.split '/' target ++ more.filter leads) "" (.inl rfl)
      rw [← List.append_assoc, ← List.append_assoc, ih blank, thinned]
      simp [List.filter_append, List.filter_filter]

end Blank

section Slot

variable {d : Disk} {path : String} {dir : Route} {n : Name} {closed : Bool}

private theorem slot_name (h : d.slot path = .ok (.name dir n closed)) :
    checkPath path = .ok () ∧ ¬ (n = "" ∨ n = ".") ∧ n ≠ ".." ∧ ¬ nameLimit < n.utf8ByteSize ∧
      ∃ front blanks, follow d.tree linkLimit (d.start path) (front ++ [""]) = .ok dir ∧
        Text.Search.split '/' path = front ++ n :: blanks ∧ (closed = false → blanks = []) := by
  obtain ⟨⟨⟩, possible, h⟩ := bind_ok h
  dsimp only at h
  generalize Text.Search.split '/' path = parts at h ⊢
  have first := List.head?_dropWhile_not (· = "") parts.reverse
  have suffix := List.dropWhile_suffix (fun part : String => decide (part = "")) (l := parts.reverse)
  generalize parts.reverse.dropWhile (· = "") = kept at h first suffix
  split at h
  · cases h
  · rename_i last found
    obtain ⟨base, went, h⟩ := bind_ok h
    split at h
    · cases h
    · rename_i other
      split at h
      · cases h
      · rename_i short
        cases h
        obtain ⟨front, whole⟩ := List.getLast?_eq_some_iff.1 found
        have headed : kept.head? = some n := by rwa [List.getLast?_reverse] at found
        rw [headed] at first
        rw [whole, List.dropLast_concat] at went
        obtain ⟨blanks, before⟩ : kept.reverse <+: parts := by simpa using List.reverse_prefix.2 suffix
        refine ⟨possible, ?_, fun up => other (.inr up), short, front, blanks, went, ?_, fun all => ?_⟩
        · rintro (empty | here)
          · simp [empty] at first
          · exact other (.inl here)
        · rw [← before, whole, List.append_assoc, List.singleton_append]
        · have full : ¬ kept.reverse.length < parts.length := by simpa using all
          rw [← before, List.length_append] at full
          exact List.length_eq_zero_iff.1 (by omega)

theorem slot_of_split {front : List String} {last : String}
    (cut : Text.Search.split '/' path = front ++ [last]) (real : last ≠ "") :
    d.slot path = do
      checkPath path
      let dir ← follow d.tree linkLimit (d.start path) (front ++ [""])
      if last = "." ∨ last = ".." then return .noName
      else if nameLimit < last.utf8ByteSize then .error .nameTooLong
      else return .name dir last false := by
  have kept : ((front ++ [last]).reverse.dropWhile (· = "")).reverse = front ++ [last] := by
    simp [real]
  unfold slot
  rw [cut]
  simp only [kept, List.getLast?_concat, List.dropLast_concat, Nat.lt_irrefl, decide_false]

private theorem locate_of_slot (h : d.slot path = .ok (.name dir n false)) :
    ∃ left, d.locate path = follow d.tree left dir [n] := by
  obtain ⟨possible, -, -, -, front, blanks, went, whole, none⟩ := slot_name h
  rw [none rfl] at whole
  obtain ⟨left, on⟩ := follow_split [n] went
  refine ⟨left, ?_⟩
  unfold locate
  rw [possible, whole, ← on]
  rfl

private theorem descend_slot (h : d.slot path = .ok (.name dir n closed)) :
    descend d.tree dir [n] = match d.tree.lookup? (dir ++ [n]) with
      | none => .stopped .missing
      | some .directory => .arrived (dir ++ [n])
      | some (.file _ _) => .arrived (dir ++ [n])
      | some (.link target) => .linked dir target [] := by
  obtain ⟨-, real, down, short, -⟩ := slot_name h
  rw [descend, if_neg real, if_neg down, if_neg short]
  cases d.tree.lookup? (dir ++ [n]) with
  | none => rfl
  | some e => cases e <;> rfl

theorem locate_slot (h : d.slot path = .ok (.name dir n false)) {e : Entry}
    (stands : d.tree.lookup? (dir ++ [n]) = some e) (direct : ∀ target, e ≠ .link target) :
    d.locate path = .ok (dir ++ [n]) := by
  obtain ⟨left, leads⟩ := locate_of_slot h
  have down := descend_slot h
  rw [stands] at down
  rw [leads, follow]
  cases e with
  | link target => exact absurd rfl (direct target)
  | directory => rw [down]
  | file data executable => rw [down]

theorem locate_slot_free (h : d.slot path = .ok (.name dir n false))
    (free : d.tree.lookup? (dir ++ [n]) = none) : d.locate path = .error .missing := by
  obtain ⟨left, leads⟩ := locate_of_slot h
  have down := descend_slot h
  rw [free] at down
  rw [leads, follow, down]

theorem stands_of_locate {goal : Route} (led : d.locate path = .ok goal)
    (h : d.slot path = .ok (.name dir n closed)) : d.tree.lookup? (dir ++ [n]) ≠ none := by
  obtain ⟨-, real, down, short, front, blanks, went, whole, -⟩ := slot_name h
  obtain ⟨-, -, on⟩ := bind_ok led
  obtain ⟨left, rest⟩ := follow_split (n :: blanks) went
  rw [whole, rest, follow, descend, if_neg real, if_neg down, if_neg short] at on
  intro free
  rw [free] at on
  cases on

theorem slot_ne_missing {goal : Route} (led : d.locate path = .ok goal) :
    d.slot path ≠ .error .missing := by
  obtain ⟨⟨⟩, possible, on⟩ := bind_ok led
  unfold slot
  rw [possible]
  dsimp only [bind, Except.bind]
  generalize Text.Search.split '/' path = parts at on
  have suffix := List.dropWhile_suffix (fun part : String => decide (part = "")) (l := parts.reverse)
  generalize parts.reverse.dropWhile (· = "") = kept at suffix ⊢
  split
  · nofun
  · rename_i last found
    obtain ⟨front, whole⟩ := List.getLast?_eq_some_iff.1 found
    obtain ⟨blanks, before⟩ : kept.reverse <+: parts := by simpa using List.reverse_prefix.2 suffix
    rw [← before, whole, List.append_assoc, List.singleton_append] at on
    obtain ⟨q, reached⟩ := follow_front on
    rw [whole, List.dropLast_concat, reached]
    dsimp only
    split
    · nofun
    · split <;> nofun

end Slot

end ConnectorKit.Disk
