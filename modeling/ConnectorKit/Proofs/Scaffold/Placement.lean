import ConnectorKit.Proofs.Disk.Confined
import ConnectorKit.Proofs.Layout.Artifact
import ConnectorKit.Proofs.Scaffold.Creation
import ConnectorKit.Proofs.Text.Case

/-!
Where the files of a scaffold come to stand. A request that is not refused gives names for a service,
a version and a resource, and its file is the one of that resource.
-/

set_option autoImplicit false
set_option relaxedAutoImplicit false

namespace ConnectorKit.Scaffold

open Disk (Confined GainsFile OnTheWay Repository Route)
open Disk.Path (Plain join ofNames)
open Layout (Artifact)

/-- A value that is no part of a path: it is blank, or it is several parts or none. -/
def Unfit (value : String) : Prop :=
  Text.Blank.isBlankText value = true ∨ '/' ∈ value.toList ∨ '\\' ∈ value.toList ∨ value = "." ∨
    value = ".."

instance (value : String) : Decidable (Unfit value) :=
  inferInstanceAs (Decidable (_ ∨ _ ∨ _ ∨ _ ∨ _))

theorem plain_of_fit {value : String} (fit : ¬ Unfit value) : Plain value := by
  simp only [Unfit, not_or] at fit
  obtain ⟨filled, unslashed, -, notHere, notUp⟩ := fit
  refine ⟨?_, notHere, notUp, unslashed⟩
  rintro rfl
  exact filled rfl

theorem requireSegment_eq_ok_iff {field value : String} :
    requireSegment field value = .ok () ↔ ¬ Unfit value := by
  unfold requireSegment Unfit
  by_cases blank : Text.Blank.isBlankText value = true
  · rw [if_pos blank]
    exact ⟨nofun, fun fit => absurd (.inl blank) fit⟩
  · rw [if_neg blank]
    simp only [blank, Bool.false_eq_true, false_or, List.contains_iff_mem]
    split
    · rename_i several
      exact ⟨nofun, fun fit => absurd several fit⟩
    · rename_i single
      exact ⟨fun _ => single, fun _ => rfl⟩

theorem plain_of_requireSegment {field value : String}
    (h : requireSegment field value = .ok ()) : Plain value :=
  plain_of_fit (requireSegment_eq_ok_iff.1 h)

theorem Names.of_ok {resource service : String} {names : Names}
    (h : Names.of resource service = .ok names) :
    Plain resource ∧ Plain service ∧ names = {
      resource := resource
      lower := Text.Case.lower resource
      service := service
      kind := Text.Case.capitalize service ++ resource } := by
  obtain ⟨⟨⟩, own, h⟩ := bind_ok h
  obtain ⟨⟨⟩, served, h⟩ := bind_ok h
  cases h
  exact ⟨plain_of_requireSegment own, plain_of_requireSegment served, rfl⟩

/-- The skeleton is the given file of the resource, all of whose coordinates are names. -/
structure Placed (a : Artifact) (resource service version : String) (s : Skeleton) : Prop where
  owned : Plain resource
  served : Plain service
  versioned : Plain version
  path : s.path = a.path service version (Text.Case.lower resource)

section Requests

variable {year : Nat} {s : Skeleton}

theorem TypesRequest.skeleton_placed {r : TypesRequest} (h : r.skeleton year = .ok s) :
    Placed .types r.resource r.service r.version s := by
  obtain ⟨names, named, h⟩ := bind_ok h
  obtain ⟨⟨⟩, versioned, h⟩ := bind_ok h
  obtain ⟨own, served, rfl⟩ := Names.of_ok named
  cases h
  exact ⟨own, served, plain_of_requireSegment versioned, rfl⟩

theorem IdentityRequest.skeleton_placed {r : IdentityRequest} (h : r.skeleton year = .ok s) :
    Placed .identity r.resource r.service r.version s := by
  obtain ⟨names, named, h⟩ := bind_ok h
  obtain ⟨⟨⟩, versioned, h⟩ := bind_ok h
  obtain ⟨own, served, rfl⟩ := Names.of_ok named
  split at h
  · cases h
  · cases h
    exact ⟨own, served, plain_of_requireSegment versioned, rfl⟩

theorem ControllerRequest.skeleton_placed {r : ControllerRequest} (h : r.skeleton year = .ok s) :
    Placed .controller r.resource r.service r.version s := by
  obtain ⟨names, named, h⟩ := bind_ok h
  obtain ⟨⟨⟩, versioned, h⟩ := bind_ok h
  obtain ⟨own, served, rfl⟩ := Names.of_ok named
  obtain ⟨⟨⟩, -, h⟩ := bind_ok h
  cases h
  exact ⟨own, served, plain_of_requireSegment versioned, rfl⟩

theorem MockRequest.skeleton_placed {r : MockRequest} {version : String} (versioned : Plain version)
    (h : r.skeleton year = .ok s) : Placed .mock r.resource r.service version s := by
  obtain ⟨names, named, h⟩ := bind_ok h
  obtain ⟨own, served, rfl⟩ := Names.of_ok named
  obtain ⟨⟨⟩, -, h⟩ := bind_ok h
  split at h
  · cases h
  · cases h
    exact ⟨own, served, versioned, rfl⟩

theorem FixturesRequest.skeletons_placed {r : FixturesRequest} {names : Names}
    (h : r.names = .ok names) : List.Forall₂ (Placed · r.resource r.service r.version)
      [.create, .update] (r.skeletons names) := by
  obtain ⟨names', named, h⟩ := bind_ok h
  obtain ⟨⟨⟩, versioned, h⟩ := bind_ok h
  obtain ⟨own, served, rfl⟩ := Names.of_ok named
  cases h
  have versioned := plain_of_requireSegment versioned
  exact .cons ⟨own, served, versioned, rfl⟩ (.cons ⟨own, served, versioned, rfl⟩ .nil)

end Requests

section Creation

variable {d d' : Disk} {root : String} {base : Route} {a : Artifact}
  {resource service version : String} {s : Skeleton}

namespace Placed

theorem plain (placed : Placed a resource service version s) (b : Artifact) :
    ∀ n ∈ b.names service version (Text.Case.lower resource), Plain n :=
  Artifact.plain_names placed.served placed.versioned (Text.Case.plain_lower placed.owned) b

/-- A skeleton that is created comes to stand as the file of its resource. -/
theorem create_gains (placed : Placed a resource service version s) (repo : Repository d root base) :
    GainsFile root base (a.directories service version (Text.Case.lower resource))
      (a.name (Text.Case.lower resource)) s.content.toUTF8 d ((s.create root).perform d).2 := by
  rw [create_perform, placed.path, a.path_eq]
  exact Disk.writeNew_below repo (placed.plain a)

theorem create_ok (placed : Placed a resource service version s) (repo : Repository d root base)
    (made : (s.create root).perform d = (.ok (), d')) :
    d.stands root s.path = false ∧
      d'.lookup? (join root s.path) = some (.file s.content.toUTF8 false) := by
  have gains := placed.create_gains repo
  rw [made] at gains
  have plain := placed.plain a
  have written := create_ok_iff.1 made
  rw [placed.path, a.path_eq] at written ⊢
  obtain ⟨free, stands, allowed⟩ := Disk.writeNew_ok repo plain written
  constructor
  · refine Bool.eq_false_iff.2 fun there => ?_
    obtain ⟨-, e, found⟩ := (repo.stands_iff (by simp [Artifact.names]) plain).1 there
    rw [Artifact.names, free] at found
    cases found
  · exact ((gains.repository repo plain).lookup?_iff (by simp [Artifact.names]) plain).2
      ⟨allowed, stands⟩

theorem create_confined (placed : Placed a resource service version s) (root : String)
    (base : Route) : Confined root base
      (OnTheWay base (a.names service version (Text.Case.lower resource))) (s.create root) := by
  have written : Confined root base _ _ :=
    Disk.writeNew_confined (placed.plain a) s.content.toUTF8
  rw [← Artifact.names, ← a.path_eq, ← placed.path] at written
  exact written.retold (create_perform root s)

end Placed

end Creation

end ConnectorKit.Scaffold
