import ConnectorKit.Layout.TypesFile
import ConnectorKit.Proofs.Basic
import ConnectorKit.Proofs.Text.Case

/-!
What the path of a types file tells. Both layouts are literal names, then a service, a version and
the rest; so a path that fits is made of the same, and tells names again.
-/

set_option autoImplicit false
set_option relaxedAutoImplicit false

namespace ConnectorKit.Layout

open Disk.Path (Plain ofNames)

/-- A part of a path that counts. -/
structure IsPart (part : String) : Prop where
  nonempty : part ≠ ""
  unslashed : '/' ∉ part.toList

theorem isPart_iff {part : String} : IsPart part ↔ part ≠ "" ∧ '/' ∉ part.toList :=
  ⟨fun h => ⟨h.nonempty, h.unslashed⟩, fun h => ⟨h.1, h.2⟩⟩

instance : DecidablePred IsPart := fun _ => decidable_of_iff _ isPart_iff.symm

theorem parts_intercalate {list : List String} (real : ∀ part ∈ list, IsPart part) :
    parts ("/".intercalate list) = list := by
  by_cases none : list = []
  · subst none
    decide
  · have cut : Text.Search.split '/' ("/".intercalate list) = list :=
      Text.Search.split_intercalate none fun part mem => (real part mem).unslashed
    rw [parts, cut]
    exact List.filter_eq_self.2 fun part mem => by simpa using (real part mem).nonempty

theorem parts_ofNames {names : List String} (plain : ∀ n ∈ names, Plain n) :
    parts (ofNames names) = names :=
  parts_intercalate fun n mem => ⟨(plain n mem).nonempty, (plain n mem).unslashed⟩

/-- The segments of a layout of types files. -/
def typesSegments (literals : List String) : List Segment :=
  literals.map .literal ++ [.one "service", .one "version", .rest "file"]

theorem segments_directTypes : directTypes.segments = typesSegments ["apis"] := by
  decide

theorem segments_legacyTypes :
    legacyTypes.segments = typesSegments ["pkg", "clients", "generated", "apis"] := by
  decide

theorem fit?_typesSegments {literals path : List String} {captures : List (String × String)} :
    fit? (typesSegments literals) path = some captures ↔
      ∃ service version part rest, path = literals ++ service :: version :: part :: rest ∧
        captures = [("service", service), ("version", version),
          ("file", "/".intercalate (part :: rest))] := by
  induction literals generalizing path with
  | nil =>
    constructor
    · intro h
      match path with
      | [] => cases h
      | [_] => cases h
      | [_, _] => cases h
      | service :: version :: part :: rest =>
        cases h
        exact ⟨service, version, part, rest, rfl, rfl⟩
    · rintro ⟨service, version, part, rest, rfl, rfl⟩
      rfl
  | cons text literals ih =>
    cases path with
    | nil => simp [typesSegments, fit?]
    | cons part path =>
      rw [typesSegments, List.map_cons, List.cons_append, fit?]
      by_cases same : text = part
      · subst same
        rw [if_pos rfl]
        exact ih.trans (by simp)
      · rw [if_neg same]
        simp [Ne.symm same]

/-- Service and version of a path that fits are the parts in their places, in lower case. -/
theorem TypesFile.ofPath_eq_ok_iff {l : Layout} {literals : List String} {path : String}
    {file : TypesFile} (shape : l.segments = typesSegments literals) :
    ofPath l path = .ok file ↔ ∃ service version part rest,
      parts path = literals ++ service :: version :: part :: rest ∧
      file = ⟨Text.Case.lower service, Text.Case.lower version, "/".intercalate (part :: rest)⟩ := by
  unfold ofPath capture
  rw [shape]
  constructor
  · intro h
    obtain ⟨captures, captured_, told⟩ := bind_ok h
    split at captured_
    · rename_i found fits
      cases captured_
      obtain ⟨service, version, part, rest, whole, rfl⟩ := fit?_typesSegments.1 fits
      cases told
      exact ⟨service, version, part, rest, whole, rfl⟩
    · cases captured_
  · rintro ⟨service, version, part, rest, whole, rfl⟩
    rw [fit?_typesSegments.2 ⟨service, version, part, rest, whole, rfl⟩]
    rfl

theorem TypesFile.ofPath_eq_error {l : Layout} {path : String} {f : Failure}
    (h : ofPath l path = .error f) : f = .unexpectedLayout path l.text := by
  unfold ofPath capture at h
  split at h
  · cases h
  · cases h
    rfl

theorem TypesFile.ofPath_parts {service version name : String}
    (real : ∀ part ∈ ["apis", service, version, name], IsPart part) :
    ofPath directTypes ("/".intercalate ["apis", service, version, name]) =
      .ok ⟨Text.Case.lower service, Text.Case.lower version, name⟩ := by
  refine (ofPath_eq_ok_iff segments_directTypes).2 ⟨service, version, name, [], ?_, ?_⟩
  · rw [parts_intercalate real]
    rfl
  · rw [String.intercalate_singleton]

theorem TypesFile.ofPath_directTypes {service version name : String}
    (plain : ∀ n ∈ ["apis", service, version, name], Plain n) :
    ofPath directTypes (ofNames ["apis", service, version, name]) =
      .ok ⟨Text.Case.lower service, Text.Case.lower version, name⟩ :=
  ofPath_parts fun n mem => ⟨(plain n mem).nonempty, (plain n mem).unslashed⟩

theorem TypesFile.plain_of_ofPath {l : Layout} {literals names : List String} {file : TypesFile}
    (shape : l.segments = typesSegments literals) (plain : ∀ n ∈ names, Plain n)
    (h : ofPath l (ofNames names) = .ok file) : Plain file.service ∧ Plain file.version := by
  obtain ⟨service, version, part, rest, whole, rfl⟩ := (ofPath_eq_ok_iff shape).1 h
  rw [parts_ofNames plain] at whole
  exact ⟨Text.Case.plain_lower (plain service (by simp [whole])),
    Text.Case.plain_lower (plain version (by simp [whole]))⟩

end ConnectorKit.Layout
