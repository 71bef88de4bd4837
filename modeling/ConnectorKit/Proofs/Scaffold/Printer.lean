import ConnectorKit.Proofs.Scaffold.NameFormat
import ConnectorKit.Proofs.Scaffold.Placement
import ConnectorKit.Proofs.Text.Template
import ConnectorKit.Scaffold.Identity

/-!
The call that prints the name of a resource. Its operands depend on whether the names have a
location, its verbs on the placeholders of the format, so the two fit for some formats only.
-/

set_option autoImplicit false
set_option relaxedAutoImplicit false

namespace ConnectorKit.Scaffold

open NameFormat (Reads Token Unmarked verb written)
open Text.Template (Renders RowsRender closes render slot)

/-- What the name of a resource is made of. -/
inductive Operand where
  | project
  | location
  | id
  deriving DecidableEq, Repr

/-- The operands for a name, in order. -/
def operandsOf (located : Bool) : List Operand :=
  if located then [.project, .location, .id] else [.project, .id]

/-- A call of the printer. -/
structure PrintCall where
  format : String
  operands : List Operand
  deriving DecidableEq, Repr

namespace PrintCall

/-- The call as it is written, with an expression for each operand. -/
def text (expression : Operand → String) (c : PrintCall) : String :=
  "fmt.Sprintf(\"" ++ c.format ++ "\", " ++ ", ".intercalate (c.operands.map expression) ++ ")"

/-- How many operands a format asks for. -/
def verbs : List Char → Nat
  | '%' :: 's' :: rest => verbs rest + 1
  | _ :: rest => verbs rest
  | [] => 0

/-- A verb for each operand, and nothing left in braces. -/
structure WellFormed (c : PrintCall) : Prop where
  verbs : verbs c.format.toList = c.operands.length
  unbraced : ¬ ['{', '}'].Sublist c.format.toList

instance (c : PrintCall) : Decidable c.WellFormed :=
  decidable_of_iff (verbs c.format.toList = c.operands.length ∧ ¬ ['{', '}'].Sublist c.format.toList)
    ⟨fun h => ⟨h.1, h.2⟩, fun h => ⟨h.1, h.2⟩⟩

end PrintCall

section Verbs

variable {tokens : List Token} {a b c : Char}

/-- How many placeholders a format has. -/
def NameFormat.holes : List Token → Nat
  | .char _ :: tokens => holes tokens
  | .hole _ :: tokens => holes tokens + 1
  | [] => 0

theorem verbs_written (free : .char '%' ∉ tokens) :
    PrintCall.verbs (written (fun _ => verb) tokens) = NameFormat.holes tokens := by
  induction tokens with
  | nil => rfl
  | cons token tokens ih =>
    obtain ⟨other, later⟩ := List.ne_and_not_mem_of_not_mem_cons free
    cases token with
    | char c =>
      have plain : c ≠ '%' := fun same => other (same ▸ rfl)
      have step : PrintCall.verbs (c :: written (fun _ => verb) tokens) =
          PrintCall.verbs (written (fun _ => verb) tokens) := by
        rw [PrintCall.verbs]
        exact fun rest percent _ => plain percent
      exact step.trans (ih later)
    | hole name => exact congrArg (· + 1) (ih later)

private theorem mem_written (free : c ∉ verb) :
    c ∈ written (fun _ => verb) tokens ↔ .char c ∈ tokens := by
  induction tokens with
  | nil => exact ⟨nofun, nofun⟩
  | cons token tokens ih =>
    cases token with
    | char d => exact List.mem_cons.trans ((or_congr (by simp) ih).trans List.mem_cons.symm)
    | hole name =>
      have apart : c ∈ verb ↔ Token.char c = .hole name := ⟨fun mem => absurd mem free, nofun⟩
      exact List.mem_append.trans ((or_congr apart ih).trans List.mem_cons.symm)

/-- A character before another one is left by the printer's format where the reading has it. -/
theorem pair_sublist_written (first : a ∉ verb) (second : b ∉ verb) :
    [a, b].Sublist (written (fun _ => verb) tokens) ↔
      [Token.char a, Token.char b].Sublist tokens := by
  induction tokens with
  | nil => simp [written]
  | cons token tokens ih =>
    cases token with
    | char c =>
      have split : [a, b].Sublist (written (fun _ => verb) (.char c :: tokens)) ↔
          [a, b].Sublist (written (fun _ => verb) tokens) ∨
            a = c ∧ [b].Sublist (written (fun _ => verb) tokens) := List.cons_sublist_cons'
      rw [split, List.cons_sublist_cons', ih, List.singleton_sublist, List.singleton_sublist,
        mem_written second, Token.char.injEq]
    | hole name =>
      have split : [a, b].Sublist (written (fun _ => verb) (.hole name :: tokens)) ↔
          [a, b].Sublist (written (fun _ => verb) tokens) := by
        have whole : written (fun _ => verb) (.hole name :: tokens) =
            '%' :: 's' :: written (fun _ => verb) tokens := rfl
        have apart : a ≠ '%' ∧ a ≠ 's' := by simpa [verb] using first
        rw [whole, List.cons_sublist_cons', List.cons_sublist_cons']
        simp [apart]
      rw [split, List.cons_sublist_cons', ih]
      simp

end Verbs

namespace IdentityRequest

variable {r : IdentityRequest} {s : Skeleton} {year : Nat}

/-- How the method of an identity refers to what its name is made of. -/
def expression : Operand → String
  | .project => "i.parent.ProjectID"
  | .location => "i.parent.Location"
  | .id => "i.id"

/-- The call that prints an identity. -/
def printer (r : IdentityRequest) : PrintCall where
  format := NameFormat.printed r.nameFormat (Text.Case.lower r.resource)
  operands := operandsOf (NameFormat.isLocated r.nameFormat)

/-- The method that prints an identity by a call, which is given as it is written. -/
def methodRows (resource call : String) : List String :=
  ["func (i *" ++ resource ++ "Identity) String() string \x7b", "\treturn " ++ call, "\x7d"]

private theorem identityTemplate_eq : ∃ rows, identityTemplate = Text.Line.ofRows rows ∧
    (∀ row ∈ rows.take 18, closes (row ++ "\n").toList = true) ∧
    ∃ rest, rest ≠ [] ∧ rows.drop 18 = methodRows (slot "resource")
      ("fmt.Sprintf(\"" ++ slot "sprintf_format" ++ "\", " ++ slot "format_args" ++ ")") ++ rest := by
  refine ⟨_, rfl, ?_, _, ?_, rfl⟩
  · simp only [List.take_succ_cons, List.take_zero, List.forall_mem_cons, slot,
      String.toList_append]
    repeat' apply And.intro
    all_goals repeat rw [String.toList_ofList]
    all_goals first | rfl | exact List.forall_mem_nil _
  · exact List.cons_ne_nil _ _

theorem content_eq (given : r.skeleton year = .ok s) : ∃ before after, s.content =
    before ++ Text.Line.ofRows (methodRows r.resource (r.printer.text expression) ++ [""]) ++
      after := by
  obtain ⟨names, named, given⟩ := bind_ok given
  obtain ⟨⟨⟩, -, given⟩ := bind_ok given
  obtain ⟨-, -, rfl⟩ := Names.of_ok named
  split at given
  · cases given
  cases given
  obtain ⟨template, whole, closed, rest, more, method⟩ := identityTemplate_eq
  generalize values : r.bindings _ = bindings
  have resource : Renders bindings (slot "resource") r.resource := by
    rw [← values]
    exact .slot (by decide) rfl
  have format : Renders bindings (slot "sprintf_format") r.printer.format := by
    rw [← values]
    exact .slot (by decide) rfl
  have operands : Renders bindings (slot "format_args")
      (", ".intercalate (r.printer.operands.map expression)) := by
    rw [← values]
    refine .slot (by decide) ?_
    unfold IdentityRequest.bindings parentBindings printer
    cases NameFormat.isLocated r.nameFormat <;> rfl
  have rows : RowsRender bindings
      (methodRows (slot "resource")
        ("fmt.Sprintf(\"" ++ slot "sprintf_format" ++ "\", " ++ slot "format_args" ++ ")"))
      (methodRows r.resource (r.printer.text expression)) := by
    refine .cons ?_ (.cons ?_ (.cons ?_ .nil))
    · exact .append_row (.append (.literal (by decide)) resource) (.braced_row (by decide) (by decide))
    · exact .row (.append (.literal (by decide)) (.append_literal (.append (.append_literal
        (.append (.literal (by decide)) format) (by decide)) operands) (by decide)))
    · exact .row (.literal (by decide))
  obtain ⟨before, text⟩ := Text.Template.render_ofRows_behind closed method rows more
  have cut (after : String) :
      Text.Line.ofRows (methodRows r.resource (r.printer.text expression) ++ [after]) =
        Text.Line.ofRows (methodRows r.resource (r.printer.text expression) ++ [""]) ++ after := by
    have joined := Text.Line.ofRows_append
      (List.cons_ne_nil _ _ : methodRows r.resource (r.printer.text expression) ≠ [])
      (List.cons_ne_nil after [])
    exact joined.symm
  refine ⟨licenseHeader year ++ before, render (Text.Line.ofRows rest) bindings, ?_⟩
  rw [whole, text, cut]
  simp only [String.append_assoc]

end IdentityRequest

open IdentityRequest (expression methodRows)

/-- The printer of an identity has three operands where the names have a location and two otherwise,
and a verb for each placeholder of project, location and resource in the format, which is read from
left to right. So it is well formed for just the formats with as many of these placeholders as
operands and no other pair of braces. -/
theorem identity_printer_wellFormed_iff {r : IdentityRequest} {year : Nat} {s : Skeleton}
    (accepted : r.skeleton year = .ok s) (plain : '%' ∉ r.nameFormat.toList) :
    ∃ (before : String) (call : PrintCall) (after : String),
      s.content = before ++
        Text.Line.ofRows (methodRows r.resource (call.text expression) ++ [""]) ++ after ∧
      call.operands = operandsOf (NameFormat.isLocated r.nameFormat) ∧
      (Unmarked (Text.Case.lower r.resource) → ∃ tokens,
        (∀ reading, Reads (NameFormat.names (Text.Case.lower r.resource)) r.nameFormat.toList reading ↔
          reading = tokens) ∧
        PrintCall.verbs call.format.toList = NameFormat.holes tokens ∧
        (['{', '}'].Sublist call.format.toList ↔
          [Token.char '{', Token.char '}'].Sublist tokens) ∧
        (call.WellFormed ↔
          NameFormat.holes tokens = (if NameFormat.isLocated r.nameFormat then 3 else 2) ∧
          ¬ [Token.char '{', Token.char '}'].Sublist tokens)) := by
  obtain ⟨before, after, content⟩ := IdentityRequest.content_eq accepted
  refine ⟨before, r.printer, after, content, rfl, fun unmarked => ?_⟩
  obtain ⟨tokens, reads⟩ :=
    NameFormat.exists_reads (NameFormat.names (Text.Case.lower r.resource)) r.nameFormat.toList
  have printed : r.printer.format.toList = written (fun _ => verb) tokens :=
    NameFormat.printed_eq unmarked reads
  have count : PrintCall.verbs r.printer.format.toList = NameFormat.holes tokens := by
    rw [printed]
    exact verbs_written fun mem => plain (reads.mem_text mem)
  have left : ['{', '}'].Sublist r.printer.format.toList ↔
      [Token.char '{', Token.char '}'].Sublist tokens := by
    rw [printed]
    exact pair_sublist_written (by decide) (by decide)
  have operands : r.printer.operands.length =
      if NameFormat.isLocated r.nameFormat then 3 else 2 := by
    unfold IdentityRequest.printer
    cases NameFormat.isLocated r.nameFormat <;> rfl
  refine ⟨tokens, fun reading => ⟨fun other => ?_, fun same => same ▸ reads⟩, count, left, ?_⟩
  · exact reads.unique (NameFormat.unmarked_names unmarked) other
  · rw [← count, ← operands, ← left]
    exact ⟨fun h => ⟨h.verbs, h.unbraced⟩, fun h => ⟨h.1, h.2⟩⟩

/-- Identities with names of a format. -/
def identityOf (resource nameFormat : String) : IdentityRequest where
  resource := resource
  service := "compute"
  version := "v1beta1"
  nameFormat := nameFormat

/-- Names with a location. -/
def locatedUrlMap : IdentityRequest :=
  identityOf "URLMap" "projects/\x7bproject\x7d/locations/\x7blocation\x7d/urlMaps/\x7burlmap\x7d"

/-- The printer of an identity with a location has a verb for each of its three operands. -/
theorem identity_printer_wellFormed_iff_urlMap :
    '%' ∉ locatedUrlMap.nameFormat.toList ∧ Unmarked (Text.Case.lower locatedUrlMap.resource) ∧
    ∃ (s : Skeleton) (before : String) (call : PrintCall) (after : String),
      locatedUrlMap.skeleton 2025 = .ok s ∧
      s.content = before ++ Text.Line.ofRows
        (methodRows locatedUrlMap.resource (call.text expression) ++ [""]) ++ after ∧
      call.operands = [.project, .location, .id] ∧ PrintCall.verbs call.format.toList = 3 ∧
      call.WellFormed := by
  have plain : '%' ∉ locatedUrlMap.nameFormat.toList := by decide +kernel
  have lower : Text.Case.lower locatedUrlMap.resource = "urlmap" := by decide +kernel
  have unmarked : Unmarked (Text.Case.lower locatedUrlMap.resource) := by
    rw [lower]
    exact ⟨by decide, by decide, by decide⟩
  obtain ⟨s, accepted⟩ : ∃ s, locatedUrlMap.skeleton 2025 = .ok s :=
    exists_ok_of_isOk (by decide +kernel)
  obtain ⟨before, call, after, content, operands, read⟩ :=
    identity_printer_wellFormed_iff accepted plain
  obtain ⟨tokens, unique, count, -, fits⟩ := read unmarked
  have located : NameFormat.isLocated locatedUrlMap.nameFormat = true := by decide +kernel
  have reading : Reads (NameFormat.names "urlmap") locatedUrlMap.nameFormat.toList
      ("projects/".toList.map .char ++ .hole "project" :: ("/locations/".toList.map .char ++
        .hole "location" :: ("/urlMaps/".toList.map .char ++ [.hole "urlmap"]))) := by
    have cut : locatedUrlMap.nameFormat.toList =
        "projects/".toList ++ ((NameFormat.placeholder "project").toList ++ ("/locations/".toList ++
          ((NameFormat.placeholder "location").toList ++ ("/urlMaps/".toList ++
            ((NameFormat.placeholder "urlmap").toList ++ []))))) := by decide +kernel
    rw [cut]
    exact .append_text (.hole (by decide) (.append_text (.hole (by decide)
      (.append_text (.hole (by decide) .nil) (by decide))) (by decide))) (by decide)
  rw [← lower] at reading
  obtain rfl := (unique _).1 reading
  rw [located] at operands fits
  refine ⟨plain, unmarked, s, before, call, after, accepted, content, operands, ?_, fits.2 ?_⟩
  · rw [count]
    decide
  · decide

/-- The printer is not well formed where the format has a placeholder of another name: an operand is
left over. Nor is it where the name of the resource has braces: its placeholder is not replaced. -/
theorem identity_printer_misfits :
    let organized := identityOf "URLMap"
      "organizations/\x7borganization\x7d/locations/\x7blocation\x7d/urlMaps/\x7burlmap\x7d"
    let braced := identityOf "x\x7d\x7bproject" "\x7bproject\x7d/\x7bx\x7d\x7bproject\x7d"
    ('%' ∉ organized.nameFormat.toList ∧ ∃ (s : Skeleton) (before after : String),
      organized.skeleton 2025 = .ok s ∧
      s.content = before ++ Text.Line.ofRows
        (methodRows "URLMap" (organized.printer.text expression) ++ [""]) ++ after ∧
      organized.printer.operands = [.project, .location, .id] ∧
      organized.printer.format =
        "organizations/\x7borganization\x7d/locations/%s/urlMaps/%s" ∧
      PrintCall.verbs organized.printer.format.toList = 2 ∧ ¬ organized.printer.WellFormed) ∧
    '%' ∉ braced.nameFormat.toList ∧ ∃ (s : Skeleton) (before after : String),
      braced.skeleton 2025 = .ok s ∧
      s.content = before ++ Text.Line.ofRows
        (methodRows "x\x7d\x7bproject" (braced.printer.text expression) ++ [""]) ++ after ∧
      braced.printer.format = "%s/\x7bx\x7d%s" ∧ ¬ braced.printer.WellFormed := by
  intro organized braced
  refine ⟨⟨by decide +kernel, ?_⟩, by decide +kernel, ?_⟩
  · obtain ⟨s, accepted⟩ : ∃ s, organized.skeleton 2025 = .ok s :=
      exists_ok_of_isOk (by decide +kernel)
    obtain ⟨before, after, content⟩ := IdentityRequest.content_eq accepted
    have operands : organized.printer.operands = [.project, .location, .id] := by decide +kernel
    have format : organized.printer.format =
        "organizations/\x7borganization\x7d/locations/%s/urlMaps/%s" := by decide +kernel
    have two : PrintCall.verbs organized.printer.format.toList = 2 := by
      rw [format]
      decide +kernel
    refine ⟨s, before, after, accepted, content, operands, format, two, fun fits => ?_⟩
    have three := fits.verbs
    rw [two, operands] at three
    cases three
  · obtain ⟨s, accepted⟩ : ∃ s, braced.skeleton 2025 = .ok s :=
      exists_ok_of_isOk (by decide +kernel)
    obtain ⟨before, after, content⟩ := IdentityRequest.content_eq accepted
    have format : braced.printer.format = "%s/\x7bx\x7d%s" := by decide +kernel
    refine ⟨s, before, after, accepted, content, format, fun fits => fits.unbraced ?_⟩
    rw [format]
    decide +kernel

end ConnectorKit.Scaffold
