import ConnectorKit.Proofs.Json.Order
import ConnectorKit.Proofs.Json.Record
import ConnectorKit.Server.Request

/-!
What a line asks for, told from its bytes, its text and its JSON. Every line is silent, garbled or a
demand with an identifier.
-/

set_option autoImplicit false
set_option relaxedAutoImplicit false

namespace ConnectorKit.Server

open Json (Value)

/-- The line is a text, and it spells a JSON value. -/
def Spells (line : ByteArray) (v : Value) : Prop :=
  ∃ text, String.fromUTF8? line = some text ∧ Value.read? text = some v

theorem Spells.unique {line : ByteArray} {v u : Value} (h : Spells line v) (h' : Spells line u) :
    v = u := by
  obtain ⟨text, decoded, spelled⟩ := h
  obtain ⟨text', decoded', spelled'⟩ := h'
  obtain rfl := Option.some.inj (decoded.symm.trans decoded')
  exact Option.some.inj (spelled.symm.trans spelled')

theorem Spells.ordered {line : ByteArray} {v : Value} (h : Spells line v) : v.Ordered := by
  obtain ⟨text, -, spelled⟩ := h
  exact Value.ordered_read? spelled

/-- A blank line, or a value without an identifier. -/
def Silent (line : ByteArray) : Prop :=
  (∃ text, String.fromUTF8? line = some text ∧ Text.Blank.isBlankText text = true) ∨
    ∃ v, Spells line v ∧ v.member? "id" = none

/-- A line that is not UTF-8, or neither blank nor JSON. -/
def Garbled (line : ByteArray) : Prop :=
  String.fromUTF8? line = none ∨ ∃ text, String.fromUTF8? line = some text ∧
    Text.Blank.isBlankText text = false ∧ Value.read? text = none

/-- An object with an identifier. -/
def Demands (line : ByteArray) (id : Value) : Prop :=
  ∃ v, Spells line v ∧ v.member? "id" = some id

theorem line_cases (line : ByteArray) : Silent line ∨ Garbled line ∨ ∃ id, Demands line id := by
  cases decoded : String.fromUTF8? line with
  | none => exact .inr (.inl (.inl decoded))
  | some text =>
    cases blank : Text.Blank.isBlankText text with
    | true => exact .inl (.inl ⟨text, decoded, blank⟩)
    | false =>
      cases spelled : Value.read? text with
      | none => exact .inr (.inl (.inr ⟨text, decoded, blank, spelled⟩))
      | some v =>
        cases identified : v.member? "id" with
        | none => exact .inl (.inr ⟨v, ⟨text, decoded, spelled⟩, identified⟩)
        | some id => exact .inr (.inr ⟨id, v, ⟨text, decoded, spelled⟩, identified⟩)

private theorem not_digit_of_blank {c : Char} (blank : Text.Blank.isBlank c = true) :
    c.isDigit = false := by
  have outside : c.toNat < 48 ∨ 57 < c.toNat := by
    simp [Text.Blank.isBlank] at blank
    omega
  refine Bool.eq_false_iff.2 fun digit => ?_
  obtain ⟨low, high⟩ : 48 ≤ c.toNat ∧ c.toNat ≤ 57 := Char.isDigit_iff_toNat.1 digit
  omega

private theorem readNumber_blank {negative : Bool} {text : List Char}
    (blank : ∀ c ∈ text, Text.Blank.isBlank c = true) :
    Json.Draft.readNumber negative text = none := by
  cases text with
  | nil => rfl
  | cons c rest =>
    have other := not_digit_of_blank (blank c List.mem_cons_self)
    simp [Json.Draft.readNumber, Json.Draft.digits, other]

theorem read?_blank {text : String} (blank : Text.Blank.isBlankText text = true) :
    Value.read? text = none := by
  have each : ∀ c ∈ Json.Draft.skipGap text.toList, Text.Blank.isBlank c = true := fun c mem =>
    List.all_eq_true.1 blank c ((List.dropWhile_sublist _).mem mem)
  have none_read (fuel : Nat) : Json.Draft.readValue (fuel + 1) text.toList = none := by
    unfold Json.Draft.readValue
    generalize Json.Draft.skipGap text.toList = chars at each ⊢
    have first {c : Char} {rest : List Char} (is : chars = c :: rest) :
        Text.Blank.isBlank c = true := each c (is ▸ List.mem_cons_self)
    split
    · exact absurd (first rfl) (by decide)
    · exact absurd (first rfl) (by decide)
    · exact absurd (first rfl) (by decide)
    · exact absurd (first rfl) (by decide)
    · exact absurd (first rfl) (by decide)
    · exact absurd (first rfl) (by decide)
    · exact absurd (first rfl) (by decide)
    · rw [readNumber_blank each]
      rfl
  have no_draft : Json.Draft.read? text = none := by
    unfold Json.Draft.read?
    rw [none_read]
  unfold Value.read?
  rw [no_draft]
  rfl

theorem ofLine_silent {line : ByteArray} (h : Silent line) : Demand.ofLine line = .nothing := by
  rcases h with ⟨text, decoded, blank⟩ | ⟨v, ⟨text, decoded, spelled⟩, missing⟩
  · simp [Demand.ofLine, Demand.ofText, decoded, blank]
  · simp [Demand.ofLine, Demand.ofText, Demand.ofValue, decoded, spelled, missing]

theorem ofLine_garbled {line : ByteArray} (h : Garbled line) :
    ∃ reason, Demand.ofLine line = .refused .null (.unreadable reason) := by
  rcases h with decoded | ⟨text, decoded, filled, spelled⟩
  · refine ⟨"the line is not UTF-8", ?_⟩
    simp [Demand.ofLine, decoded]
  · refine ⟨"the line is not JSON", ?_⟩
    simp [Demand.ofLine, Demand.ofText, decoded, filled, spelled]

theorem ofLine_spelled {line : ByteArray} {v : Value} (h : Spells line v) :
    Demand.ofLine line = .ofValue v := by
  obtain ⟨text, decoded, spelled⟩ := h
  have filled : Text.Blank.isBlankText text = false := by
    cases blank : Text.Blank.isBlankText text with
    | false => rfl
    | true => rw [read?_blank blank] at spelled; cases spelled
  simp [Demand.ofLine, Demand.ofText, decoded, filled, spelled]

theorem ofValue_request {v id : Value} {version method : String} (ordered : v.Ordered)
    (identified : v.member? "id" = some id)
    (versioned : v.member? "jsonrpc" = some (.string version))
    (named : v.member? "method" = some (.string method)) :
    Demand.ofValue v = .request
      ⟨Json.Decoder.given? id, method, (v.member? "params").bind Json.Decoder.given?⟩ := by
  cases ordered with
  | @object members sorted each =>
    have read : Request.decoder.read "JsonRpcRequest" (.object members) = .ok
        ⟨Json.Decoder.given? id, method,
          (members.lookup "params").bind Json.Decoder.given?⟩ := by
      refine Json.Decoder.read_object (fun m mem rule found => ?_) ?_
      · have at_key : members.lookup m.1 = some m.2 := Value.lookup_of_sorted sorted mem
        have name : rule.name = m.1 := by simpa using List.find?_some found
        have text {key s : String} (same : key = m.1)
            (is : members.lookup key = some (.string s)) :
            (Json.Decoder.readText m.2).map (fun _ => ()) = .ok () := by
          rw [same, at_key] at is
          rw [Option.some.inj is]
          rfl
        have any : (Json.Decoder.readOption .ok m.2).map (fun _ => ()) = .ok () := by
          cases m.2 <;> rfl
        rcases List.mem_cons.1 (List.mem_of_find?_eq_some found) with rfl | later
        · exact text name versioned
        rcases List.mem_cons.1 later with rfl | later
        · exact any
        rcases List.mem_cons.1 later with rfl | later
        · exact text name named
        obtain rfl := List.mem_singleton.1 later
        exact any
      · simp only [Request.decoder, Json.Decoder.build_seq, Json.Decoder.build_map,
          Json.Decoder.build_text, Json.Decoder.build_anything]
        refine ⟨_, ⟨_, ⟨_, ⟨version, versioned, rfl⟩, _, ?_, rfl⟩, method, named, rfl⟩, _, rfl, rfl⟩
        exact congrArg (Option.bind · Json.Decoder.given?) identified
    simp only [Demand.ofValue, identified, read]
    rfl
  | _ => cases identified

private theorem source_object {v : Value} {key : String} {found : Value}
    (h : v.member? key = some found) {α : Type} {d : Json.Decoder α}
    {get : String → Option Value} (source : d.source? v = some get) : get = v.member? := by
  cases v with
  | object members =>
    cases source
    rfl
  | _ => cases h

private theorem decoder_build {get : String → Option Value} {r : Request}
    (h : Request.decoder.build get = .ok r) :
    (get "id").bind Json.Decoder.given? = r.id ∧ get "method" = some (.string r.method) ∧
      (get "params").bind Json.Decoder.given? = r.parameters := by
  simp only [Request.decoder, Json.Decoder.build_seq, Json.Decoder.build_map,
    Json.Decoder.build_text, Json.Decoder.build_anything] at h
  obtain ⟨_, ⟨_, ⟨_, ⟨_, -, rfl⟩, id, known, rfl⟩, method, named, rfl⟩, parameters, given, rfl⟩ := h
  exact ⟨known, named, given⟩

theorem ofLine_request {line : ByteArray} {r : Request} (h : Demand.ofLine line = .request r) :
    ∃ v id, Spells line v ∧ v.member? "id" = some id ∧ r.id.getD .null = id ∧
      v.member? "method" = some (.string r.method) ∧
      ∀ parameters, r.parameters = some parameters → v.member? "params" = some parameters := by
  unfold Demand.ofLine at h
  split at h
  · rename_i text decoded
    unfold Demand.ofText at h
    split at h
    · cases h
    · split at h
      · rename_i v spelled
        unfold Demand.ofValue at h
        split at h
        · cases h
        · rename_i id identified
          split at h
          · rename_i request read
            cases h
            obtain ⟨get, source, built⟩ := Json.Decoder.read_ok read
            rw [source_object identified source] at built
            obtain ⟨known, method, params⟩ := decoder_build built
            rw [identified] at known
            refine ⟨v, id, ⟨text, decoded, spelled⟩, identified, ?_, method, ?_⟩
            · rw [← known]
              exact Json.Decoder.given?_getD id
            · intro parameters given
              obtain ⟨found, member, same⟩ := Option.bind_eq_some_iff.1 (params.trans given)
              rw [member, Json.Decoder.eq_of_given? same]
          · cases h
      · cases h
  · cases h

end ConnectorKit.Server
