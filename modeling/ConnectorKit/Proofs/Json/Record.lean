import ConnectorKit.Json.Record
import ConnectorKit.Proofs.Basic

/-!
What a record that was read says of the value it was read from.
-/

set_option autoImplicit false
set_option relaxedAutoImplicit false

namespace ConnectorKit.Json.Decoder

variable {α β : Type}

/-- Where a record finds its members: by key in an object, by place in an array. -/
def source? (d : Decoder α) : Value → Option (String → Option Value)
  | .object members => some fun key => members.lookup key
  | .array items => some fun key => ((d.fields.map (·.name)).zip items).lookup key
  | _ => none

theorem read_ok {d : Decoder α} {record : String} {v : Value} {a : α}
    (h : d.read record v = .ok a) : ∃ get, d.source? v = some get ∧ d.build get = .ok a := by
  cases v with
  | object members =>
    obtain ⟨_, _, built⟩ := bind_ok h
    exact ⟨_, rfl, built⟩
  | array items =>
    obtain ⟨_, _, built⟩ := bind_ok h
    exact ⟨_, rfl, built⟩
  | _ => cases h

theorem read_object {d : Decoder α} {record : String} {members : List (String × Value)} {a : α}
    (checked : ∀ m ∈ members, ∀ rule, d.fields.find? (·.name = m.1) = some rule →
      rule.check m.2 = .ok ())
    (built : d.build (fun key => members.lookup key) = .ok a) :
    d.read record (.object members) = .ok a := by
  have passed : checkMembers d.fields members = .ok () := by
    clear built
    induction members with
    | nil => rfl
    | cons m rest ih =>
      have later := ih fun m' mem => checked m' (List.mem_cons_of_mem _ mem)
      have first := checked m List.mem_cons_self
      unfold checkMembers
      cases found : d.fields.find? (·.name = m.1) with
      | none => exact later
      | some rule =>
        change (rule.check m.2 >>= fun _ => checkMembers d.fields rest) = .ok ()
        rw [first rule found]
        exact later
  change (checkMembers d.fields members >>= fun _ => _) = _
  rw [passed]
  exact built

@[simp] theorem build_pure (a b : α) (get : String → Option Value) :
    (Pure.pure a : Decoder α).build get = .ok b ↔ a = b :=
  Except.ok.injEq a b ▸ Iff.rfl

@[simp] theorem build_seq (f : Decoder (α → β)) (x : Decoder α) (b : β)
    (get : String → Option Value) :
    (f <*> x).build get = .ok b ↔
      ∃ g, f.build get = .ok g ∧ ∃ a, x.build get = .ok a ∧ g a = b := by
  constructor
  · intro h
    obtain ⟨g, hf, rest⟩ := bind_ok h
    obtain ⟨a, hx, last⟩ := bind_ok rest
    exact ⟨g, hf, a, hx, Except.ok.inj last⟩
  · rintro ⟨g, hf, a, hx, rfl⟩
    change (f.build get >>= fun g => x.build get >>= fun a => .ok (g a)) = _
    rw [hf]
    change (x.build get >>= fun a => .ok (g a)) = _
    rw [hx]
    rfl

@[simp] theorem build_map (g : α → β) (x : Decoder α) (b : β) (get : String → Option Value) :
    (g <$> x).build get = .ok b ↔ ∃ a, x.build get = .ok a ∧ g a = b := by
  change (Pure.pure g <*> x).build get = .ok b ↔ _
  simp

@[simp] theorem build_text (name s : String) (get : String → Option Value) :
    (text name).build get = .ok s ↔ get name = some (.string s) := by
  simp only [text, field]
  rcases get name with _ | v
  · simp
  · cases v <;> simp [readText]

/-- A value that counts as given: any but null. -/
def given? : Value → Option Value
  | .null => none
  | v => some v

@[simp] theorem given?_getD (v : Value) : (given? v).getD .null = v := by
  cases v <;> rfl

theorem eq_of_given? {v u : Value} (h : given? v = some u) : v = u := by
  cases v <;> cases h <;> rfl

@[simp] theorem build_anything (name : String) (v : Option Value) (get : String → Option Value) :
    (anything name).build get = .ok v ↔ (get name).bind given? = v := by
  simp only [anything, field]
  rcases get name with _ | found
  · simp
  · cases found <;> simp [readOption, given?, Except.map]

end ConnectorKit.Json.Decoder
