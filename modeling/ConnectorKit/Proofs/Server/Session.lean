import ConnectorKit.Proofs.Server.Request
import ConnectorKit.Server.Serve

/-!
A session cut into its exchanges: a line, the world before it, the reply, and the world after it.
What one line can do is said once, in `answer_cases`: it leaves the world alone, or it calls one
tool, and which tool with which arguments is told by the JSON of the line.
-/

set_option autoImplicit false
set_option relaxedAutoImplicit false

namespace ConnectorKit.Server

open Json (Value)

variable {γ : Type}

structure Exchange (γ : Type) where
  line : ByteArray
  before : World γ
  reply : Option Reply
  after : World γ

/-- The exchanges of a session, each on the world that the one before has left. -/
def exchanges (p : Workplace γ) : List (List UInt8) → World γ → List (Exchange γ)
  | [], _ => []
  | line :: lines, w =>
    let (reply, after) := answer p ⟨line.toArray⟩ w
    ⟨⟨line.toArray⟩, w, reply, after⟩ :: exchanges p lines after

/-- The exchanges of a session on the whole input. -/
def session (p : Workplace γ) (input : ByteArray) (w : World γ) : List (Exchange γ) :=
  exchanges p (linesOf input.toList) w

theorem serve_replies (p : Workplace γ) (input : ByteArray) (w : World γ) :
    (serve p input w).1 = (session p input w).filterMap (·.reply) := by
  unfold serve session
  induction linesOf input.toList generalizing w with
  | nil => rfl
  | cons line lines ih =>
    simp only [serveLines, exchanges, List.filterMap_cons, ih]
    cases (answer p ⟨line.toArray⟩ w).1 <;> rfl

/-- What holds of a world from one exchange to the next holds from the start to the end. -/
theorem serve_induction {p : Workplace γ} {input : ByteArray} {w : World γ}
    {kept : World γ → World γ → Prop} (refl : ∀ w, kept w w)
    (trans : ∀ {u v w}, kept u v → kept v w → kept u w)
    (step : ∀ e ∈ session p input w, kept e.before e.after) :
    kept w (serve p input w).2 := by
  unfold session at step
  unfold serve
  generalize linesOf input.toList = lines at step ⊢
  induction lines generalizing w with
  | nil => exact refl w
  | cons line lines ih =>
    have first := step _ List.mem_cons_self
    have later := ih fun e mem => step e (List.mem_cons_of_mem _ mem)
    exact trans first later

theorem answer_of_mem {p : Workplace γ} {input : ByteArray} {w : World γ} {e : Exchange γ}
    (mem : e ∈ session p input w) : answer p e.line e.before = (e.reply, e.after) := by
  unfold session at mem
  generalize linesOf input.toList = lines at mem
  induction lines generalizing w with
  | nil => cases mem
  | cons line lines ih =>
    rcases List.mem_cons.1 mem with rfl | later
    · rfl
    · exact ih later

theorem line_of_mem {p : Workplace γ} {input : ByteArray} {w : World γ} {e : Exchange γ}
    (mem : e ∈ session p input w) : ∃ line ∈ linesOf input.toList, e.line = ⟨line.toArray⟩ := by
  unfold session at mem
  generalize linesOf input.toList = lines at mem
  induction lines generalizing w with
  | nil => cases mem
  | cons line lines ih =>
    rcases List.mem_cons.1 mem with rfl | later
    · exact ⟨line, List.mem_cons_self, rfl⟩
    · obtain ⟨other, inside, same⟩ := ih later
      exact ⟨other, List.mem_cons_of_mem _ inside, same⟩

/-- The line asks for a call of the tool with the arguments, told from its JSON alone. -/
def Asks (line : ByteArray) (id : Value) (t : Tool) (arguments : Value) : Prop :=
  ∃ v parameters, Spells line v ∧ v.member? "id" = some id ∧
    v.member? "method" = some (.string "tools/call") ∧ v.member? "params" = some parameters ∧
    parameters.member? "name" = some (.string t.name) ∧
    (parameters.member? "arguments").getD .null = arguments

theorem named?_name (t : Tool) : Tool.named? t.name = some t := by
  cases t <;> rfl

theorem Asks.unique {line : ByteArray} {id id' : Value} {t t' : Tool} {arguments arguments' : Value}
    (h : Asks line id t arguments) (h' : Asks line id' t' arguments') :
    id' = id ∧ t' = t ∧ arguments' = arguments := by
  obtain ⟨v, params, spelled, given, -, sent, name, rfl⟩ := h
  obtain ⟨_, _, spelled', given', -, sent', name', rfl⟩ := h'
  obtain rfl := spelled.unique spelled'
  obtain rfl := Option.some.inj (sent.symm.trans sent')
  have same := Value.string.inj (Option.some.inj (name.symm.trans name'))
  have tools := named?_name t
  rw [same, named?_name t'] at tools
  exact ⟨Option.some.inj (given'.symm.trans given), Option.some.inj tools, rfl⟩

private theorem name_of_named {name : String} {t : Tool} (h : Tool.named? name = some t) :
    t.name = name := by
  simpa using List.find?_some h

private theorem readCall_ok {parameters : Option Value} {t : Tool} {arguments : Value}
    (h : readCall parameters = .ok (t, arguments)) :
    ∃ v, parameters = some v ∧ v.member? "name" = some (.string t.name) ∧
      (v.member? "arguments").getD .null = arguments := by
  unfold readCall at h
  split at h
  · cases h
  · rename_i v
    split at h
    · cases h
    · rename_i name found
      split at h
      · cases h
      · rename_i named
        cases h
        refine ⟨v, rfl, ?_, rfl⟩
        obtain ⟨value, member, text⟩ := Option.bind_eq_some_iff.1 found
        cases value with
        | string s =>
          cases text
          rw [member, name_of_named named]
        | _ => cases text

/-- The result of a call that was carried out, also where the tool failed. -/
def told : Except Failure String → Outcome
  | .ok text => .result (callResult text false)
  | .error f => .result (callResult f.message true)

private theorem request_cases (r : Request) (p : Workplace γ) (w : World γ) :
    (r.answer p w).2 = w ∨ ∃ t arguments act, r.method = "tools/call" ∧
      readCall r.parameters = .ok (t, arguments) ∧ t.action p arguments = .ok act ∧
      r.answer p w = (told (act.perform w).1, (act.perform w).2) := by
  unfold Request.answer
  split
  · exact .inl rfl
  · exact .inl rfl
  · rename_i called
    unfold answerCall
    split
    · exact .inl rfl
    · rename_i t arguments named
      unfold Tool.call
      cases acted : t.action p arguments with
      | error m => exact .inl rfl
      | ok act =>
        refine .inr ⟨t, arguments, act, called, named, acted, ?_⟩
        rcases result : act.perform w with ⟨f | reply, after⟩ <;> simp only [result] <;> rfl
  · exact .inl rfl

/-- One line leaves the world alone, or it is a call of a tool that was carried out. -/
theorem answer_cases (p : Workplace γ) (line : ByteArray) (w : World γ) :
    (answer p line w).2 = w ∨ ∃ id t arguments act, Asks line id t arguments ∧
      t.action p arguments = .ok act ∧
      answer p line w = (some ⟨id, told (act.perform w).1⟩, (act.perform w).2) := by
  unfold answer
  split
  · exact .inl rfl
  · exact .inl rfl
  · rename_i r demanded
    obtain ⟨v, id, spelled, identified, given, method, parameters⟩ := ofLine_request demanded
    rcases request_cases r p w with idle | ⟨t, arguments, act, called, named, acted, answered⟩
    · exact .inl idle
    · obtain ⟨params, sent, name, passed⟩ := readCall_ok named
      refine .inr ⟨id, t, arguments, act, ?_, acted, ?_⟩
      · exact ⟨v, params, spelled, identified, called ▸ method, parameters params sent, name, passed⟩
      · rw [answered, given]

end ConnectorKit.Server
