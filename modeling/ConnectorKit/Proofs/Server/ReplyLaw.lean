import ConnectorKit.Command.Run
import ConnectorKit.Proofs.Json.OneLine
import ConnectorKit.Proofs.Server.Framing

/-!
The law of requests and replies. A silent line leaves everything as it was, and every other line has
exactly one reply; what a part of the input does is told by that part and the world before it.
-/

set_option autoImplicit false
set_option relaxedAutoImplicit false

namespace ConnectorKit.Server

open Json (Value)

variable {γ : Type}

/-- What a reply tells, as the JSON value it is written as. -/
structure Tells (reply : Reply) (id : Value) : Prop where
  identified : reply.value.member? "id" = some id
  /-- There is a result or an error, and never both. -/
  exclusive : (reply.value.member? "result").isSome = !(reply.value.member? "error").isSome

/-- The line says which version of the protocol it is written in. -/
def Versioned (line : ByteArray) : Prop :=
  ∃ v version, Spells line v ∧ v.member? "jsonrpc" = some (.string version)

/-- An exchange answers its line as it has to. -/
structure Answered (p : Workplace γ) (e : Exchange γ) : Prop where
  silent : Silent e.line → e.reply = none ∧ e.after = e.before
  garbled : Garbled e.line → e.after = e.before ∧ ∃ reply problem, e.reply = some reply ∧
    Tells reply .null ∧ reply.value.member? "error" = some problem ∧
    problem.member? "code" = some (.ofInt (-32700))
  demanded : ∀ id, Demands e.line id → ∃ reply, e.reply = some reply ∧ Tells reply id
  /-- A call of a tool has a result, which tells whether the tool failed. -/
  called : ∀ id t arguments, Asks e.line id t arguments → Versioned e.line →
    e.after = (t.call p arguments e.before).2 ∧ ∃ reply result, e.reply = some reply ∧
      Tells reply id ∧ reply.value.member? "result" = some result ∧
      result.member? "isError" = some (.bool (!(t.call p arguments e.before).1.isOk))

/-- The bytes that the replies are written as. -/
def written (replies : List Reply) : List UInt8 :=
  (Command.Printed.replies replies).toString.toUTF8.toList

private theorem tells_of_ordered {reply : Reply} (ordered : reply.id.Ordered) :
    Tells reply reply.id where
  identified := congrArg some (Value.sortKeys_of_ordered ordered)
  exclusive := by
    obtain ⟨id, result | fault⟩ := reply
    · rfl
    · rfl

private theorem isError_told (text : String) (failed : Bool) :
    (callResult text failed).sortKeys.member? "isError" = some (.bool failed) := by
  have order : "content" < "isError" := by decide
  change (Value.object (Value.sortMembers [("content", _), ("isError", .bool failed)])).member? _ = _
  rw [Value.sortMembers_of_sorted (List.pairwise_pair.2 order)]
  rfl

/-- The result of a call, also where the tool failed. -/
private def shown : Except Refusal String → Outcome
  | .ok text => .result (callResult text false)
  | .error refusal => .result (callResult refusal.message true)

private theorem readCall_of_asks {parameters : Value} {t : Tool} {arguments : Value}
    (named : parameters.member? "name" = some (.string t.name))
    (passed : (parameters.member? "arguments").getD .null = arguments) :
    readCall (some parameters) = .ok (t, arguments) := by
  simp [readCall, named, Value.string?, named?_name, passed]

private theorem answer_of_asks {line : ByteArray} {id : Value} {t : Tool} {arguments : Value}
    (asks : Asks line id t arguments) (versioned : Versioned line) (p : Workplace γ)
    (w : World γ) : answer p line w =
      (some ⟨id, shown (t.call p arguments w).1⟩, (t.call p arguments w).2) := by
  obtain ⟨v, parameters, spelled, identified, method, sent, named, passed⟩ := asks
  obtain ⟨u, version, spelled', declared⟩ := versioned
  obtain rfl := spelled.unique spelled'
  have given : Json.Decoder.given? parameters = some parameters := by
    cases parameters with
    | null => cases named
    | _ => rfl
  have request := ofValue_request spelled.ordered identified declared method
  rw [sent, Option.bind_some, given] at request
  have called := readCall_of_asks named passed
  unfold answer
  rw [ofLine_spelled spelled, request]
  simp only [Request.answer, answerCall, called, Json.Decoder.given?_getD]
  rcases t.call p arguments w with ⟨refusal | text, after⟩ <;> rfl

private theorem answer_of_demands {line : ByteArray} {id : Value} (demands : Demands line id)
    (p : Workplace γ) (w : World γ) : ∃ outcome, (answer p line w).1 = some ⟨id, outcome⟩ := by
  obtain ⟨v, spelled, identified⟩ := demands
  have asked := ofLine_spelled spelled
  unfold Demand.ofValue at asked
  rw [identified] at asked
  dsimp only at asked
  split at asked
  · rename_i r _
    obtain ⟨u, id', spelled', identified', given, -⟩ := ofLine_request asked
    obtain rfl := spelled.unique spelled'
    obtain rfl := Option.some.inj (identified.symm.trans identified')
    exact ⟨(r.answer p w).1, by rw [answer, asked, ← given]⟩
  · rename_i m _
    exact ⟨.error (.invalidRequest m), by rw [answer, asked]⟩

theorem answered_of_mem {p : Workplace γ} {input : ByteArray} {w : World γ} {e : Exchange γ}
    (mem : e ∈ session p input w) : Answered p e := by
  have replied : (answer p e.line e.before).1 = e.reply := congrArg Prod.fst (answer_of_mem mem)
  have left : (answer p e.line e.before).2 = e.after := congrArg Prod.snd (answer_of_mem mem)
  refine ⟨fun silent => ?_, fun garbled => ?_, fun id demands => ?_, fun id t args asks said => ?_⟩
  · have asked := ofLine_silent silent
    rw [← replied, ← left, answer, asked]
    exact ⟨rfl, rfl⟩
  · obtain ⟨reason, asked⟩ := ofLine_garbled garbled
    rw [← replied, ← left, answer, asked]
    refine ⟨rfl, ⟨.null, .error (.unreadable reason)⟩, _, rfl, tells_of_ordered .null, rfl, rfl⟩
  · obtain ⟨outcome, told⟩ := answer_of_demands demands p e.before
    obtain ⟨v, spelled, identified⟩ := demands
    rw [← replied, told]
    exact ⟨_, rfl, tells_of_ordered (spelled.ordered.member identified)⟩
  · have did := answer_of_asks asks said p e.before
    obtain ⟨v, _, spelled, identified, -⟩ := asks
    have ordered := spelled.ordered.member identified
    rw [← replied, ← left, did]
    refine ⟨rfl, ?_⟩
    cases (t.call p args e.before).1 with
    | ok text => exact ⟨_, _, rfl, tells_of_ordered ordered, rfl, isError_told text false⟩
    | error refusal =>
      exact ⟨_, _, rfl, tells_of_ordered ordered, rfl, isError_told refusal.message true⟩

private theorem written_closed (replies : List Reply) :
    written replies = closed (replies.map fun reply => reply.text.toUTF8.toList) := by
  have feed : ("\n" : String).toUTF8.toList = [10] := by
    rw [Text.Bytes.toUTF8_toList]
    rfl
  unfold written Command.Printed.toString
  induction replies with
  | nil => exact Text.Bytes.toUTF8_toList ""
  | cons reply replies ih =>
    simp only [String.toUTF8_eq_toByteArray] at ih feed ⊢
    simp only [List.map_cons, String.join_cons, String.toByteArray_append, Text.Bytes.toList_append,
      ih, feed, closed, List.flatMap_cons]

theorem linesOf_written (replies : List Reply) :
    linesOf (written replies) = replies.map fun reply => reply.text.toUTF8.toList := by
  have unbroken : ∀ line ∈ replies.map fun reply => reply.text.toUTF8.toList,
      (10 : UInt8) ∉ line := by
    intro line mem feed
    obtain ⟨reply, -, rfl⟩ := List.mem_map.1 mem
    exact Json.Writer.compact_oneLine _ (Text.Bytes.lineFeed_mem_toUTF8.1 feed)
  exact (Framed.unique ⟨unbroken, .inl (written_closed replies)⟩).symm

theorem session_lines (p : Workplace γ) (input : ByteArray) (w : World γ) :
    (session p input w).map (·.line.toList) = linesOf input.toList := by
  unfold session
  induction linesOf input.toList generalizing w with
  | nil => rfl
  | cons line lines ih =>
    rw [exchanges, List.map_cons, ih, Text.Bytes.toList_eq]

private theorem serveLines_append (p : Workplace γ) (lines more : List (List UInt8))
    (w : World γ) : serveLines p (lines ++ more) w =
      ((serveLines p lines w).1 ++ (serveLines p more (serveLines p lines w).2).1,
        (serveLines p more (serveLines p lines w).2).2) := by
  induction lines generalizing w with
  | nil => rfl
  | cons line lines ih => simp only [List.cons_append, serveLines, ih, List.append_assoc]

private theorem push_toList (input : ByteArray) (b : UInt8) :
    (input.push b).toList = input.toList ++ [b] := by
  simp only [Text.Bytes.toList_eq, ByteArray.data_push, Array.toList_push]

/-- What follows a line feed is served on the world that was left there. -/
theorem serve_append (p : Workplace γ) (input more : ByteArray) (w : World γ) :
    serve p (input.push 10 ++ more) w =
      let first := serve p (input.push 10) w
      let rest := serve p more first.2
      (first.1 ++ rest.1, rest.2) := by
  have cut : linesOf (input.push 10 ++ more).toList =
      linesOf (input.push 10).toList ++ linesOf more.toList := by
    rw [Text.Bytes.toList_append, push_toList, List.append_assoc, List.singleton_append,
      linesOf_append]
  unfold serve
  rw [cut, serveLines_append]

private theorem silent_empty : Silent ⟨#[]⟩ := by
  refine .inl ⟨"", ?_, by decide⟩
  exact dif_pos ByteArray.isValidUTF8_empty

theorem serve_ended (p : Workplace γ) {input : ByteArray} (lacks : input.toList.getLast? ≠ some 10)
    (w : World γ) : serve p (input.push 10) w = serve p input w := by
  unfold serve
  rw [push_toList]
  by_cases empty : input.toList = []
  · rw [empty]
    have idle : answer p ⟨#[]⟩ w = (none, w) := by rw [answer, ofLine_silent silent_empty]
    change ((answer p ⟨#[]⟩ w).1.toList ++ [], (answer p ⟨#[]⟩ w).2) = ([], w)
    rw [idle]
    rfl
  · rw [linesOf_ended empty lacks]

/-- The law of requests and replies, for every input: it is cut into lines at its line feeds, each
line is answered as it has to be, the replies come in order and each on a line of its own, and the
service goes on from the world that was left at a line feed. -/
theorem serve_answers (p : Workplace γ) (input : ByteArray) (w : World γ) :
    Framed input.toList ((session p input w).map (·.line.toList)) ∧
      (∀ e ∈ session p input w,
        (Silent e.line ∨ Garbled e.line ∨ ∃ id, Demands e.line id) ∧ Answered p e) ∧
      (serve p input w).1 = (session p input w).filterMap (·.reply) ∧
      linesOf (written (serve p input w).1) =
        (serve p input w).1.map (fun reply => reply.text.toUTF8.toList) ∧
      (∀ more, serve p (input.push 10 ++ more) w =
        let first := serve p (input.push 10) w
        let rest := serve p more first.2
        (first.1 ++ rest.1, rest.2)) ∧
      (input.toList.getLast? ≠ some 10 → serve p (input.push 10) w = serve p input w) := by
  refine ⟨?_, fun e mem => ⟨line_cases e.line, answered_of_mem mem⟩, serve_replies p input w,
    linesOf_written _, fun more => serve_append p input more w, fun lacks => serve_ended p lacks w⟩
  rw [session_lines]
  exact linesOf_framed _

end ConnectorKit.Server
