import SpriteStage.Proofs.Json.Keys
import SpriteStage.Proofs.Program.Exporting
import SpriteStage.Proofs.Run.Settlement
import SpriteStage.Proofs.Service.Refusal

/-!
# Outcomes of actions

What an action comes to is a status and a payload, before the payload is written.  The answer of a service
is nothing but this outcome written down.  A payload of a success is an object of what is shown or of a
result; that of a refusal is an object with one field, `error`, which says something.  In either case its
fields have different keys, if this holds for what the sprite and the program say.

## Main definitions

* `Playground.respond` is the playground after an action, with the outcome
* `Playground.ResponseFields` says what fields the payloads of the two kinds of answers have

## Main results

* `Playground.serve_eq` writes the outcome down
* `Playground.responseFields_respond`
-/

namespace SpriteStage

/-- A status and a payload, or why there are none. -/
abbrev Outcome := Except OperationError (Nat × Value)

/-- The outcome of a refusal. -/
def Outcome.ofRefusal (refusal : Refusal) : Outcome :=
  .ok (refusal.status, .object [("error", .text refusal.message)])

/-- The answer that writes an outcome down. -/
def Answer.ofOutcome : Outcome → Answer
  | .ok (status, payload) => .ofPayload status payload
  | .error e => .error (.operation e)

namespace Playground

/-- The playground after an action, and the outcome. -/
def respond (p : Playground) : Action → Playground × Outcome
  | .showState => (p, .ok (200, Payload.ofPlayground p))
  | .showSamples => (p, .ok (200, .object [("samples", .list (Sample.all.map Payload.ofSample))]))
  | .showTools => (p, .ok (200, .object [("tools", .list (Tool.all.map Payload.ofTool))]))
  | .run program =>
    match p.runToEnd program with
    | .ok (q, result) => (q, .ok (200, Payload.ofResult result))
    | .error e => (p, .ofRefusal (.playground e))
  | .reset => (p.reset, .ok (200, Payload.ofPlayground p.reset))
  | .loadSample title =>
    match p.loadSample title with
    | .ok (q, _) => (q, .ok (200, Payload.ofPlayground q))
    | .error e => (p, .ofRefusal (.playground e))
  | .refuse refusal => (p, .ofRefusal refusal)
  | .fail e => (p, .error e)

/-- A service that nobody else uses answers with the outcome of what a request asks for. -/
theorem serve_eq (p : Playground) (r : Request) :
    p.serve r = ((p.respond r.action).1, .ofOutcome (p.respond r.action).2) := by
  rw [serve]
  cases r.action with
  | run program =>
    simp only [performWith, runThrough, respond]
    cases p.runToEnd program <;> rfl
  | loadSample title =>
    simp only [performWith, respond]
    cases p.loadSample title <;> rfl
  | _ => rfl

end Playground

/-! ## Refusals say something -/

theorem PayloadError.message_ne_empty (e : PayloadError) : e.message ≠ "" := by
  cases e with
  | operation e => exact e.message_ne_empty
  | _ =>
    delta message
    simp [toString]

theorem PlaygroundError.message_ne_empty (e : PlaygroundError) : e.message ≠ "" := by
  delta message
  cases e <;> simp [toString]

/-- Nothing is refused without a message. -/
theorem Refusal.message_ne_empty (refusal : Refusal) : refusal.message ≠ "" := by
  cases refusal with
  | badProgram e => exact e.message_ne_empty
  | playground e => exact e.message_ne_empty
  | _ =>
    delta message
    simp [toString]

/-! ## Keys in programs of payloads -/

theorem Value.isKeyed_of_field? {fields : List (String × Value)} (h : areKeyedFields fields = true)
    {key : String} {v : Value} (hv : field? key fields = some v) : v.isKeyed = true :=
  (areKeyedFields_iff fields).1 h _ (mem_of_field? hv)

namespace Payload

theorem isKeyed_toNumeric {v : Value} (h : v.isKeyed = true) : (toNumeric v).isKeyed = true := by
  cases v with
  | text s =>
    simp only [toNumeric]
    repeat' split
    all_goals rfl
  | _ => exact h

theorem isKeyed_of_argument {op : Operation} {fields : List (String × Value)}
    (h : Value.areKeyedFields fields = true) {v : Value} (hv : argument op fields = .ok v) :
    v.isKeyed = true := by
  rw [argument] at hv
  split at hv
  · cases hv
  · rename_i w hw
    obtain rfl := Except.ok.inj hv
    have hkeyed := Value.isKeyed_of_field? h hw
    split
    · exact isKeyed_toNumeric hkeyed
    · exact hkeyed

mutual

theorem isKeyed_of_mem_toInstruction : ∀ (v : Value), v.isKeyed = true → ∀ {i : Instruction},
    toInstruction v = .ok i → ∀ call ∈ i.calls, call.2.isKeyed = true
  | .object fields, hkeyed, i, h => by
    rw [Value.isKeyed, Bool.and_eq_true] at hkeyed
    rw [toInstruction] at h
    obtain ⟨tag, -, h⟩ := exists_of_bind_eq_ok h
    cases tag with
    | call op =>
      obtain ⟨v, hv, h⟩ := exists_of_bind_eq_ok h
      cases h
      simpa [Instruction.calls] using isKeyed_of_argument hkeyed.2 hv
    | loop =>
      dsimp only at h
      split at h
      · cases h
      · obtain ⟨body, hbody, h⟩ := exists_of_bind_eq_ok h
        cases h
        exact isKeyed_of_mem_toBody fields hkeyed.2 hbody
    | group =>
      obtain ⟨body, hbody, h⟩ := exists_of_bind_eq_ok h
      cases h
      exact isKeyed_of_mem_toBody fields hkeyed.2 hbody
    | fail =>
      obtain ⟨message, -, h⟩ := exists_of_bind_eq_ok h
      cases h
      simp [Instruction.calls]

theorem isKeyed_of_mem_toBody : ∀ (fields : List (String × Value)), Value.areKeyedFields fields = true →
    ∀ {body : List Instruction}, toBody fields = .ok body →
      ∀ call ∈ Program.calls body, call.2.isKeyed = true
  | [], _, _, h => by
    cases h
    simp [Program.calls]
  | (key, v) :: rest, hkeyed, body, h => by
    rw [Value.areKeyedFields, Bool.and_eq_true] at hkeyed
    unfold toBody at h
    split at h
    · cases v with
      | list items => exact isKeyed_of_mem_toInstructions items hkeyed.1 h
      | _ => cases h
    · exact isKeyed_of_mem_toBody rest hkeyed.2 h

/-- The arguments of a program are keyed if its payload is. -/
theorem isKeyed_of_mem_toInstructions : ∀ (items : List Value), Value.areKeyed items = true →
    ∀ {p : List Instruction}, toInstructions items = .ok p →
      ∀ call ∈ Program.calls p, call.2.isKeyed = true
  | [], _, _, h => by
    cases h
    simp [Program.calls]
  | v :: rest, hkeyed, p, h => by
    rw [Value.areKeyed, Bool.and_eq_true] at hkeyed
    obtain ⟨i, hi, h⟩ := exists_of_bind_eq_ok h
    obtain ⟨q, hq, h⟩ := exists_of_bind_eq_ok h
    cases h
    intro call hcall
    rcases List.mem_append.1 hcall with hcall | hcall
    · exact isKeyed_of_mem_toInstruction v hkeyed.1 hi call hcall
    · exact isKeyed_of_mem_toInstructions rest hkeyed.2 hq call hcall

end

end Payload

/-! ## What actions say -/

/-- A tool is called by its name. -/
theorem Action.ofTool_name (tool : Tool) (arguments : List (String × Value)) :
    ofTool (.text tool.name) (.object arguments) = ofCall tool arguments := by
  simp only [ofTool, Tool.ofName?_name]

/-- What the instructions of an action say has a property. -/
def Action.Says (P : Value → Prop) (a : Action) : Prop := ∀ q ∈ a.program?, Program.Says P q

namespace Action

variable {fields : List (String × Value)}

theorem says_refuse (P : Value → Prop) (refusal : Refusal) : Says P (.refuse refusal) := by
  rintro q ⟨⟩

theorem says_fail (P : Value → Prop) (e : OperationError) : Says P (.fail e) := by
  rintro q ⟨⟩

theorem says_ofInstructions {payload : Value} (h : payload.isKeyed = true) :
    Says (·.isKeyed = true) (ofInstructions payload) := by
  rw [ofInstructions]
  split
  · rename_i p hp
    rintro q ⟨⟩ message hmem
    cases payload with
    | list items => exact Payload.isKeyed_of_mem_toInstructions items h hp _ hmem
    | _ => cases hp
  · exact says_fail _ _
  · exact says_refuse _ _

/-- A run says keyed values if the fields that call for it are keyed. -/
theorem says_ofRun (h : Value.areKeyedFields fields = true) : Says (·.isKeyed = true) (ofRun fields) := by
  rw [ofRun]
  split
  · rename_i payload hpayload
    exact says_ofInstructions (Value.isKeyed_of_field? h hpayload)
  · split
    · rintro q ⟨⟩
    · rintro q ⟨⟩
    · exact says_refuse _ _

theorem says_ofUnknownName (P : Value → Prop) (name : Value) : Says P (ofUnknownName name) := by
  rw [ofUnknownName]
  split
  · exact says_refuse _ _
  · exact says_fail _ _

theorem says_ofCall (tool : Tool) (h : Value.areKeyedFields fields = true) :
    Says (·.isKeyed = true) (ofCall tool fields) := by
  cases tool with
  | runProgram => exact says_ofRun h
  | loadSample =>
    rw [ofCall, ofTitle]
    split
    · rintro q ⟨⟩
    · exact says_fail _ _
  | _ => rintro q ⟨⟩

/-- A tool says keyed values if its arguments are keyed. -/
theorem says_ofTool (name : Value) {arguments : Value} (h : arguments.isKeyed = true) :
    Says (·.isKeyed = true) (ofTool name arguments) := by
  unfold ofTool
  split
  · rw [Value.isKeyed, Bool.and_eq_true] at h
    split
    · split
      · exact says_ofCall _ h.2
      · exact says_ofUnknownName _ _
    · exact says_ofUnknownName _ _
  · exact says_refuse _ _

end Action

/-! ## What requests say -/

namespace Request

variable {r : Request}

/-- The fields of a request have been read, unless its body is empty. -/
theorem read_of_fields {fields : List (String × Value)} (h : r.fields = .ok fields) :
    fields = [] ∨ ∃ text, Json.read text = .ok (.object fields) := by
  rw [Request.fields] at h
  obtain ⟨bytes, -, h⟩ := exists_of_bind_eq_ok h
  split at h
  · cases h
    exact .inl rfl
  · obtain ⟨text, -, h⟩ := exists_of_bind_eq_ok h
    obtain ⟨v, hv, h⟩ := exists_of_bind_eq_ok h
    split at h
    · cases h
      exact .inr ⟨text, eq_ok_of_mapError hv⟩
    · cases h

theorem isKeyed_of_fields {fields : List (String × Value)} (h : r.fields = .ok fields) :
    (Value.object fields).isKeyed = true := by
  rcases read_of_fields h with rfl | ⟨text, hread⟩
  · rfl
  · exact Json.isKeyed_of_read hread

theorem says_lookUp (P : Value → Prop) (path : String) : (lookUp path).Says P := by
  rw [lookUp]
  repeat' split
  all_goals rintro q ⟨⟩

theorem says_call (path : String) {fields : List (String × Value)}
    (h : Value.areKeyedFields fields = true) : (call path fields).Says (·.isKeyed = true) := by
  rw [call]
  split
  · exact Action.says_ofRun h
  · split
    · rintro q ⟨⟩
    · split
      · refine Action.says_ofTool _ ?_
        split
        · cases hgiven : Value.field? "arguments" fields with
          | none => rfl
          | some arguments => exact Value.isKeyed_of_field? h hgiven
        · rfl
      · exact Action.says_refuse _ _

/-- The instructions of a request say keyed values, since they have been read. -/
theorem says_action (r : Request) : r.action.Says (·.isKeyed = true) := by
  rw [action]
  split
  · exact says_lookUp _ _
  · split
    · rename_i fields hfields
      have hkeyed := isKeyed_of_fields hfields
      rw [Value.isKeyed, Bool.and_eq_true] at hkeyed
      exact says_call _ hkeyed.2
    · exact Action.says_fail _ _
    · exact Action.says_refuse _ _

end Request

theorem Service.Event.says_isKeyed (e : Service.Event) : e.Says (·.isKeyed = true) := by
  cases e with
  | request r => exact r.says_action
  | wake runId reason => trivial
  | cancel runId => trivial

/-- **Keys are different in what a playground shows**, whatever has happened to its service. -/
theorem Playground.isKeyed_speech_attendAll (config : StageConfig) (first : Int)
    (history : List Service.Event) :
    (({ config := config, nextId := first } : Playground).attendAll history).sprite.speech.isKeyed =
      true := by
  have hfresh := shows_fresh (·.isKeyed = true) rfl config first
  exact (hfresh.attendAll rfl (fun _ => Value.isKeyed_of_isScalar) fun e _ => e.says_isKeyed).sprite.1

/-! ## Payloads of outcomes -/

namespace Playground

/-- The payload of a success is an object with different keys; that of a failure has an error that says
    something, and nothing else. -/
def ResponseFields (status : ℕ) (fields : List (String × Value)) : Prop :=
  (Value.object fields).isKeyed = true ∧
    (status = 200 ∨ 400 ≤ status ∧ ∃ message, message ≠ "" ∧ fields = [("error", .text message)])

variable {p q : Playground}

theorem exists_ofRefusal (refusal : Refusal) {status : ℕ} {payload : Value}
    (h : Outcome.ofRefusal refusal = .ok (status, payload)) :
    ∃ fields, payload = .object fields ∧ ResponseFields status fields := by
  cases h
  exact ⟨_, rfl, rfl, .inr ⟨refusal.le_status, _, refusal.message_ne_empty, rfl⟩⟩

theorem exists_ofPlayground (h : p.sprite.speech.isKeyed = true) :
    ∃ fields, Payload.ofPlayground p = .object fields ∧ ResponseFields 200 fields := by
  refine ⟨_, rfl, ?_, .inl rfl⟩
  simp [Value.isKeyed, Value.areKeyedFields, Payload.isKeyed_ofSprite h]

theorem finish_of_runToEnd {program : Option RunSource} {result : RunResult}
    (h : p.runToEnd program = .ok (q, result)) : result = (p.engage program).2.finish := by
  rw [runToEnd] at h
  obtain ⟨-, -, h⟩ := exists_of_bind_eq_ok h
  exact (Prod.mk.inj (Except.ok.inj h)).2.symm

theorem sprite_loadSample {title : String} {sample : Sample} (h : p.loadSample title = .ok (q, sample)) :
    q.sprite = p.sprite := by
  rw [loadSample] at h
  split at h
  · obtain ⟨-, -, h⟩ := exists_of_bind_eq_ok h
    cases h
    rfl
  · cases h

theorem isKeyed_samples :
    (Value.object [("samples", .list (Sample.all.map Payload.ofSample))]).isKeyed = true := by
  decide

theorem isKeyed_tools :
    (Value.object [("tools", .list (Tool.all.map Payload.ofTool))]).isKeyed = true := by
  decide

/-- **The payload of an outcome is an object**, and if it is that of a failure, its error says something.
    Its keys are different if they are in what the sprite and the program say. -/
theorem exists_fields_of_respond (hspeech : p.sprite.speech.isKeyed = true) {a : Action}
    (hsaid : a.Says (·.isKeyed = true)) {status : ℕ} {payload : Value}
    (h : (p.respond a).2 = .ok (status, payload)) :
    ∃ fields, payload = .object fields ∧ ResponseFields status fields := by
  cases a with
  | showState =>
    cases h
    exact exists_ofPlayground hspeech
  | showSamples =>
    cases h
    exact ⟨_, rfl, isKeyed_samples, .inl rfl⟩
  | showTools =>
    cases h
    exact ⟨_, rfl, isKeyed_tools, .inl rfl⟩
  | run program =>
    simp only [respond] at h
    split at h
    · rename_i q result hend
      cases h
      -- A run says what the program says, which was in the request or in the playground.
      have hspeaks : result.Speaks (·.isKeyed = true) := by
        rw [finish_of_runToEnd hend]
        apply Run.finish_of_answers
        refine Run.answers_speaks (P := (·.isKeyed = true)) rfl fun body hbody => ?_
        refine p.says_engage (fun _ => Value.isKeyed_of_isScalar) ?_ hbody
        rintro body rfl
        exact hsaid body rfl
      exact ⟨_, rfl, Payload.isKeyed_ofResult fun s hs => (hspeaks s hs).1, .inl rfl⟩
    · exact exists_ofRefusal _ h
  | reset =>
    cases h
    exact exists_ofPlayground rfl
  | loadSample title =>
    simp only [respond] at h
    split at h
    · rename_i q _ hload
      cases h
      -- Loading a sample leaves the sprite as it is.
      exact exists_ofPlayground (by rwa [sprite_loadSample hload])
    · exact exists_ofRefusal _ h
  | refuse refusal => exact exists_ofRefusal refusal h
  | fail e => cases h

end Playground

end SpriteStage
