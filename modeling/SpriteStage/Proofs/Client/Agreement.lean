import SpriteStage.Proofs.Client.Delivery
import SpriteStage.Proofs.Service.Outcome
import SpriteStage.Proofs.Text.Blank

/-!
# Clients agree with the service

A client that calls a playground through messages gets what it would get if it called the functions of the
service itself, and leaves the playground as these would.  On the way to the service this is the delivery of
the call; on the way back the client reads the payload of the outcome from the answer that writes it down,
and the status tells the same two cases apart that the service had.

## Main results

* `Playground.handle_request` carries out what a call asks for
* `Playground.exchange_eq_respond` gives a call its value or its error
-/

namespace SpriteStage

/-! ## Reading answers -/

namespace ServiceReply

variable {fields : List (String × Value)} {body : String}

/-- An object that has been written for an answer is decoded. -/
theorem decode_print (hkeyed : (Value.object fields).isKeyed = true)
    (h : Json.print {} (.object fields) = .ok body) : decode (Text.encodeUtf8 body) = .ok fields := by
  obtain ⟨tail, htail⟩ := Json.exists_toList_print h
  have hstrip : (Text.strip body).isEmpty = false := by
    rw [Text.strip, htail]
    simpa using Text.stripList_ne_nil rfl tail
  have hread := Json.read_print_unsorted rfl hkeyed h
  simp only [decode, Text.decodeUtf8_encodeUtf8, Except.mapError, bind, Except.bind, hstrip, hread]
  rfl

/-- The answer of a success gives the fields of its payload. -/
theorem fields_of_success (hkeyed : (Value.object fields).isKeyed = true)
    (h : Json.print {} (.object fields) = .ok body) :
    (Response.received ⟨200, body⟩).fields = .ok fields := by
  rw [ServiceReply.fields]
  show (decode (Text.encodeUtf8 body) >>= _) = _
  rw [decode_print hkeyed h]
  rfl

/-- The answer of a failure gives its status and its error. -/
theorem fields_of_failure {status : ℕ} (hstatus : 400 ≤ status) {message : String} (hmessage : message ≠ "")
    (h : Json.print {} (.object [("error", .text message)]) = .ok body) :
    (Response.received ⟨status, body⟩).fields = .error (.refused status message) := by
  have hfailed : (Response.received ⟨status, body⟩).isSuccess = false := by
    have hlarge : ¬ status < 300 := by omega
    simp [isSuccess, Response.received, hlarge]
  have hdetail : (Response.received ⟨status, body⟩).detail [("error", .text message)] = .ok message := by
    have htruthy : (Value.text message).isTruthy = true := by simpa [Value.isTruthy] using hmessage
    simp [detail, Value.field?, htruthy, Value.plain, Except.mapError]
  rw [ServiceReply.fields]
  show (decode (Text.encodeUtf8 body) >>= _) = _
  rw [decode_print rfl h]
  simp only [bind, Except.bind, hfailed, hdetail]
  rfl

end ServiceReply

/-! ## Calls -/

namespace Call

variable {call : Call}

theorem value_of_isPlain (h : call.isPlain = true) (fields : List (String × Value)) :
    call.value fields = .object fields := by
  cases call with
  | listTools => cases h
  | listSamples => cases h
  | _ => rfl

/-- A call makes of a success the payload. -/
theorem ofAnswer_of_success (h : call.isPlain = true) {fields : List (String × Value)} {body : String}
    (hkeyed : (Value.object fields).isKeyed = true) (hprint : Json.print {} (.object fields) = .ok body) :
    call.ofAnswer (.ok ⟨200, body⟩) = .ok (.object fields) := by
  rw [ofAnswer, result, ServiceReply.fields_of_success hkeyed hprint, ← value_of_isPlain h]
  rfl

/-- A call makes of a failure its status and its error. -/
theorem ofAnswer_of_failure {status : ℕ} (hstatus : 400 ≤ status) {message body : String}
    (hmessage : message ≠ "") (hprint : Json.print {} (.object [("error", .text message)]) = .ok body) :
    call.ofAnswer (.ok ⟨status, body⟩) = .error (.client (.refused status message)) := by
  rw [ofAnswer, result, ServiceReply.fields_of_failure hstatus hmessage hprint]
  rfl

/-- What a plain call makes a sprite say is keyed. -/
theorem says_action (h : call.isPlain = true) : call.action.Says (·.isKeyed = true) := by
  cases call with
  | callTool name arguments =>
    obtain ⟨s, fields, rfl, rfl, -, hkeyed⟩ := exists_of_isPlain_callTool h
    rw [action]
    exact Action.says_ofTool _ hkeyed
  | runProgram source instructions =>
    have hkeyed := isKeyed_runFields h
    rw [Value.isKeyed, Bool.and_eq_true] at hkeyed
    exact Action.says_ofRun hkeyed.2
  | loadSample title =>
    rw [isPlain] at h
    rw [action]
    exact Action.says_ofTool _ (by simp [Value.isKeyed, Value.areKeyedFields, h])
  | _ => rintro q ⟨⟩

end Call

/-! ## Exchanges -/

namespace Playground

/-- An exchange is the service of the message, with the call's reading of the answer. -/
theorem exchange_eq_serve {p : Playground} {base : String} {call : Call} {m : Message}
    (hm : call.message = .ok m) :
    p.exchange base call =
      ((p.serve (m.request base)).1, call.ofAnswer (p.serve (m.request base)).2) := by
  rw [exchange, hm]
  rfl

/-- Also while others use the playground, a call that is delivered does to it what its action does. -/
theorem handle_request (a : ServiceAddress) (p : Playground) {call : Call} (hplain : call.isPlain = true)
    {m : Message} (hm : call.message = .ok m) (hsize : m.size < 2 ^ 63) :
    p.handle (m.request a.text) = p.perform call.action := by
  rw [handle, call.action_request a hplain hm (length_digitsOf_of_lt hsize), if_pos hsize]

/-- **A client agrees with its service.**  Take any plain call of a client to a service at any address, in
    whatever state the playground is, and suppose that the call has a message and that the service sends
    an answer to it.  Let the functions of the service be given the arguments of the call themselves, in
    the same state: they come to a status and the fields of a payload.  If the status means success, these
    fields are what the call gives; if not, the call fails with the status and the error among the fields.
    In either case the playground is afterwards what those functions leave.  Objects must have different
    keys, also in what the sprite says, as it is in every playground that is reached
    (`isKeyed_speech_attendAll`), and the number of bytes in the message must have a text. -/
theorem exchange_eq_respond (a : ServiceAddress) {p : Playground}
    (hspeech : p.sprite.speech.isKeyed = true) {call : Call} (hplain : call.isPlain = true) {m : Message}
    (hm : call.message = .ok m) (hdigits : (Decimal.digitsOf m.size).length ≤ digitLimit)
    {response : Response} (hsent : (p.serve (m.request a.text)).2 = .ok response) :
    ∃ q status fields, p.respond call.action = (q, .ok (status, .object fields)) ∧
      (status = 200 → p.exchange a.text call = (q, .ok (.object fields))) ∧
      (status ≠ 200 → ∃ message, Value.field? "error" fields = some (.text message) ∧
        p.exchange a.text call = (q, .error (.client (.refused status message)))) := by
  -- The service understands the message as the action of the call.
  have haction := call.action_request a hplain hm hdigits
  rw [exchange_eq_serve hm]
  rw [serve_eq] at hsent ⊢
  by_cases hsize : m.size < 2 ^ 63
  · rw [haction, if_pos hsize] at hsent ⊢
    rcases hrespond : p.respond call.action with ⟨q, e | ⟨status, payload⟩⟩
    · rw [hrespond] at hsent
      cases hsent
    · -- Its payload is an object, which is printed and read back as it is.
      obtain ⟨fields, rfl, hkeyed, hfields⟩ :=
        exists_fields_of_respond hspeech (Call.says_action hplain) (congrArg Prod.snd hrespond)
      rw [hrespond] at hsent
      simp only [Answer.ofOutcome, Answer.ofPayload] at hsent ⊢
      split at hsent
      · rename_i body hprint
        refine ⟨q, status, fields, rfl, ?_, fun hstatus => ?_⟩
        · rintro rfl
          rw [Call.ofAnswer_of_success hplain hkeyed hprint]
        · obtain ⟨hstatus, message, hmessage, rfl⟩ := hfields.resolve_left hstatus
          exact ⟨message, rfl, by rw [Call.ofAnswer_of_failure hstatus hmessage hprint]⟩
      · cases hsent
  · -- A body that is too long is not answered at all.
    rw [haction, if_neg hsize] at hsent
    cases hsent

/-- A call for a sample that nobody knows fails with the words of the service; a call to run a program that
    says not-a-number gives the result of the run. -/
theorem exchange_eq_respond_of_sample_and_run :
    let a : ServiceAddress :=
      { scheme := "http", host := "stage.test", slashes := 1, scheme_ok := by simp, host_ne := by simp,
        host_ok := by simp }
    let p : Playground := {}
    let load : Call := .loadSample (.text "Nowhere")
    let run : Call := .runProgram .null
      (.list [.object [("op", .text "say"), ("message", .float Double.nan)]])
    p.exchange a.text load =
        (p, .error (.client (.refused 404 "Unknown sample program 'Nowhere'."))) ∧
      ∃ result : RunResult, result.isCompleted = true ∧
        p.exchange a.text run = ((p.respond run.action).1, .ok (Payload.ofResult result)) := by
  intro a p load run
  -- Both calls have a message, and both messages are answered.
  have hanswered : ∀ call ∈ [load, run], call.message.toOption.any (fun m =>
      (Decimal.digitsOf m.size).length ≤ digitLimit &&
        (p.serve (m.request a.text)).2.toOption.any fun _ => true) = true := by
    decide +kernel
  have hsent : ∀ call ∈ [load, run], ∃ m response, call.message = .ok m ∧
      (Decimal.digitsOf m.size).length ≤ digitLimit ∧
        (p.serve (m.request a.text)).2 = .ok response := by
    intro call hcall
    obtain ⟨m, hm, h⟩ := exists_of_any_toOption (hanswered call hcall)
    rw [Bool.and_eq_true, decide_eq_true_eq] at h
    obtain ⟨response, hresponse, -⟩ := exists_of_any_toOption h.2
    exact ⟨m, response, hm, h.1, hresponse⟩
  constructor
  · obtain ⟨m, response, hm, hdigits, hresponse⟩ := hsent load (by simp)
    obtain ⟨q, status, fields, hrespond, -, hfailed⟩ := exchange_eq_respond a rfl rfl hm hdigits hresponse
    cases hrespond
    obtain ⟨message, hmessage, hexchange⟩ := hfailed (by decide)
    cases hmessage
    exact hexchange
  · obtain ⟨m, response, hm, hdigits, hresponse⟩ := hsent run (by simp)
    obtain ⟨q, status, fields, hrespond, hsucceeded, -⟩ :=
      exchange_eq_respond a rfl rfl hm hdigits hresponse
    refine ⟨(p.engage (some (.program [.call .say (.float Double.nan)]))).2.finish, by decide +kernel, ?_⟩
    cases hrespond
    exact hsucceeded rfl

end Playground

end SpriteStage
