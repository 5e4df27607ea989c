import SpriteStage.Client.Exchange
import SpriteStage.Proofs.Json.Reading
import SpriteStage.Proofs.Json.Short
import SpriteStage.Proofs.Text.Utf8

/-!
# Failures that a client is told of

A service tells of a failure by its status.  The client then reads the body for what went wrong, and if it
can be read the call fails with the status and with that detail.  But a body need not come from the service:
a page of another server between the two is no JSON, and then the call fails over the body instead, and the
status is lost.

## Main definitions

* `ServiceReply.Holds` says what can be read in a body
* `Value.truthyError?` is what a value says about a failure

## Main results

* `Call.failure_is_told_if_its_body_is_read`, and `Call.page_hides_its_status` is a failure that is not told
-/

namespace SpriteStage

/-- What a value says about a failure: the field `error` of an object, if that counts as true. -/
def Value.truthyError? : Value → Option Value
  | .object fields => (Value.field? "error" fields).filter Value.isTruthy
  | _ => none

namespace ServiceReply

/-- What the body of a reply holds, if it can be read: nothing but blanks, or a value. -/
inductive Holds (reply : ServiceReply) : Option Value → Prop where
  | blank {text : String} (htext : Text.decodeUtf8 reply.body = .ok text)
    (hblank : (Text.strip text).isEmpty = true) : Holds reply none
  | value {text : String} {v : Value} (htext : Text.decodeUtf8 reply.body = .ok text)
    (hblank : (Text.strip text).isEmpty = false) (hread : Json.read text = .ok v) : Holds reply (some v)

variable {reply : ServiceReply} {text : String}

theorem decode_of_encoding {e : Text.Utf8Error} (h : Text.decodeUtf8 reply.body = .error e) :
    decode reply.body = .error (.encoding e) := by
  rw [decode, h]
  rfl

theorem decode_of_blank (h : Text.decodeUtf8 reply.body = .ok text)
    (hblank : (Text.strip text).isEmpty = true) : decode reply.body = .ok [] := by
  simp only [decode, h, Except.mapError, bind, Except.bind, hblank]
  rfl

theorem decode_of_text (h : Text.decodeUtf8 reply.body = .ok text)
    (hblank : (Text.strip text).isEmpty = false) :
    decode reply.body = match Json.read text with
      | .error e => .error (.json e)
      | .ok (.object fields) => .ok fields
      | .ok _ => .ok [] := by
  simp only [decode, h, Except.mapError, bind, Except.bind, hblank]
  rcases Json.read text with e | v
  · rfl
  · cases v <;> rfl

/-- A failure whose body cannot be read is one of the body. -/
theorem fields_of_decode_error {e : ClientError} (h : decode reply.body = .error e) :
    reply.fields = .error e := by
  rw [fields, h]
  rfl

/-- A failure whose body can be read is told with its detail. -/
theorem fields_of_detail (hfailure : reply.isSuccess = false) {fs : List (String × Value)} {detail : String}
    (h : decode reply.body = .ok fs) (hdetail : reply.detail fs = .ok detail) :
    reply.fields = .error (.refused reply.status detail) := by
  rw [fields, h]
  simp only [bind, Except.bind, hfailure, hdetail]
  rfl

/-- What is read from a body has a detail: its integers are short, so that its error has a text. -/
theorem exists_detail {fs : List (String × Value)} (hshort : Value.areShortFields fs = true) :
    ∃ detail, reply.detail fs = .ok detail ∧
      match (Value.object fs).truthyError? with
      | some error => error.plain = .ok detail
      | none => detail = reply.reason := by
  rw [detail, Value.truthyError?]
  rcases hfield : Value.field? "error" fs with _ | error
  · exact ⟨_, rfl, rfl⟩
  dsimp only [Option.getD_some]
  rw [Option.filter_some]
  split
  · obtain ⟨detail, hdetail⟩ :=
      Value.exists_plain ((Value.areShortFields_iff fs).1 hshort _ (Value.mem_of_field? hfield))
    exact ⟨detail, by rw [hdetail]; rfl, hdetail⟩
  · exact ⟨_, rfl, rfl⟩

/-- A body that can be read is decoded to fields that say the same about a failure. -/
theorem Holds.exists_fields {held : Option Value} (h : reply.Holds held) :
    ∃ fs, decode reply.body = .ok fs ∧ Value.areShortFields fs = true ∧
      (Value.object fs).truthyError? = held.bind Value.truthyError? := by
  cases h with
  | blank htext hblank => exact ⟨[], decode_of_blank htext hblank, rfl, rfl⟩
  | @value _ v htext hblank hread =>
    have hdecode := decode_of_text htext hblank
    rw [hread] at hdecode
    cases v with
    | object fs => exact ⟨fs, hdecode, Json.isShort_of_read hread, rfl⟩
    | _ => exact ⟨[], hdecode, rfl, rfl⟩

end ServiceReply

namespace Call

open ServiceReply (Holds fields_of_detail fields_of_decode_error decode_of_encoding decode_of_text)

/-- A call fails with what its reply fails with. -/
theorem result_of_fields (call : Call) {reply : ServiceReply} {e : ClientError}
    (h : reply.fields = .error e) : call.result reply = .error e := by
  rw [result, h]
  rfl

/-- **A failure is told if its body is read.**  When a reply does not mean success, every call fails.  If its
    body holds nothing or a value, the call fails with the status, and the detail is the text of the error in
    the body, if that is an object with one that counts as true, and else the reason.  A body can only not be
    read because it is not encoded as text, or because its text is not JSON; the call then fails with that. -/
theorem failure_is_told_if_its_body_is_read (call : Call) {reply : ServiceReply}
    (hfailure : reply.isSuccess = false) :
    (∀ held, reply.Holds held →
      ∃ detail, call.result reply = .error (.refused reply.status detail) ∧
        match held.bind Value.truthyError? with
        | some error => error.plain = .ok detail
        | none => detail = reply.reason) ∧
    ((∃ held, reply.Holds held) ∨
      (∃ e, Text.decodeUtf8 reply.body = .error e ∧ call.result reply = .error (.encoding e)) ∨
      ∃ text e, Text.decodeUtf8 reply.body = .ok text ∧ (Text.strip text).isEmpty = false ∧
        Json.read text = .error e ∧ call.result reply = .error (.json e)) := by
  constructor
  · -- A body that is read has fields, and the failure is told with their detail.
    intro held hheld
    obtain ⟨fs, hdecode, hshort, htold⟩ := hheld.exists_fields
    obtain ⟨detail, hdetail, hsays⟩ := ServiceReply.exists_detail hshort
    rw [htold] at hsays
    exact ⟨detail, call.result_of_fields (fields_of_detail hfailure hdecode hdetail), hsays⟩
  · -- A body is no text, or it is blank, or it is no JSON, or it is read.
    rcases htext : Text.decodeUtf8 reply.body with e | text
    · exact .inr (.inl ⟨e, rfl, call.result_of_fields (fields_of_decode_error (decode_of_encoding htext))⟩)
    rcases hblank : (Text.strip text).isEmpty
    · have hdecode := decode_of_text htext hblank
      rcases hread : Json.read text with e | v
      · rw [hread] at hdecode
        exact .inr (.inr ⟨text, e, rfl, hblank, hread, call.result_of_fields (fields_of_decode_error hdecode)⟩)
      · exact .inl ⟨some v, .value htext hblank hread⟩
    · exact .inl ⟨none, .blank htext hblank⟩

/-- A list in the field `error` is the detail, as it is displayed. -/
theorem listed_error_is_told :
    let reply : ServiceReply := ⟨409, "Conflict", Text.encodeUtf8 "\x7b\"error\": [1, \"two\"]\x7d"⟩
    reply.isSuccess = false ∧ getState.result reply = .error (.refused 409 "[1, 'two']") := by
  intro reply
  have hprint : Json.print {} (.object [("error", .list [.int 1, .text "two"])]) =
      .ok "\x7b\"error\": [1, \"two\"]\x7d" := by decide +kernel
  have hheld : reply.Holds (some (.object [("error", .list [.int 1, .text "two"])])) :=
    .value (Text.decodeUtf8_encodeUtf8 _) (by decide +kernel)
      (Json.read_print_unsorted rfl (by decide +kernel) hprint)
  obtain ⟨detail, hresult, hdetail⟩ := (failure_is_told_if_its_body_is_read getState rfl).1 _ hheld
  have hplain : (Value.list [.int 1, .text "two"]).plain = .ok "[1, 'two']" := by decide +kernel
  obtain rfl : "[1, 'two']" = detail := Except.ok.inj (hplain.symm.trans hdetail)
  exact ⟨rfl, hresult⟩

/-- The page of another server hides its status: the call fails because the page is not JSON. -/
theorem page_hides_its_status :
    let reply : ServiceReply := ⟨502, "Bad Gateway", Text.encodeUtf8 "<html>"⟩
    reply.isSuccess = false ∧
      ∃ e, getState.result reply = .error (.json e) ∧
        ∀ status detail, getState.result reply ≠ .error (.refused status detail) := by
  intro reply
  have hjson : (match getState.result reply with | .error (.json _) => true | _ => false) = true := by
    decide +kernel
  refine ⟨rfl, ?_⟩
  rcases hresult : getState.result reply with e | v
  · cases e with
    | json e => exact ⟨e, rfl, fun status detail h => by cases h⟩
    | _ =>
      rw [hresult] at hjson
      cases hjson
  · rw [hresult] at hjson
    cases hjson

end Call

end SpriteStage
