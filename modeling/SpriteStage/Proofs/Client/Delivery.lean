import SpriteStage.Client.Exchange
import SpriteStage.Proofs.Json.Payload
import SpriteStage.Proofs.Text.Utf8

/-!
# Calls that are delivered

A call is put into a payload, printed, encoded and framed by its length; the service takes the frame off,
decodes and reads the payload, looks at the path and finds the arguments.  What it finds is what the client
was called with: the request asks for the action that the call names.  Only a body that is too long to be
taken at once gets lost on the way.

## Main definitions

* `ServiceAddress` is an address that a service can have
* `Call.action` is what a call asks for, without any message
* `Call.isPlain` tells which calls get the whole body of an answer

## Main results

* `Call.action_request`
-/

namespace SpriteStage

/-! ## Addresses -/

/-- An address that a service can have: a scheme and a host, with closing slashes or without. -/
structure ServiceAddress where
  scheme : String
  host : String
  slashes : Nat := 0
  scheme_ok : ':' ∉ scheme.toList
  host_ne : host ≠ ""
  /-- The host goes on up to the path. -/
  host_ok : ∀ c ∈ host.toList, c ≠ '/' ∧ c ≠ '?' ∧ c ≠ '#'

namespace ServiceAddress

/-- The text of an address. -/
def text (a : ServiceAddress) : String :=
  a.scheme ++ "://" ++ a.host ++ String.ofList (List.replicate a.slashes '/')

theorem afterScheme_append {scheme : List Char} (h : ':' ∉ scheme) (rest : List Char) :
    pathOf.afterScheme (scheme ++ ':' :: '/' :: '/' :: rest) = some rest := by
  induction scheme with
  | nil => rfl
  | cons c scheme ih =>
    rw [List.mem_cons, not_or] at h
    rw [List.cons_append, pathOf.afterScheme]
    · exact ih h.2
    · rintro _ rfl
      exact absurd rfl h.1

/-- Without its closing slashes an address ends with the host. -/
theorem toList_text_closed (a : ServiceAddress) :
    (a.text.toList.reverse.dropWhile (· == '/')).reverse =
      a.scheme.toList ++ ':' :: '/' :: '/' :: a.host.toList := by
  have hslashes : ∀ c ∈ List.replicate a.slashes '/', (c == '/') = true := by
    intro c hc
    rw [List.eq_of_mem_replicate hc]
    rfl
  -- The slashes before the host stay, since the host has a last character that is none.
  obtain ⟨front, last, hlast⟩ : ∃ front last, a.host.toList = front ++ [last] := by
    refine (List.eq_nil_or_concat' a.host.toList).resolve_left fun hnil => a.host_ne ?_
    exact String.toList_eq_nil_iff.1 hnil
  have hne : last ≠ '/' := (a.host_ok last (by rw [hlast]; simp)).1
  have htext : a.text.toList =
      (a.scheme.toList ++ ':' :: '/' :: '/' :: front) ++ last :: List.replicate a.slashes '/' := by
    simp [text, String.toList_append, hlast]
  rw [htext, hlast, List.reverse_append, List.reverse_cons, List.append_assoc, List.reverse_replicate,
    List.dropWhile_append_of_pos hslashes, List.singleton_append,
    List.dropWhile_cons_of_neg (by simpa using hne)]
  simp

/-- A message goes to its path, however many slashes close the address. -/
theorem pathOf_url (a : ServiceAddress) (m : Message) (hpath : m.path.toList.head? = some '/') :
    pathOf (m.url a.text) = m.path := by
  have hhost : ∀ c ∈ a.host.toList, c ≠ '/' := fun c hc => (a.host_ok c hc).1
  rw [pathOf, Message.url, a.toList_text_closed, String.toList_append, String.toList_ofList,
    List.append_assoc, List.cons_append, List.cons_append, List.cons_append,
    afterScheme_append a.scheme_ok, Option.getD_some, List.dropWhile_append_of_pos (by simpa using hhost)]
  cases hcs : m.path.toList with
  | nil =>
    rw [hcs] at hpath
    cases hpath
  | cons c cs =>
    rw [hcs] at hpath
    cases hpath
    rw [List.dropWhile_cons_of_neg (by simp), ← hcs, String.ofList_toList]

end ServiceAddress

/-! ## Lengths -/

namespace Text

open Numeral (IsDigits isDigits_digitsOf)

/-- Digits of ASCII are a numeral as they stand. -/
theorem numeralOf_of_isDigits {s : String} (h : IsDigits s.toList) : numeralOf s = s.toList := by
  have hlow : ∀ c ∈ s.toList, c.toNat < 0x80 ∧ isAsciiBlank c = false := by
    intro c hc
    have hdigit := h c hc
    simp only [Char.isDigit, ge_iff_le, Bool.and_eq_true, decide_eq_true_eq] at hdigit
    have hge : 48 ≤ c.toNat := UInt32.le_iff_toNat_le.1 hdigit.1
    have hle : c.toNat ≤ 57 := UInt32.le_iff_toNat_le.1 hdigit.2
    refine ⟨by omega, ?_⟩
    have hne : c ≠ ' ' := by
      rintro rfl
      exact absurd hge (by decide)
    simp [isAsciiBlank, hne]
    omega
  have hmap : s.toList.map toAsciiNumeral = s.toList := by
    refine (List.map_congr_left fun c hc => ?_).trans s.toList.map_id
    rw [toAsciiNumeral, if_pos (hlow c hc).1]
    rfl
  have hkept : ∀ cs : List Char, (∀ c ∈ cs, isAsciiBlank c = false) → cs.dropWhile isAsciiBlank = cs := by
    intro cs hcs
    cases cs with
    | nil => rfl
    | cons c cs => exact List.dropWhile_cons_of_neg (by simp [hcs c List.mem_cons_self])
  rw [numeralOf, hmap, hkept _ fun c hc => (hlow c hc).2,
    hkept _ fun c hc => (hlow c (List.mem_reverse.1 hc)).2, List.reverse_reverse]

theorem toList_toString (n : ℕ) : (toString n).toList = Decimal.digitsOf n := String.toList_ofList

theorem numeralOf_toString (n : ℕ) : numeralOf (toString n) = Decimal.digitsOf n := by
  rw [← toList_toString, numeralOf_of_isDigits (toList_toString n ▸ isDigits_digitsOf n)]

/-- The text of a natural is read as the natural. -/
theorem integer?_toString (n : ℕ) : integer? (toString n) = some (n : ℤ) := by
  have hsign : Numeral.sign (Decimal.digitsOf n) = (false, Decimal.digitsOf n) := by
    rw [Numeral.sign]
    · intro rest h
      exact absurd (isDigits_digitsOf n '-' (by rw [h]; simp)) (by decide)
    · intro rest h
      exact absurd (isDigits_digitsOf n '+' (by rw [h]; simp)) (by decide)
  have hnatural : Numeral.natural? 10 (Decimal.digitsOf n) = some n := by
    rw [Numeral.natural?, if_pos (Numeral.isGrouped_of_isDigits (isDigits_digitsOf n)
      Nat.toDigits_ne_nil), Numeral.valueOf_eq_ofDigitChars (isDigits_digitsOf n),
      Numeral.ofDigitChars_digitsOf]
  rw [integer?, numeralOf_toString, Numeral.integer?, hsign]
  show (Numeral.natural? 10 (Decimal.digitsOf n)).map _ = _
  rw [hnatural]
  rfl

end Text

/-! ## Bodies -/

/-- The number of bytes of the body of a message. -/
def Message.size (m : Message) : ℕ := ((m.body.map Text.encodeUtf8).getD []).length

/-- The text of an object starts with a brace. -/
theorem Json.exists_toList_print {style : Json.Style} {fields : List (String × Value)} {s : String}
    (h : Json.print style (.object fields) = .ok s) : ∃ tail, s.toList = '\x7b' :: tail := by
  obtain ⟨texts, -, h⟩ := exists_of_bind_eq_ok h
  cases h
  rw [Json.enclose]
  split <;> simp [String.toList_append]

namespace Request

variable {r : Request}

/-- The object that a framed body writes is read from it. -/
theorem fields_of_bytes {s : String} {fields : List (String × Value)} (hne : s ≠ "")
    (hbytes : r.bytes = .ok (Text.encodeUtf8 s)) (hread : Json.read s = .ok (.object fields)) :
    r.fields = .ok fields := by
  have hdecode := Text.decodeUtf8_encodeUtf8 s
  have hnonempty : (Text.encodeUtf8 s).isEmpty = false := by
    cases hencoded : Text.encodeUtf8 s with
    | nil =>
      rw [hencoded] at hdecode
      exact absurd (Except.ok.inj hdecode).symm hne
    | cons b bs => rfl
  simp only [Request.fields, hbytes, bind, Except.bind, hnonempty, hdecode, hread, Except.mapError]
  rfl

/-- A length that is written by its digits is read back, unless it is past the range. -/
theorem length_of_toString {n : ℕ} (hlength : r.contentLength = some (toString n))
    (hdigits : (Decimal.digitsOf n).length ≤ digitLimit) :
    r.length = if n < 2 ^ 63 then .ok (n : ℤ) else .error .lengthRange := by
  have hfilter : (Decimal.digitsOf n).filter Char.isDigit = Decimal.digitsOf n :=
    List.filter_eq_self.2 (Numeral.isDigits_digitsOf n)
  have hrange : Int64.minValue.toInt ≤ (n : ℤ) ∧ (n : ℤ) ≤ Int64.maxValue.toInt ↔ n < 2 ^ 63 := by
    rw [Int64.toInt_minValue, Int64.toInt_maxValue]
    omega
  have hnonneg : ¬ (n : ℤ) < -1 := by omega
  simp only [Request.length, hlength, Option.getD_some, Text.integer?_toString,
    Text.numeralOf_toString, hfilter, Nat.not_lt.2 hdigits, if_false, hrange, if_neg hnonneg]

/-- A length that is the number of all bytes takes all of them. -/
theorem bytes_of_length {n : ℕ} (hlength : r.length = .ok (n : ℤ)) (hn : r.body.length = n) :
    r.bytes = .ok r.body := by
  rw [bytes, hlength]
  show Except.ok (if (n : ℤ) < 0 then _ else _) = _
  rw [if_neg (by omega), Int.toNat_natCast, ← hn, List.take_length]

end Request

/-- What is posted to a service is taken as the fields of the payload, if it can be taken at all. -/
theorem Message.action_request_of_post (a : ServiceAddress) {path : String}
    {fields : List (String × Value)} {m : Message} (hkeyed : (Value.object fields).isKeyed = true)
    (hm : post path (.object fields) = .ok m) (hpath : path.toList.head? = some '/')
    (hdigits : (Decimal.digitsOf m.size).length ≤ digitLimit) :
    (m.request a.text).action =
      if m.size < 2 ^ 63 then Request.call path fields else .fail .indexRange := by
  rw [post] at hm
  split at hm
  · rename_i body hprint
    obtain rfl := Except.ok.inj hm
    have hread := Json.read_print_unsorted rfl hkeyed hprint
    have hne : body ≠ "" := by
      rintro rfl
      obtain ⟨tail, htail⟩ := Json.exists_toList_print hprint
      cases htail
    generalize hr : Message.request ⟨.post, path, some body⟩ a.text = r
    have hmethod : r.method = .post := by rw [← hr]; rfl
    have hurl : r.path = path := by rw [← hr]; exact a.pathOf_url ⟨.post, path, some body⟩ hpath
    have hbody : r.body = Text.encodeUtf8 body := by rw [← hr]; rfl
    have hlength := Request.length_of_toString (r := r) (by rw [← hr]; rfl) hdigits
    rw [Request.action, hmethod, hurl]
    by_cases hsize : (Message.mk .post path (some body)).size < 2 ^ 63
    · rw [if_pos hsize] at hlength
      have hbytes := Request.bytes_of_length hlength (by rw [hbody]; rfl)
      rw [hbody] at hbytes
      simp only [Request.fields_of_bytes hne hbytes hread, if_pos hsize]
    · have hfields : r.fields = .error .lengthRange := by
        rw [Request.fields, Request.bytes, hlength, if_neg hsize]
        rfl
      simp only [hfields, if_neg hsize]
  · cases hm

/-! ## Calls -/

namespace Call

/-- The fields that a run is given: `null` is not given. -/
def runFields (source instructions : Value) : List (String × Value) :=
  [("source", source), ("instructions", instructions)].filter (·.2.kind ≠ .null)

/-- What a call asks for if its arguments are given to the service themselves. -/
def action : Call → Action
  | .listTools => .showTools
  | .callTool name arguments => .ofTool name arguments
  | .getState => .showState
  | .listSamples => .showSamples
  | .runProgram source instructions => .ofRun (runFields source instructions)
  | .loadSample title => .ofTool (.text Tool.loadSample.name) (.object [("title", title)])
  | .reset => .reset

/-- Whether a call gets the body of its answer as it is and has arguments that can be given: the fields of
    objects have different keys, and a tool has a name and an object of arguments. -/
def isPlain : Call → Bool
  | .listTools | .listSamples => false
  | .callTool (.text name) (.object fields) => name ≠ "" && (Value.object fields).isKeyed
  | .callTool .. => false
  | .runProgram source instructions => source.isKeyed && instructions.isKeyed
  | .loadSample title => title.isKeyed
  | .getState | .reset => true

theorem exists_of_isPlain_callTool {name arguments : Value}
    (h : (callTool name arguments).isPlain = true) :
    ∃ s fields, name = .text s ∧ arguments = .object fields ∧ s ≠ "" ∧
      (Value.object fields).isKeyed = true := by
  cases name with
  | text s =>
    cases arguments with
    | object fields =>
      rw [isPlain, Bool.and_eq_true, decide_eq_true_eq] at h
      exact ⟨s, fields, rfl, rfl, h⟩
    | _ => cases h
  | _ => cases h

theorem isKeyed_runFields {source instructions : Value}
    (h : (runProgram source instructions).isPlain = true) :
    (Value.object (runFields source instructions)).isKeyed = true := by
  rw [isPlain, Bool.and_eq_true] at h
  rw [Value.isKeyed, Bool.and_eq_true, decide_eq_true_eq, Value.areKeyedFields_iff]
  refine ⟨.sublist (List.filter_sublist.map _) (by simp), fun f hf => ?_⟩
  rcases List.mem_cons.1 (List.mem_filter.1 hf).1 with rfl | hf
  · exact h.1
  · rw [List.mem_singleton.1 hf]
    exact h.2

/-- A client sends the fields that a run is given. -/
theorem field_append_field (source instructions : Value) :
    field "source" source ++ field "instructions" instructions = runFields source instructions := by
  have hfield : ∀ (key : String) (v : Value), field key v = [(key, v)].filter (·.2.kind ≠ .null) := by
    intro key v
    cases v <;> rfl
  rw [hfield, hfield, ← List.filter_append]
  rfl

/-- The message of a tool asks for the tool. -/
theorem action_request_toolMessage (a : ServiceAddress) {name : String} (hname : name ≠ "")
    {fields : List (String × Value)} (hkeyed : (Value.object fields).isKeyed = true) {m : Message}
    (hm : toolMessage (.text name) (.object fields) = .ok m)
    (hdigits : (Decimal.digitsOf m.size).length ≤ digitLimit) :
    (m.request a.text).action =
      if m.size < 2 ^ 63 then .ofTool (.text name) (.object fields) else .fail .indexRange := by
  have hgiven : (if (Value.object fields).isTruthy then Value.object fields else .object []) =
      .object fields := by
    cases fields <;> rfl
  rw [toolMessage, if_neg (by simpa using hname), hgiven] at hm
  have hpayload : (Value.object [("name", .text name), ("arguments", .object fields)]).isKeyed = true := by
    simpa [Value.isKeyed, Value.areKeyedFields] using hkeyed
  rw [Message.action_request_of_post a hpayload hm rfl hdigits]
  congr 1
  show Action.ofTool (.text name) (if (Value.object fields).isTruthy then _ else _) = _
  exact congrArg (Action.ofTool (.text name)) hgiven

/-- **A call is delivered.**  The message of a call, sent to any address of a service, asks there for what
    the call asks for if its arguments are given to the service themselves, unless its body is past the
    range of lengths. -/
theorem action_request (a : ServiceAddress) {call : Call} (hplain : call.isPlain = true) {m : Message}
    (hm : call.message = .ok m) (hdigits : (Decimal.digitsOf m.size).length ≤ digitLimit) :
    (m.request a.text).action = if m.size < 2 ^ 63 then call.action else .fail .indexRange := by
  cases call with
  | listTools => cases hplain
  | listSamples => cases hplain
  | getState =>
    obtain rfl := Except.ok.inj hm
    show Request.lookUp (pathOf _) = _
    rw [a.pathOf_url ⟨.get, "/state", none⟩ rfl]
    rfl
  | reset =>
    rw [message] at hm
    exact Message.action_request_of_post a rfl hm rfl hdigits
  | loadSample title =>
    rw [message] at hm
    refine action_request_toolMessage a (by decide) ?_ hm hdigits
    simpa [Value.isKeyed, Value.areKeyedFields, isPlain] using hplain
  | runProgram source instructions =>
    rw [message, field_append_field] at hm
    exact Message.action_request_of_post a (isKeyed_runFields hplain) hm rfl hdigits
  | callTool name arguments =>
    obtain ⟨s, fields, rfl, rfl, hname, hkeyed⟩ := exists_of_isPlain_callTool hplain
    rw [message] at hm
    exact action_request_toolMessage a hname hkeyed hm hdigits

end Call

end SpriteStage
