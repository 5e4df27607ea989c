import SpriteStage.Proofs.Json.Payload
import SpriteStage.Proofs.Program.Grammar

/-!
# The canonical form of a payload

Different payloads are decoded to one program: other fields may stand in their objects, bodies that are
empty may be left out, and the message of a failure may be any value with a text.  What the program is
encoded as is the canonical one among them.  It is decoded to the program again, and it is made of values
that stand in the first payload, so it is strict JSON if that is.

## Main definitions

* `Value.Structural` holds of the properties that a value has together with its parts

## Main results

* `Payload.canonical_form_of_decoded`
-/

namespace SpriteStage

/-! ## Properties of values and their parts -/

/-- A property that a value has if its parts have it, and that its parts have if it does. -/
structure Value.Structural (P : Value → Prop) : Prop where
  item {items : List Value} : P (.list items) → ∀ v ∈ items, P v
  field {fields : List (String × Value)} : P (.object fields) → ∀ f ∈ fields, P f.2
  text (s : String) : P (.text s)
  list {items : List Value} : (∀ v ∈ items, P v) → P (.list items)
  object {fields : List (String × Value)} :
    (fields.map (·.1)).Nodup → (∀ f ∈ fields, P f.2) → P (.object fields)

namespace Value

theorem areStrict_iff (items : List Value) : areStrict items = true ↔ ∀ v ∈ items, v.isStrict = true := by
  induction items with
  | nil => simp [areStrict]
  | cons v rest ih => simp [areStrict, ih]

theorem areStrictFields_iff (fields : List (String × Value)) :
    areStrictFields fields = true ↔ ∀ f ∈ fields, f.2.isStrict = true := by
  induction fields with
  | nil => simp [areStrictFields]
  | cons f rest ih => simp [areStrictFields, ih]

theorem structural_isStrict : Structural (·.isStrict = true) where
  item {items} := (areStrict_iff items).1
  field {fields} := (areStrictFields_iff fields).1
  text _ := rfl
  list {items} := (areStrict_iff items).2
  object {fields} _ := (areStrictFields_iff fields).2

theorem structural_isShort : Structural (·.isShort = true) where
  item {items} := (areShort_iff items).1
  field {fields} := (areShortFields_iff fields).1
  text _ := rfl
  list {items} := (areShort_iff items).2
  object {fields} _ := (areShortFields_iff fields).2

theorem structural_isKeyed : Structural (·.isKeyed = true) where
  item {items} := (areKeyed_iff items).1
  field {fields} h := by
    rw [isKeyed, Bool.and_eq_true] at h
    exact (areKeyedFields_iff fields).1 h.2
  text _ := rfl
  list {items} := (areKeyed_iff items).2
  object {fields} hkeys h := by
    rw [isKeyed, Bool.and_eq_true, decide_eq_true_eq]
    exact ⟨hkeys, (areKeyedFields_iff fields).2 h⟩

end Value

/-- A strict value whose integers are short and whose keys are different is exchanged. -/
theorem Json.exchanges_of_isShort {v : Value} (hstrict : v.isStrict = true) (hshort : v.isShort = true)
    (hkeyed : v.isKeyed = true) : Exchanges v where
  writes style := by
    obtain ⟨text, htext⟩ := Value.exists_quoted v hshort
    exact Value.writes_of_quoted style v hstrict htext
  keyed := hkeyed

namespace Payload

/-! ## Arguments -/

/-- A strict value stands for itself. -/
theorem ofValue_of_isStrict {v : Value} (h : v.isStrict = true) : ofValue v = v := by
  cases v with
  | float x => exact if_pos h
  | _ => rfl

/-- What a strict value is read as is spelled like the value. -/
theorem ofValue_toNumeric {v : Value} (h : v.isStrict = true) : ofValue (toNumeric v) = v := by
  cases v with
  | text s =>
    -- Each of the three texts is what its double is spelled out as.
    rw [toNumeric]
    split
    · rename_i hs
      subst hs
      rfl
    split
    · rename_i hs
      subst hs
      rfl
    split
    · rename_i hs
      subst hs
      rfl
    · rfl
  | _ => exact ofValue_of_isStrict h

/-- The argument of an operation is spelled like the field that it is read from. -/
theorem exists_argument {op : Operation} {fields : List (String × Value)} {v : Value}
    (hstrict : ∀ f ∈ fields, f.2.isStrict = true) (h : argument op fields = .ok v) :
    ∃ w, Value.field? op.argumentName fields = some w ∧ ofValue v = w ∧
      v = if op.isNumeric then toNumeric w else w := by
  rw [argument] at h
  split at h
  · cases h
  · rename_i w hw
    have hv := (Except.ok.inj h).symm
    have hw' : w.isStrict = true := hstrict _ (Value.mem_of_field? hw)
    refine ⟨w, hw, ?_, hv⟩
    rw [hv]
    split
    · exact ofValue_toNumeric hw'
    · exact ofValue_of_isStrict hw'

/-! ## Programs -/

section

open Value (Structural)

-- The recursion is that of the decoder.  Only values of the first payload get into the second one, and texts.
mutual

/-- A decoded instruction is encoded as a payload of parts of the one that it was decoded from. -/
theorem exists_ofInstruction_of_decoded : ∀ (v : Value) {i : Instruction}, v.isStrict = true →
    toInstruction v = .ok i → ∃ e, ofInstruction i = .ok e ∧ toInstruction e = .ok i ∧
      ∀ {P : Value → Prop}, Structural P → P v → P e
  | .object fields, i, hstrict, h => by
    have hfields := (Value.areStrictFields_iff fields).1 hstrict
    obtain ⟨t, h⟩ := exists_ofTag h
    cases t with
    | call op =>
      obtain ⟨v, hv, rfl⟩ := exists_of_map_eq_ok h
      obtain ⟨w, hw, hspelled, hread⟩ := exists_argument hfields hv
      -- The new object has the tag and one field, which is a field of the old one.
      refine ⟨_, rfl, ?_, fun hP hobject => ?_⟩
      · rw [hspelled, toInstruction_call, ← hread]
      · rw [hspelled]
        have hw' := hP.field hobject _ (Value.mem_of_field? hw)
        exact hP.object (by cases op <;> simp [Operation.argumentName]) (by simp [hw', hP.text])
    | loop =>
      rw [ofTag] at h
      split at h
      · cases h
      rename_i times htimes
      obtain ⟨body, hbody, rfl⟩ := exists_of_map_eq_ok h
      have hspelled : ofValue (toNumeric times) = times :=
        ofValue_toNumeric (hfields _ (Value.mem_of_field? htimes))
      obtain ⟨items, hitems, hback, hkept⟩ := exists_ofBody_of_decoded fields hfields hbody
      refine ⟨_, by rw [ofInstruction, hitems]; rfl, ?_, fun hP hobject => ?_⟩
      · rw [hspelled, toInstruction_loop, hback]
        rfl
      · rw [hspelled]
        have htimes' := hP.field hobject _ (Value.mem_of_field? htimes)
        have hlist := hP.list (hkept hP (hP.field hobject))
        exact hP.object (by simp) (by simp [htimes', hlist, hP.text])
    | group =>
      obtain ⟨body, hbody, rfl⟩ := exists_of_map_eq_ok h
      obtain ⟨items, hitems, hback, hkept⟩ := exists_ofBody_of_decoded fields hfields hbody
      refine ⟨_, by rw [ofInstruction, hitems]; rfl, ?_, fun hP hobject => ?_⟩
      · rw [toInstruction_group, hback]
        rfl
      · have hlist := hP.list (hkept hP (hP.field hobject))
        exact hP.object (by simp) (by simp [hlist, hP.text])
    | fail =>
      -- The message has become a text, and is read as the text that it is.
      obtain ⟨message, -, rfl⟩ := exists_of_map_eq_ok h
      exact ⟨_, rfl, rfl, fun hP _ => hP.object (by simp) (by simp [hP.text])⟩

theorem exists_ofBody_of_decoded : ∀ (fields : List (String × Value)) {p : List Instruction},
    (∀ f ∈ fields, f.2.isStrict = true) → toBody fields = .ok p → ∃ items, ofInstructions p = .ok items ∧
      toInstructions items = .ok p ∧
      ∀ {P : Value → Prop}, Structural P → (∀ f ∈ fields, P f.2) → ∀ v ∈ items, P v
  | [], _, _, h => by
    cases h
    exact ⟨[], rfl, rfl, by simp⟩
  | (key, v) :: rest, p, hstrict, h => by
    unfold toBody at h
    split at h
    · cases v with
      | list items =>
        have hitems := (Value.areStrict_iff items).1 (hstrict _ List.mem_cons_self)
        obtain ⟨payloads, hpayloads, hback, hkept⟩ := exists_ofInstructions_of_decoded items hitems h
        exact ⟨payloads, hpayloads, hback,
          fun hP hfields => hkept hP (hP.item (hfields _ List.mem_cons_self))⟩
      | _ => cases h
    · obtain ⟨payloads, hpayloads, hback, hkept⟩ :=
        exists_ofBody_of_decoded rest (fun f hf => hstrict f (List.mem_cons_of_mem _ hf)) h
      exact ⟨payloads, hpayloads, hback,
        fun hP hfields => hkept hP fun f hf => hfields f (List.mem_cons_of_mem _ hf)⟩

theorem exists_ofInstructions_of_decoded : ∀ (items : List Value) {p : List Instruction},
    (∀ v ∈ items, v.isStrict = true) → toInstructions items = .ok p →
      ∃ payloads, ofInstructions p = .ok payloads ∧ toInstructions payloads = .ok p ∧
        ∀ {P : Value → Prop}, Structural P → (∀ v ∈ items, P v) → ∀ v ∈ payloads, P v
  | [], _, _, h => by
    cases h
    exact ⟨[], rfl, rfl, by simp⟩
  | v :: rest, p, hstrict, h => by
    rw [List.forall_mem_cons] at hstrict
    obtain ⟨i, hi, h⟩ := exists_of_bind_eq_ok h
    obtain ⟨q, hq, h⟩ := exists_of_bind_eq_ok h
    cases h
    obtain ⟨e, he, hread, hkept⟩ := exists_ofInstruction_of_decoded v hstrict.1 hi
    obtain ⟨payloads, hpayloads, hback, hkepts⟩ := exists_ofInstructions_of_decoded rest hstrict.2 hq
    refine ⟨e :: payloads, ?_, ?_, fun hP hitems => ?_⟩
    · rw [ofInstructions, he, hpayloads]
      rfl
    · rw [toInstructions, hread, hback]
      rfl
    · rw [List.forall_mem_cons] at hitems ⊢
      exact ⟨hkept hP hitems.1, hkepts hP hitems.2⟩

end

end

/-- **What is decoded has a canonical form.**  The program of a payload without doubles that are not finite
    is encoded as a payload without such doubles, which can be written and read back if the first one can.
    It is decoded to the same program, so that decoding and encoding it once more changes nothing. -/
theorem canonical_form_of_decoded {payload : Value} {p : Program} (hstrict : payload.isStrict = true)
    (hdecoded : toProgram payload = .ok p) :
    ∃ canonical, ofProgram p = .ok canonical ∧ canonical.isStrict = true ∧
      (Json.Exchanges payload → Json.Exchanges canonical) ∧
      toProgram canonical = .ok p ∧ (toProgram canonical).bind ofProgram = .ok canonical := by
  cases payload with
  | list items =>
    obtain ⟨payloads, hpayloads, hback, hkept⟩ :=
      exists_ofInstructions_of_decoded items ((Value.areStrict_iff items).1 hstrict) hdecoded
    have hencoded : ofProgram p = .ok (.list payloads) := by
      rw [ofProgram, hpayloads]
      rfl
    have hlist {P : Value → Prop} (hP : Value.Structural P) (h : P (.list items)) : P (.list payloads) :=
      hP.list (hkept hP (hP.item h))
    have hcanonical := hlist Value.structural_isStrict hstrict
    refine ⟨.list payloads, hencoded, hcanonical, fun hexchanges => ?_, hback, ?_⟩
    · -- What can be written has short integers, and so has what is made of its parts.
      have hwritten := (Json.writes_iff rfl).1 (hexchanges.writes {})
      have hshort := hlist Value.structural_isShort hwritten.2
      exact Json.exchanges_of_isShort hcanonical hshort (hlist Value.structural_isKeyed hexchanges.keyed)
    · rw [show toProgram (.list payloads) = .ok p from hback]
      exact hencoded
  | _ => cases hdecoded

/-- Loops to infinity without a body, nested groups and messages of every kind have a canonical form. -/
theorem canonical_form_of_spelled_arguments :
    let payload : Value := .list
      [.object [("note", .int 7), ("op", .text "repeat"), ("times", .text "Infinity")],
       .object [("op", .text "sequence"), ("body", .list
         [.object [("op", .text "wait"), ("seconds", .text "NaN"), ("body", .null)],
          .object [("op", .text "turn"), ("degrees", .list [.text "NaN"])],
          .object [("op", .text "say"), ("message", .text "-Infinity")]])],
       .object [("op", .text "fail"), ("message", .list [.int 1, .null])],
       .object [("op", .text "fail")]]
    let canonical : Value := .list
      [.object [("op", .text "repeat"), ("times", .text "Infinity"), ("body", .list [])],
       .object [("op", .text "sequence"), ("body", .list
         [.object [("op", .text "wait"), ("seconds", .text "NaN")],
          .object [("op", .text "turn"), ("degrees", .list [.text "NaN"])],
          .object [("op", .text "say"), ("message", .text "-Infinity")]])],
       .object [("op", .text "fail"), ("message", .text "[1, None]")],
       .object [("op", .text "fail"), ("message", .text "")]]
    payload.isStrict = true ∧ ∃ p, toProgram payload = .ok p ∧ ofProgram p = .ok canonical ∧
      Json.Exchanges canonical ∧ toProgram canonical = .ok p ∧
      (toProgram canonical).bind ofProgram = .ok canonical := by
  intro payload canonical
  have hstrict : payload.isStrict = true := rfl
  have hexchanges : Json.Exchanges payload :=
    Json.exchanges_of_isShort hstrict (by decide +kernel) (by decide +kernel)
  obtain ⟨p, hp, hencoded⟩ : ∃ p, toProgram payload = .ok p ∧ ofProgram p = .ok canonical :=
    ⟨_, rfl, rfl⟩
  obtain ⟨e, he, -, hkept, hread, hagain⟩ := canonical_form_of_decoded hstrict hp
  obtain rfl : canonical = e := Except.ok.inj (hencoded.symm.trans he)
  exact ⟨hstrict, p, hp, hencoded, hkept hexchanges, hread, hagain⟩

end Payload

end SpriteStage
