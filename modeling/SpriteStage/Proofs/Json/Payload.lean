import SpriteStage.Proofs.Json.Reading
import SpriteStage.Proofs.Playground.Commitment
import SpriteStage.Proofs.Program.Relisting
import SpriteStage.Proofs.Run.Replay

/-!
# Payloads that are written and read back

The objects in payloads have different keys, unless the values that a program carries hold objects with
equal ones.  So a payload that can be written is read back as it is: that of a compiled program whose
integers have texts, and that of the result of its run.

## Main definitions

* `Json.Exchanges` says that a value is written in every style and read back
-/

namespace SpriteStage

/-! ## Keys -/

namespace Value

theorem areKeyed_iff (items : List Value) : areKeyed items = true ↔ ∀ v ∈ items, v.isKeyed = true := by
  induction items with
  | nil => simp [areKeyed]
  | cons v rest ih => simp [areKeyed, ih]

theorem areKeyedFields_iff (fields : List (String × Value)) :
    areKeyedFields fields = true ↔ ∀ f ∈ fields, f.2.isKeyed = true := by
  induction fields with
  | nil => simp [areKeyedFields]
  | cons f rest ih => simp [areKeyedFields, ih]

theorem isKeyed_of_isScalar {v : Value} (h : v.isScalar = true) : v.isKeyed = true := by
  cases v with
  | list items => cases h
  | object fields => cases h
  | _ => rfl

end Value

namespace Payload

@[simp] theorem isKeyed_ofValue (v : Value) : (ofValue v).isKeyed = v.isKeyed := by
  cases v with
  | float x =>
    rw [ofValue]
    split <;> rfl
  | _ => rfl

/-- The payload of a sprite is keyed if what it says is. -/
theorem isKeyed_ofSprite {s : Sprite} (h : s.speech.isKeyed = true) : (ofSprite s).isKeyed = true := by
  have htrail : Value.areKeyed (s.trail.toList.map ofPoint) = true := by
    rw [Value.areKeyed_iff]
    intro v hv
    obtain ⟨point, -, rfl⟩ := List.mem_map.1 hv
    simp [ofPoint, Value.isKeyed, Value.areKeyedFields]
  simp [ofSprite, Value.isKeyed, Value.areKeyedFields, h, htrail]

/-- The payload of a result is keyed if what its sprite says is. -/
theorem isKeyed_ofResult {r : RunResult} (h : ∀ s ∈ r.outcome.sprite?, s.speech.isKeyed = true) :
    (ofResult r).isKeyed = true := by
  obtain ⟨runId, sprite | error⟩ := r
  · simp [ofResult, Value.isKeyed, Value.areKeyedFields, isKeyed_ofSprite (h sprite rfl)]
  · simp [ofResult, Value.isKeyed, Value.areKeyedFields]

end Payload

/-! ## Values that are exchanged -/

namespace Json

/-- A value that is written in every style and read back. -/
structure Exchanges (v : Value) : Prop where
  writes : ∀ style, Writes style v
  keyed : v.isKeyed = true

/-- The text of such a value is read as the value. -/
theorem Exchanges.exists_read {v : Value} (h : Exchanges v) (style : Style) :
    ∃ s, print style v = .ok s ∧ read s = .ok (v.arranged style.sorted) := by
  obtain ⟨s, hs⟩ := h.writes style 0
  exact ⟨s, hs, read_print h.keyed hs⟩

theorem Exchanges.text (s : String) : Exchanges (.text s) := ⟨fun _ => .text s, rfl⟩

theorem Exchanges.list {items : List Value} (h : ∀ v ∈ items, Exchanges v) : Exchanges (.list items) where
  writes style := .list fun v hv => (h v hv).writes style
  keyed := (Value.areKeyed_iff items).2 fun v hv => (h v hv).keyed

theorem Exchanges.object {fields : List (String × Value)} (hkeys : (fields.map (·.1)).Nodup)
    (h : ∀ f ∈ fields, Exchanges f.2) : Exchanges (.object fields) where
  writes style := .object fun f hf => (h f hf).writes style
  keyed := by
    rw [Value.isKeyed, Bool.and_eq_true, decide_eq_true_eq, Value.areKeyedFields_iff]
    exact ⟨hkeys, fun f hf => (h f hf).keyed⟩

end Json

open Json (Exchanges)

namespace Payload

/-- A scalar is exchanged, if it is no integer without a text. -/
theorem exchanges_ofValue {v : Value} (h : v.isScalar = true)
    (hfit : ∀ n, v = .int n → (Decimal.digitsOf n.natAbs).length ≤ digitLimit) :
    Exchanges (ofValue v) where
  writes style := by
    cases v with
    | bool b => exact .bool b
    | int n =>
      obtain ⟨s, hs⟩ := exists_integerText_iff.2 (hfit n rfl)
      exact .int hs
    | float x => exact writes_ofFloat x
    | text s => exact .text s
    | null => cases h
    | list items => cases h
    | object fields => cases h
  keyed := by rw [isKeyed_ofValue, Value.isKeyed_of_isScalar h]

mutual

theorem exchanges_ofInstruction :
    ∀ (i : Instruction), i.isCompiled = true → Program.IntegersFit [i] → RoundsFit i.loopCounts →
      ∀ {payload}, ofInstruction i = .ok payload → Exchanges payload
  | .call op v, h, hfit, _, _, hpayload => by
    cases hpayload
    have hv := exchanges_ofValue h fun n hn =>
      hfit op n (by simp [Program.calls, Instruction.calls, hn])
    exact .object (by cases op <;> simp [Operation.argumentName]) (by simp [hv, Exchanges.text])
  | .loop (.int n) body, h, hfit, hcounts, _, hpayload => by
    rw [Instruction.isCompiled, Bool.and_eq_true, decide_eq_true_eq] at h
    obtain ⟨k, rfl⟩ := Int.eq_ofNat_of_zero_le h.1
    obtain ⟨items, hitems, hpayload⟩ := exists_of_bind_eq_ok hpayload
    cases hpayload
    have hk := hcounts (.int k) List.mem_cons_self k (repeatCount_natCast k)
    have htimes : Exchanges (ofValue (.int k)) := exchanges_ofValue rfl fun m hm => by
      cases hm
      exact length_digitsOf_of_lt hk
    have hbody := exchanges_ofInstructions body h.2
      (fun op m hmem => hfit op m (by simpa [Program.calls, Instruction.calls] using hmem))
      (fun times hmem => hcounts times (List.mem_cons_of_mem _ hmem)) hitems
    exact .object (by simp) (by simp [htimes, Exchanges.text, Exchanges.list hbody])
  | .fail message, _, _, _, _, hpayload => by
    cases hpayload
    exact .object (by simp) (by simp [Exchanges.text])

/-- The payloads of compiled instructions are exchanged, if their integers have texts. -/
theorem exchanges_ofInstructions :
    ∀ (p : List Instruction), Program.isCompiled p = true → Program.IntegersFit p →
      RoundsFit (Program.loopCounts p) → ∀ {items}, ofInstructions p = .ok items →
        ∀ v ∈ items, Exchanges v
  | [], _, _, _, _, hitems => by
    cases hitems
    simp
  | i :: rest, h, hfit, hcounts, _, hitems => by
    rw [Program.isCompiled, Bool.and_eq_true] at h
    obtain ⟨head, hhead, hitems⟩ := exists_of_bind_eq_ok hitems
    obtain ⟨tail, htail, hitems⟩ := exists_of_bind_eq_ok hitems
    cases hitems
    have hi := exchanges_ofInstruction i h.1
      (fun op n hmem => hfit op n (by simp_all [Program.calls]))
      (fun times hmem => hcounts times (List.mem_append_left _ hmem)) hhead
    have hrest := exchanges_ofInstructions rest h.2
      (fun op n hmem => hfit op n (List.mem_append_right _ hmem))
      (fun times hmem => hcounts times (List.mem_append_right _ hmem)) htail
    exact List.forall_mem_cons.2 ⟨hi, hrest⟩

end

/-- **The payload of a compiled program is exchanged**, if the integers of the program have texts. -/
theorem exists_exchanges_ofProgram {handle text : String} {p : Program}
    (hcompiled : (compile handle text).1 = .ok p) (hfit : Program.IntegersFit p) :
    ∃ payload, ofProgram p = .ok payload ∧ Exchanges payload := by
  have hp := isCompiled_of_compile hcompiled
  obtain ⟨items, hitems, -⟩ := exists_ofInstructions p (Program.isWritable_of_isCompiled p hp)
  have hexchanges := exchanges_ofInstructions p hp hfit (roundsFit_of_compile hcompiled) hitems
  exact ⟨.list items, by rw [ofProgram, hitems]; rfl, .list hexchanges⟩

end Payload

end SpriteStage
