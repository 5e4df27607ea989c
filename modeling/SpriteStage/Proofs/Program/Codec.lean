import SpriteStage.Program.Payload
import SpriteStage.Proofs.Number.Notation

/-!
# Payloads of programs read back

A payload spells out the doubles that JSON cannot write, and only a numeric argument is read back as
the double that its text spells out.  So the payload of a program does not read back as the program
itself, but as `Program.decoded`: what a sprite says stays spelled out, and a numeric argument that was
such a text before becomes a double.

## Main definitions

* `Value.isSpelled` holds of the texts that spell doubles out
* `Program.decoded` is what the payload of a program reads back as
* `Program.isWritable` says that a program has a payload
-/

namespace SpriteStage

/-- Whether a value is a text that spells out a double without a JSON form. -/
def Value.isSpelled : Value → Bool
  | .text s => s = "NaN" ∨ s = "Infinity" ∨ s = "-Infinity"
  | _ => false

/-! ## Values -/

/-- A double that is not finite is not-a-number or infinite. -/
theorem Double.eq_of_not_isFinite {x : Float} (h : x.isFinite = false) :
    x = nan ∨ ∃ isNegative, x = infinity isNegative := by
  have hunpack : x.toModel.unpack.isFinite = false := h
  cases hx : x.toModel.unpack with
  | notANumber =>
    left
    apply eq_nan_of_ofFloat
    rw [Exact.ofFloat, hx]
  | infinity s =>
    right
    refine ⟨Exact.ofSign s, ?_⟩
    apply eq_infinity_of_ofFloat
    rw [Exact.ofFloat, hx]
  | zero s =>
    rw [hx] at hunpack
    cases hunpack
  | finite s m e hm =>
    rw [hx] at hunpack
    cases hunpack

namespace Payload

/-- A text that is written for a double reads back as the double. -/
theorem toNumeric_logged {x : Float} (h : x.isFinite = false) :
    toNumeric (.text (Double.logged x)) = .float x := by
  rcases Double.eq_of_not_isFinite h with rfl | ⟨isNegative, rfl⟩
  · rfl
  · cases isNegative <;> rfl

/-- The payload of a value that is no spelled-out text reads back as the value. -/
theorem toNumeric_ofValue {v : Value} (h : v.isSpelled = false) : toNumeric (ofValue v) = v := by
  cases v with
  | float x =>
    rw [ofValue]
    split
    · rfl
    · rename_i hfinite
      exact toNumeric_logged (by simpa using hfinite)
  | text s =>
    simp only [Value.isSpelled, decide_eq_false_iff_not, not_or] at h
    simp [ofValue, toNumeric, h]
  | _ => rfl

/-- What has been spelled out stays as it is. -/
@[simp] theorem ofValue_ofValue (v : Value) : ofValue (ofValue v) = ofValue v := by
  cases v with
  | float x =>
    rw [ofValue]
    split
    · rename_i hfinite
      simp [ofValue, hfinite]
    · rfl
  | _ => rfl

/-- A double is logged as it is spelled out. -/
@[simp] theorem logged_ofValue (v : Value) : (ofValue v).logged = v.logged := by
  cases v with
  | float x =>
    rw [ofValue]
    split <;> rfl
  | _ => rfl

end Payload

/-! ## Programs -/

/-- What an argument of an operation reads back as. -/
def Operation.decoded (op : Operation) (v : Value) : Value :=
  if op.isNumeric then Payload.toNumeric (Payload.ofValue v) else Payload.ofValue v

mutual

/-- What the payload of an instruction reads back as. -/
def Instruction.decoded : Instruction → Instruction
  | .call op argument => .call op (op.decoded argument)
  | .loop times body => .loop (Payload.toNumeric (Payload.ofValue times)) (Program.decoded body)
  | .group body => .group (Program.decoded body)
  | .fail message => .fail message
  | .unsupported typeName => .unsupported typeName

/-- What the payload of a program reads back as. -/
def Program.decoded : List Instruction → List Instruction
  | [] => []
  | i :: rest => i.decoded :: Program.decoded rest

end

mutual

/-- Whether all items of an instruction are instructions. -/
def Instruction.isWritable : Instruction → Bool
  | .loop _ body | .group body => Program.isWritable body
  | .call .. | .fail _ => true
  | .unsupported _ => false

/-- Whether all items of a program are instructions, at every depth. -/
def Program.isWritable : List Instruction → Bool
  | [] => true
  | i :: rest => i.isWritable && Program.isWritable rest

end

namespace Payload

/-- The payload of a call reads back as the call with its argument read back. -/
theorem toInstruction_call (op : Operation) (v : Value) :
    toInstruction (.object [("op", .text op.name), (op.argumentName, v)]) =
      .ok (.call op (if op.isNumeric then toNumeric v else v)) := by
  cases op <;> rfl

/-- The payload of a loop reads back as a loop whose body is read back. -/
theorem toInstruction_loop (times : Value) (items : List Value) :
    toInstruction (.object [("op", .text "repeat"), ("times", times), ("body", .list items)]) =
      (toInstructions items).map (.loop (toNumeric times)) := by
  have hbody : toBody [("op", .text "repeat"), ("times", times), ("body", .list items)] =
      toInstructions items := by
    simp [toBody]
  rw [toInstruction]
  simp only [hbody]
  rfl

/-- The payload of a group reads back as a group whose body is read back. -/
theorem toInstruction_group (items : List Value) :
    toInstruction (.object [("op", .text "sequence"), ("body", .list items)]) =
      (toInstructions items).map .group := by
  have hbody : toBody [("op", .text "sequence"), ("body", .list items)] = toInstructions items := by
    simp [toBody]
  rw [toInstruction]
  simp only [hbody]
  rfl

mutual

/-- The payload of an instruction reads back. -/
theorem exists_ofInstruction :
    ∀ i : Instruction, i.isWritable = true →
      ∃ payload, ofInstruction i = .ok payload ∧ toInstruction payload = .ok i.decoded
  | .call op argument, _ => ⟨_, rfl, toInstruction_call op _⟩
  | .loop times body, h => by
    obtain ⟨items, hitems, hbody⟩ := exists_ofInstructions body h
    refine ⟨_, by rw [ofInstruction, hitems]; rfl, ?_⟩
    rw [toInstruction_loop, hbody]
    rfl
  | .group body, h => by
    obtain ⟨items, hitems, hbody⟩ := exists_ofInstructions body h
    refine ⟨_, by rw [ofInstruction, hitems]; rfl, ?_⟩
    rw [toInstruction_group, hbody]
    rfl
  | .fail message, _ => ⟨_, rfl, rfl⟩

/-- The payloads of instructions read back. -/
theorem exists_ofInstructions :
    ∀ p : List Instruction, Program.isWritable p = true →
      ∃ items, ofInstructions p = .ok items ∧ toInstructions items = .ok (Program.decoded p)
  | [], _ => ⟨[], rfl, rfl⟩
  | i :: rest, h => by
    rw [Program.isWritable, Bool.and_eq_true] at h
    obtain ⟨head, hhead, hi⟩ := exists_ofInstruction i h.1
    obtain ⟨items, hitems, hrest⟩ := exists_ofInstructions rest h.2
    refine ⟨head :: items, ?_, ?_⟩
    · rw [ofInstructions, hhead, hitems]
      rfl
    · rw [toInstructions, hi, hrest]
      rfl

end

/-- **The payload of a program reads back** as the program with its arguments read back. -/
theorem exists_ofProgram {p : Program} (h : Program.isWritable p = true) :
    ∃ payload, ofProgram p = .ok payload ∧ toProgram payload = .ok (Program.decoded p) := by
  obtain ⟨items, hitems, hp⟩ := exists_ofInstructions p h
  refine ⟨.list items, ?_, hp⟩
  rw [ofProgram, hitems]
  rfl

end Payload

end SpriteStage
