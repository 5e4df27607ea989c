import SpriteStage.Proofs.Run.FlatTrace

/-!
# Normal forms of programs

A program text has no groups, and it says how often a loop goes round, not what that number was found
from.  The normal form of a program is what remains: its groups are spliced into the instructions
around them at every depth, and each loop carries its number of rounds.  A program and its normal
form take the same steps.

## Main definitions

* `Program.normalise` is the normal form of a program
* `Program.loopDepth` and `Program.loopCounts` are the depth of its loops and what they count up to
-/

namespace SpriteStage

/-- The number of rounds as a value, if there is one. -/
def Value.rounds (times : Value) : Value :=
  match repeatCount times with
  | .ok n => .int n
  | .error _ => times

mutual

/-- The normal form of an instruction: the instructions that take its place. -/
def Instruction.normalise : Instruction → List Instruction
  | .call op argument => [.call op argument]
  | .loop times body => [.loop times.rounds (Program.normalise body)]
  | .group body => Program.normalise body
  | .fail message => [.fail message]
  | .unsupported typeName => [.unsupported typeName]

/-- The normal form of a program. -/
def Program.normalise : List Instruction → List Instruction
  | [] => []
  | i :: rest => i.normalise ++ Program.normalise rest

end

mutual

/-- How deep the loops of an instruction are nested. -/
def Instruction.loopDepth : Instruction → Nat
  | .loop _ body => Program.loopDepth body + 1
  | .group body => Program.loopDepth body
  | .call .. | .fail _ | .unsupported _ => 0

/-- How deep the loops of a program are nested. -/
def Program.loopDepth : List Instruction → Nat
  | [] => 0
  | i :: rest => max i.loopDepth (Program.loopDepth rest)

end

mutual

/-- What the loops of an instruction count up to. -/
def Instruction.loopCounts : Instruction → List Value
  | .loop times body => times :: Program.loopCounts body
  | .group body => Program.loopCounts body
  | .call .. | .fail _ | .unsupported _ => []

/-- What the loops of a program count up to, wherever they stand. -/
def Program.loopCounts : List Instruction → List Value
  | [] => []
  | i :: rest => i.loopCounts ++ Program.loopCounts rest

end

/-! ## Rounds -/

/-- A natural is its own number of rounds. -/
theorem repeatCount_natCast (n : Nat) : repeatCount (.int n) = .ok n := by
  -- The count is compared with zero before it is taken.
  have hholds : Value.holds .greater (.int n) (.int 0) =
      .ok (some (compare (n : Int) 0) == some Ordering.gt) := by
    rw [Value.holds]
    · rfl
    all_goals simp
  rw [repeatCount, hholds]
  cases n with
  | zero => rfl
  | succ n => rfl

theorem repeatCount_rounds (times : Value) : repeatCount times.rounds = repeatCount times := by
  rw [Value.rounds]
  cases h : repeatCount times with
  | ok n => exact repeatCount_natCast n
  | error e => exact h

/-! ## Steps -/

theorem Program.steps_append (p q : List Instruction) :
    Program.steps (p ++ q) = Program.steps p ++ Program.steps q := by
  induction p with
  | nil => rfl
  | cons i p ih => rw [List.cons_append, Program.steps, Program.steps, ih, List.append_assoc]

theorem Program.steps_singleton (i : Instruction) : Program.steps [i] = i.steps := by
  rw [Program.steps, Program.steps, List.append_nil]

mutual

theorem Instruction.steps_normalise : ∀ i : Instruction, Program.steps i.normalise = i.steps
  | .call op argument => Program.steps_singleton _
  | .loop times body => by
    rw [Instruction.normalise, Program.steps_singleton, Instruction.steps, Instruction.steps,
      repeatCount_rounds, Program.steps_normalise body]
  | .group body => Program.steps_normalise body
  | .fail message => Program.steps_singleton _
  | .unsupported typeName => Program.steps_singleton _

/-- **The normal form of a program takes the same steps.** -/
theorem Program.steps_normalise :
    ∀ p : List Instruction, Program.steps (Program.normalise p) = Program.steps p
  | [] => rfl
  | i :: rest => by
    rw [Program.normalise, Program.steps_append, Instruction.steps_normalise i,
      Program.steps_normalise rest, Program.steps]

end

end SpriteStage
