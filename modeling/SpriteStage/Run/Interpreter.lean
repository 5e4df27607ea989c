import SpriteStage.Run.Resumption
import SpriteStage.Stage.Operation

/-!
# Executing instructions

The instructions of a program are executed one after the other on one stage.  Before each of them it
is checked that the run has not been abandoned.  The first failure stops the program with all loops
around it.
-/

namespace SpriteStage

/-- Why a program stops before its end. -/
inductive Stop where
  /-- An operation failed, or the number of rounds of a loop could not be found. -/
  | operation (error : OperationError)
  /-- The program failed on purpose. -/
  | fault (message : String)
  /-- An item of the program is no instruction. -/
  | unsupported (typeName : String)
  /-- The run was abandoned. -/
  | abandoned
  /-- A sleep failed. -/
  | sleep (message : String) (name : FailureName)
  deriving DecidableEq, Repr

/-- A stage in the course of a run. -/
structure Scene where
  stage : Stage := {}
  /-- Whether the run has been abandoned. -/
  abandoned : Bool := false

/-- Part of a run: it ends with a scene or stops. -/
abbrev Course := Resumption (Except Stop Scene)

namespace Course

/-- Goes on with the scene that a part ends with. -/
def andThen (x : Course) (next : Scene → Course) : Course :=
  x.bind fun
    | .ok s => next s
    | .error e => .done (.error e)

/-- The scene after a sleep. -/
def wake (s : Scene) (w : Wake) : Course :=
  match w.reason with
  | .elapsed => .done (.ok { s with abandoned := w.abandoned })
  | .failed message name => .done (.error (.sleep message name))

/-- Carries out an operation and sleeps for the delay that it asks for. -/
def operate (config : StageConfig) (op : Operation) (argument : Value) (s : Scene) : Course :=
  let (outcome, stage) := s.stage.perform config op argument
  let s := { s with stage := stage }
  match outcome with
  | .error e => .done (.error (.operation e))
  | .ok none => .done (.ok s)
  | .ok (some delay) => .sleeping delay (wake s)

/-- Goes `n` rounds. -/
def iterate (round : Scene → Course) : Nat → Scene → Course
  | 0, s => .done (.ok s)
  | n + 1, s =>
    -- A round that does not sleep is followed by the next one at once.
    match round s with
    | .done (.ok s) => iterate round n s
    | .done (.error e) => .done (.error e)
    | .sleeping delay resume => .sleeping delay fun w => andThen (resume w) (iterate round n)

@[simp] theorem iterate_zero (round : Scene → Course) (s : Scene) :
    iterate round 0 s = .done (.ok s) := rfl

/-- Going rounds is going one and then the others. -/
theorem iterate_succ (round : Scene → Course) (n : Nat) (s : Scene) :
    iterate round (n + 1) s = (round s).andThen (iterate round n) := by
  rw [iterate]
  cases round s with
  | done outcome => cases outcome <;> rfl
  | sleeping delay resume => rfl

mutual

/-- Executes an instruction. -/
def execute (config : StageConfig) : Instruction → Scene → Course
  | .call op argument, s =>
    if s.abandoned then .done (.error .abandoned) else operate config op argument s
  | .loop times body, s =>
    if s.abandoned then .done (.error .abandoned)
    -- The rounds are counted once, before the first of them.
    else match repeatCount times with
      | .ok n => iterate (executeAll config body) n s
      | .error e => .done (.error (.operation e))
  | .group body, s =>
    if s.abandoned then .done (.error .abandoned) else executeAll config body s
  | .fail message, s =>
    .done (.error (if s.abandoned then .abandoned else .fault message))
  | .unsupported typeName, s =>
    .done (.error (if s.abandoned then .abandoned else .unsupported typeName))

/-- Executes instructions one after the other. -/
def executeAll (config : StageConfig) : List Instruction → Scene → Course
  | [], s => .done (.ok s)
  | i :: rest, s =>
    match execute config i s with
    | .done (.ok s) => executeAll config rest s
    | .done (.error e) => .done (.error e)
    | .sleeping delay resume =>
      .sleeping delay fun w => andThen (resume w) (executeAll config rest)

end

@[simp] theorem executeAll_nil (config : StageConfig) (s : Scene) :
    executeAll config [] s = .done (.ok s) := by
  rw [executeAll]

/-- Executing instructions is executing the first one and then the others. -/
theorem executeAll_cons (config : StageConfig) (i : Instruction) (rest : List Instruction)
    (s : Scene) :
    executeAll config (i :: rest) s = (execute config i s).andThen (executeAll config rest) := by
  rw [executeAll]
  cases execute config i s with
  | done outcome => cases outcome <;> rfl
  | sleeping delay resume => rfl

end Course

end SpriteStage
