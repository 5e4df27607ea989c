import SpriteStage.Value.Error

/-!
# Instructions

A program is a list of instructions: an operation of the stage with its argument, a loop, a group, a
failure on purpose, or an item that is no instruction.
-/

namespace SpriteStage

/-- The operations of the stage. -/
inductive Operation where
  | move
  | turn
  | say
  | wait
  deriving DecidableEq, Repr

namespace Operation

/-- The operations in the order in which messages list them. -/
def all : List Operation := [.move, .turn, .say, .wait]

/-- The name of an operation in programs and payloads. -/
def name : Operation → String
  | .move => "move"
  | .turn => "turn"
  | .say => "say"
  | .wait => "wait"

/-- The name of an operation's argument in payloads. -/
def argumentName : Operation → String
  | .move => "steps"
  | .turn => "degrees"
  | .say => "message"
  | .wait => "seconds"

/-- Whether the argument of an operation is a number by intent. -/
def isNumeric : Operation → Bool
  | .say => false
  | _ => true

/-- The operation of a name. -/
def ofName? (name : String) : Option Operation := all.find? (·.name = name)

/-- Every operation is found under its name. -/
theorem ofName?_name (op : Operation) : ofName? op.name = some op := by
  cases op <;> decide

end Operation

/-- An instruction of a program. -/
inductive Instruction where
  /-- An operation of the stage. -/
  | call (op : Operation) (argument : Value)
  /-- The body is executed as often as a loop that counts from zero up to `times` goes round. -/
  | loop (times : Value) (body : List Instruction)
  /-- The instructions of the body, one after the other. -/
  | group (body : List Instruction)
  /-- The program fails on purpose. -/
  | fail (message : String)
  /-- Something of a type that is no instruction. -/
  | unsupported (typeName : String)
  deriving Inhabited, Repr

/-- A value of a payload has the type that its kind names. -/
instance : Coe Kind String := ⟨Kind.name⟩

/-- A program as a list of instructions. -/
abbrev Program := List Instruction

end SpriteStage
