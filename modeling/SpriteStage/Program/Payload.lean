import SpriteStage.Program.Instruction
import SpriteStage.Value.Display

/-!
# Programs as payloads

A payload writes a program as a list of objects, each tagged by its `op`.  Payloads are strict JSON:
doubles that JSON cannot write stand as texts, and numeric arguments read those texts back.
-/

namespace SpriteStage

/-- Why a payload is no program, or an instruction cannot be written. -/
inductive PayloadError where
  | notList
  | notObject
  | missingField (op field : String)
  /-- No instruction has this tag; `shown` is its text. -/
  | unknownTag (shown : String)
  /-- An item of the program is no instruction. -/
  | unsupported (typeName : String)
  /-- A tag that cannot be looked up, or a message that cannot be written. -/
  | operation (error : OperationError)
  deriving DecidableEq, Repr

/-- The wording of a cause. -/
def PayloadError.message : PayloadError → String
  | .notList => "Instruction payload must be a list."
  | .notObject => "Each instruction must be a JSON object."
  | .missingField op field => s!"Instruction '{op}' requires '{field}'."
  | .unknownTag shown => s!"Unknown instruction op: {shown}"
  | .unsupported typeName => s!"Unsupported instruction: {typeName}"
  | .operation e => e.message

namespace Payload

/-- A value as strict JSON: a double without a JSON form is spelled out. -/
def ofValue : Value → Value
  | .float x => if x.isFinite then .float x else .text (Double.logged x)
  | v => v

/-- The double that a text spells out, or the value itself. -/
def toNumeric : Value → Value
  | .text s =>
    if s = "NaN" then .float Double.nan
    else if s = "Infinity" then .float (Double.infinity false)
    else if s = "-Infinity" then .float (Double.infinity true)
    else .text s
  | v => v

mutual

/-- The payload of an instruction. -/
def ofInstruction : Instruction → Except PayloadError Value
  | .call op v => .ok (.object [("op", .text op.name), (op.argumentName, ofValue v)])
  | .loop times body => do
    return .object [("op", .text "repeat"), ("times", ofValue times),
      ("body", .list (← ofInstructions body))]
  | .group body => do
    return .object [("op", .text "sequence"), ("body", .list (← ofInstructions body))]
  | .fail message => .ok (.object [("op", .text "fail"), ("message", .text message)])
  | .unsupported typeName => .error (.unsupported typeName)

/-- The payloads of instructions. -/
def ofInstructions : List Instruction → Except PayloadError (List Value)
  | [] => .ok []
  | i :: rest => do
    let head ← ofInstruction i
    return head :: (← ofInstructions rest)

end

/-- The payload of a program. -/
def ofProgram (program : Program) : Except PayloadError Value :=
  (ofInstructions program).map .list

/-- What the tag of a payload calls for. -/
inductive Tag where
  | call (op : Operation)
  | loop
  | group
  | fail

/-- Reads a tag. -/
def tag? (v : Value) : Except PayloadError Tag :=
  match v with
  -- Lists and objects cannot be looked up among the tags.
  | .list _ => .error (.operation (.unhashable .list))
  | .object _ => .error (.operation (.unhashable .object))
  | .text "repeat" => .ok .loop
  | .text "sequence" => .ok .group
  | .text "fail" => .ok .fail
  | v =>
    match (match v with | .text s => Operation.ofName? s | _ => none) with
    | some op => .ok (.call op)
    | none =>
      match v.quoted with
      | .ok shown => .error (.unknownTag shown)
      | .error e => .error (.operation e)

/-- The message of a failure: the plain text of its value. -/
def failMessage (fields : List (String × Value)) : Except PayloadError String :=
  (((Value.field? "message" fields).getD (.text "")).plain).mapError .operation

/-- The argument of an operation. -/
def argument (op : Operation) (fields : List (String × Value)) : Except PayloadError Value :=
  match Value.field? op.argumentName fields with
  | none => .error (.missingField op.name op.argumentName)
  | some v => .ok (if op.isNumeric then toNumeric v else v)

mutual

/-- The instruction that a payload writes. -/
def toInstruction : Value → Except PayloadError Instruction
  | .object fields => do
    match ← tag? ((Value.field? "op" fields).getD .null) with
    | .call op => return .call op (← argument op fields)
    | .loop =>
      -- The number of rounds is missed before the body is read.
      match Value.field? "times" fields with
      | none => throw (.missingField "repeat" "times")
      | some times => return .loop (toNumeric times) (← toBody fields)
    | .group => return .group (← toBody fields)
    | .fail => return .fail (← failMessage fields)
  | _ => .error .notObject

/-- The body of an instruction: the program of its field `body`, none if it has no such field. -/
def toBody : List (String × Value) → Except PayloadError (List Instruction)
  | [] => .ok []
  | (key, v) :: rest =>
    if key = "body" then
      match v with
      | .list items => toInstructions items
      | _ => .error .notList
    else toBody rest

/-- The instructions that payloads write. -/
def toInstructions : List Value → Except PayloadError (List Instruction)
  | [] => .ok []
  | v :: rest => do
    let head ← toInstruction v
    return head :: (← toInstructions rest)

end

/-- The program that a payload writes. -/
def toProgram : Value → Except PayloadError Program
  | .list items => toInstructions items
  | _ => .error .notList

end Payload

end SpriteStage
