import SpriteStage.Program.Instruction
import SpriteStage.Value.Arithmetic
import SpriteStage.Value.Display

/-!
# Program texts of programs

The listing of a program is a program text that does the same: an awaited call for each operation, a
`for` over a range for each loop, the instructions of a group in its place, and a `raise` for each
failure.
-/

namespace SpriteStage

/-- Why a program has no listing. -/
inductive ListingError where
  /-- An item of the program is no instruction. -/
  | unsupported (typeName : String)
  /-- An argument is no constant of program texts; `shown` is its text. -/
  | unsupportedConstant (shown : String)
  /-- The number of rounds of a loop, or a text, could not be found. -/
  | operation (error : OperationError)
  deriving DecidableEq, Repr

/-- The wording of a cause. -/
def ListingError.message : ListingError → String
  | .unsupported typeName => s!"Unsupported instruction: {typeName}"
  | .unsupportedConstant shown => s!"Unsupported constant value: {shown}"
  | .operation e => e.message

namespace Listing

/-- A constant that reads back as a value. -/
def constant (v : Value) : Except ListingError String :=
  match v with
  | .float x =>
    match Exact.ofFloat x with
    | .nan => .ok "float('nan')"
    | .infinite n => .ok (if n then "-float('inf')" else "float('inf')")
    | .finite .. => .ok (Double.text x)
  | .bool _ | .text _ | .int _ => v.quoted.mapError .operation
  | v => do throw (.unsupportedConstant (← v.quoted.mapError .operation))

/-- The white space before a line. -/
def margin (level : Nat) : String := String.ofList (List.replicate (4 * level) ' ')

/-- The variable of a loop inside `depth` other loops. -/
def loopVariable (depth : Nat) : String := if depth = 0 then "_" else s!"_{depth}"

mutual

/-- The lines of an instruction, `level` levels in and inside `level` loops. -/
def lines (handle : String) (level : Nat) : Instruction → Except ListingError (List String)
  | .call op v => do
    return [margin level ++ s!"await {handle}.{op.name}({← constant v})"]
  | .loop times body => do
    -- A range takes integers only, so the rounds are counted.
    let n ← (repeatCount times).mapError .operation
    let count ← (integerText n).mapError .operation
    let body ← bodyLines handle (level + 1) body
    let head := margin level ++ s!"for {loopVariable level} in range({count}):"
    return head :: (if body.isEmpty then [margin (level + 1) ++ "pass"] else body)
  | .group body => bodyLines handle level body
  | .fail message => .ok [margin level ++ s!"raise RuntimeError({Text.quote message})"]
  | .unsupported typeName => .error (.unsupported typeName)

/-- The lines of instructions. -/
def bodyLines (handle : String) (level : Nat) :
    List Instruction → Except ListingError (List String)
  | [] => .ok []
  | i :: rest => do
    let head ← lines handle level i
    return head ++ (← bodyLines handle level rest)

end

/-- The listing of a program whose operations are called on `handle`: a line end after each line. -/
def ofProgram (handle : String) (program : Program) : Except ListingError String := do
  return String.join ((← bodyLines handle 0 program).map (· ++ "\n"))

end Listing

end SpriteStage
