import SpriteStage.Value.Basic
import SpriteStage.Text.Quoted

/-!
# Why an operation on values fails

Each cause is a constructor, `OperationError.message` words it, and `OperationError.category` sorts
the causes into four kinds of error.
-/

namespace SpriteStage

/-- The divisions by zero that are told apart. -/
inductive ZeroDivision where
  | quotient
  | floatQuotient
  | floorQuotient
  | remainder
  | floatFloorQuotient
  | floatRemainder
  | negativePower
  deriving DecidableEq, Repr

/-- The wording of a division by zero. -/
def ZeroDivision.message : ZeroDivision → String
  | .quotient => "division by zero"
  | .floatQuotient => "float division by zero"
  | .floorQuotient => "integer division or modulo by zero"
  | .remainder => "integer modulo by zero"
  | .floatFloorQuotient => "float floor division by zero"
  | .floatRemainder => "float modulo"
  | .negativePower => "0.0 cannot be raised to a negative power"

/-- Why an operation on values fails. -/
inductive OperationError where
  /-- No such operation on operands of these kinds. -/
  | unsupportedOperands (symbol : String) (left right : Kind)
  /-- No such operation on an operand of this kind. -/
  | unsupportedOperand (symbol : String) (operand : Kind)
  /-- A text or a list can be repeated only an integer number of times. -/
  | repetition (count : Kind)
  /-- Only a value of the same kind can be appended to a text or a list. -/
  | concatenation (left right : Kind)
  /-- Operands of these kinds have no order. -/
  | unordered (symbol : String) (left right : Kind)
  /-- A real number is needed. -/
  | notReal (kind : Kind)
  /-- Values of this kind cannot be looked up. -/
  | unhashable (kind : Kind)
  | zeroDivision (which : ZeroDivision)
  /-- A power of doubles is past the range. -/
  | powerRange
  /-- A power without a real result is past the range. -/
  | complexRange
  /-- An integer is past the range of doubles. -/
  | integerRange
  /-- A quotient of integers is past the range of doubles. -/
  | quotientRange
  /-- An integer is past the range of counts of repetition. -/
  | indexRange
  /-- The length of a range is past the range of lengths. -/
  | lengthRange
  /-- An infinite number has no integer. -/
  | infiniteCount
  /-- A power has no real result. -/
  | notRealResult
  /-- An integer has too many digits to be written. -/
  | digitLimit
  /-- Digits are too many to be read as an integer. -/
  | digitCount (digits : Nat)
  /-- A text writes no double. -/
  | floatText (text : String)
  /-- An infinite angle has neither sine nor cosine. -/
  | infiniteAngle
  deriving DecidableEq, Repr

/-- The most decimal digits that an integer is written or read with. -/
def digitLimit : Nat := 4300

namespace OperationError

/-- The wording of a cause. -/
def message : OperationError → String
  | .unsupportedOperands symbol l r =>
    s!"unsupported operand type(s) for {symbol}: '{l.name}' and '{r.name}'"
  | .unsupportedOperand symbol k => s!"bad operand type for {symbol}: '{k.name}'"
  | .repetition k => s!"can't multiply sequence by non-int of type '{k.name}'"
  | .concatenation l r => s!"can only concatenate {l.name} (not \"{r.name}\") to {l.name}"
  | .unordered symbol l r =>
    s!"'{symbol}' not supported between instances of '{l.name}' and '{r.name}'"
  | .notReal k => s!"must be real number, not {k.name}"
  | .unhashable k => s!"unhashable type: '{k.name}'"
  | .zeroDivision which => which.message
  | .powerRange => "(34, 'Numerical result out of range')"
  | .complexRange => "complex exponentiation"
  | .integerRange => "int too large to convert to float"
  | .quotientRange => "integer division result too large for a float"
  | .indexRange => "cannot fit 'int' into an index-sized integer"
  | .lengthRange => "Python int too large to convert to C ssize_t"
  | .infiniteCount => "cannot convert float infinity to integer"
  | .notRealResult => "result is not a real number."
  | .digitLimit =>
    s!"Exceeds the limit ({SpriteStage.digitLimit} digits) for integer string conversion" ++
      "; use sys.set_int_max_str_digits() to increase the limit"
  | .digitCount n =>
    s!"Exceeds the limit ({SpriteStage.digitLimit} digits) for integer string conversion" ++
      s!": value has {n} digits; use sys.set_int_max_str_digits() to increase the limit"
  | .floatText s => s!"could not convert string to float: {Text.quote s}"
  | .infiniteAngle => "math domain error"

/-- The four kinds of error that operations on values end in. -/
inductive Category where
  | type
  | zeroDivision
  | overflow
  | value
  deriving DecidableEq, Repr

/-- The kind of error that a cause belongs to. -/
def category : OperationError → Category
  | .zeroDivision _ => .zeroDivision
  | .powerRange | .complexRange | .integerRange | .quotientRange | .indexRange | .lengthRange
  | .infiniteCount => .overflow
  | .notRealResult | .digitLimit | .digitCount _ | .floatText _ | .infiniteAngle => .value
  | _ => .type

end OperationError

end SpriteStage
