import SpriteStage.Value.Error
import SpriteStage.Number.Division
import SpriteStage.Number.Power

/-!
# Arithmetic on values

Truth values count as one and zero.  An operation on two integers is exact, except for the quotient,
which is the nearest double; with a double on one side the other side is converted first.  Texts and
lists can be put together and repeated.
-/

namespace SpriteStage

/-- A number: an integer or a double. -/
inductive Number where
  | int (n : Int)
  | float (x : Float)
  deriving Repr

/-- The number that a value counts as. -/
def Value.number? : Value → Option Number
  | .bool b => some (.int (if b then 1 else 0))
  | .int n => some (.int n)
  | .float x => some (.float x)
  | _ => none

/-- A number as a value. -/
def Number.toValue : Number → Value
  | .int n => .int n
  | .float x => .float x

/-- The operations of two operands. -/
inductive BinaryOp where
  | add
  | sub
  | mul
  | div
  | floorDiv
  | mod
  | pow
  deriving DecidableEq, Repr

/-- The operations of one operand. -/
inductive UnaryOp where
  | plus
  | minus
  deriving DecidableEq, Repr

/-- How an operation is named where its operands do not fit. -/
def BinaryOp.symbol : BinaryOp → String
  | .add => "+"
  | .sub => "-"
  | .mul => "*"
  | .div => "/"
  | .floorDiv => "//"
  | .mod => "%"
  | .pow => "** or pow()"

/-- How an operation is named where its operand does not fit. -/
def UnaryOp.symbol : UnaryOp → String
  | .plus => "unary +"
  | .minus => "unary -"

namespace Number

/-- A number as a double; an integer must round to a finite one. -/
def toFloat : Number → Except OperationError Float
  | .float x => .ok x
  | .int n => match Double.ofInt? n with
    | some x => .ok x
    | none => .error .integerRange

/-- A power of doubles. -/
def floatPower (x y : Float) : Except OperationError Number :=
  match Double.power x y with
  | .real z => .ok (.float z)
  | .imaginary => .error .notRealResult
  | .imaginaryOverflow => .error .complexRange
  | .zeroDivision => .error (.zeroDivision .negativePower)
  | .overflow => .error .powerRange

/-- An operation on two integers. -/
def applyInt (op : BinaryOp) (a b : Int) : Except OperationError Number :=
  match op with
  | .add => .ok (.int (a + b))
  | .sub => .ok (.int (a - b))
  | .mul => .ok (.int (a * b))
  | .div =>
    if b = 0 then .error (.zeroDivision .quotient)
    else match Double.ofRatio? a b with
      | some x => .ok (.float x)
      | none => .error .quotientRange
  | .floorDiv =>
    if b = 0 then .error (.zeroDivision .floorQuotient) else .ok (.int (Int.fdiv a b))
  | .mod => if b = 0 then .error (.zeroDivision .remainder) else .ok (.int (Int.fmod a b))
  | .pow =>
    -- Only a negative exponent leaves the integers.
    if 0 ≤ b then .ok (.int (Int.pow a b.toNat))
    else do floatPower (← toFloat (.int a)) (← toFloat (.int b))

/-- An operation on two doubles. -/
def applyFloat (op : BinaryOp) (x y : Float) : Except OperationError Number :=
  match op with
  | .add => .ok (.float (x + y))
  | .sub => .ok (.float (x - y))
  | .mul => .ok (.float (x * y))
  | .div => if y == 0 then .error (.zeroDivision .floatQuotient) else .ok (.float (x / y))
  | .floorDiv =>
    if y == 0 then .error (.zeroDivision .floatFloorQuotient)
    else .ok (.float (Double.flooredDiv x y))
  | .mod =>
    if y == 0 then .error (.zeroDivision .floatRemainder) else .ok (.float (Double.flooredMod x y))
  | .pow => floatPower x y

/-- An operation on two numbers. -/
def apply (op : BinaryOp) (a b : Number) : Except OperationError Number :=
  match a, b with
  | .int a, .int b => applyInt op a b
  | a, b => do applyFloat op (← a.toFloat) (← b.toFloat)

/-- A number with the other sign. -/
def negate : Number → Number
  | .int n => .int (-n)
  | .float x => .float (-x)

/-- The magnitude of a number. -/
def abs : Number → Number
  | .int n => .int n.natAbs
  | .float x => .float x.abs

/-- How two numbers compare, exactly; nothing if one is not-a-number. -/
def compare? : Number → Number → Option Ordering
  | .int a, .int b => some (compare a b)
  -- The integer is not rounded first, so that it may lie between two doubles.
  | .float x, .int b => (Exact.ofFloat x).compareInt b
  | .int a, .float y => ((Exact.ofFloat y).compareInt a).map Ordering.swap
  | .float x, .float y =>
    if x < y then some .lt else if y < x then some .gt else if x == y then some .eq else none

end Number

namespace Value

/-- The count of a repetition: an integer or a truth value within sixty-three bits. -/
def repetitionCount (v : Value) : Except OperationError Nat :=
  match v with
  | .int n =>
    -- A negative count repeats nothing.
    if Int64.minValue.toInt ≤ n ∧ n ≤ Int64.maxValue.toInt then .ok n.toNat
    else .error .indexRange
  | .bool b => .ok (if b then 1 else 0)
  | v => .error (.repetition v.kind)

/-- Items put together `n` times.  No items stay none without any work. -/
def repeated {α : Type} (n : Nat) (xs : List α) : List α :=
  if xs.isEmpty then [] else (List.replicate n xs).flatten

/-- Putting items together `n` times is putting `n` copies of them together. -/
theorem repeated_eq_flatten {α : Type} (n : Nat) (xs : List α) :
    repeated n xs = (List.replicate n xs).flatten := by
  unfold repeated
  cases xs with
  | nil => simp
  | cons x xs => rfl

/-- An operation on two operands that are not both numbers. -/
def applyOther (op : BinaryOp) (l r : Value) : Except OperationError Value :=
  match op, l, r with
  | .mul, .text s, v => (repetitionCount v).map (fun n => .text (.ofList (repeated n s.toList)))
  | .mul, .list xs, v => (repetitionCount v).map (fun n => .list (repeated n xs))
  | .mul, v, .text s => (repetitionCount v).map (fun n => .text (.ofList (repeated n s.toList)))
  | .mul, v, .list xs => (repetitionCount v).map (fun n => .list (repeated n xs))
  | .add, .text s, .text t => .ok (.text (s ++ t))
  | .add, .list xs, .list ys => .ok (.list (xs ++ ys))
  | .add, .text _, v => .error (.concatenation .text v.kind)
  | .add, .list _, v => .error (.concatenation .list v.kind)
  | op, l, r => .error (.unsupportedOperands op.symbol l.kind r.kind)

/-- An operation on two values. -/
def apply (op : BinaryOp) (l r : Value) : Except OperationError Value :=
  match l.number?, r.number? with
  | some a, some b => (Number.apply op a b).map Number.toValue
  | _, _ => applyOther op l r

/-- A value as a double; it must count as a number within the range. -/
def real (v : Value) : Except OperationError Float :=
  match v.number? with
  | some a => a.toFloat
  | none => .error (.notReal v.kind)

/-- An operation on one value. -/
def applyUnary (op : UnaryOp) (v : Value) : Except OperationError Value :=
  match v.number?, op with
  | some a, .plus => .ok a.toValue
  | some a, .minus => .ok a.negate.toValue
  | none, op => .error (.unsupportedOperand op.symbol v.kind)

/-- The magnitude of a value. -/
def magnitude (v : Value) : Except OperationError Value :=
  match v.number? with
  | some a => .ok a.abs.toValue
  | none => .error (.unsupportedOperand "abs()" v.kind)

mutual

/-- Whether two values are equal: numbers by their value, lists and objects by their contents. -/
def equals : Value → Value → Bool
  | .null, .null => true
  | .text s, .text t => s == t
  | .list xs, .list ys => equalItems xs ys
  -- Fields are looked up by their keys; their order does not count.
  | .object fs, .object gs => fs.length == gs.length && equalFields fs gs
  | v, w => match v.number?, w.number? with
    | some a, some b => Number.compare? a b == some .eq
    | _, _ => false

/-- Whether two lists hold equal values in the same order. -/
def equalItems : List Value → List Value → Bool
  | [], [] => true
  | v :: vs, w :: ws => equals v w && equalItems vs ws
  | _, _ => false

/-- Whether every field has an equal one of the same key in the other object. -/
def equalFields : List (String × Value) → List (String × Value) → Bool
  | [], _ => true
  | (key, v) :: rest, gs =>
    (match field? key gs with
      | some w => equals v w
      | none => false) && equalFields rest gs

end

/-- Which of two orderings is asked for. -/
inductive Comparison where
  | less
  | greater
  deriving DecidableEq, Repr

/-- The sign of a comparison. -/
def Comparison.symbol : Comparison → String
  | .less => "<"
  | .greater => ">"

/-- The outcome that a comparison asks for. -/
def Comparison.ordering : Comparison → Ordering
  | .less => .lt
  | .greater => .gt

/-- Whether two values stand in a comparison: numbers by value, texts by code points, lists by their
    first different items or else by length.  Other values have no order. -/
def holds (c : Comparison) : Value → Value → Except OperationError Bool
  | .text s, .text t => .ok (compare s t == c.ordering)
  | .list xs, .list ys => go xs ys
  | v, w => match v.number?, w.number? with
    | some a, some b => .ok (Number.compare? a b == some c.ordering)
    | _, _ => .error (.unordered c.symbol v.kind w.kind)
where
  go : List Value → List Value → Except OperationError Bool
    | [], ys => .ok (c == .less && !ys.isEmpty)
    | _ :: _, [] => .ok (c == .greater)
    | x :: xs, y :: ys => if equals x y then go xs ys else holds c x y

/-- The greater of two values, the first one unless the second is greater. -/
def maximum (v w : Value) : Except OperationError Value := do
  return if ← holds .greater w v then w else v

/-- The less of two values, the first one unless the second is less. -/
def minimum (v w : Value) : Except OperationError Value := do
  return if ← holds .less w v then w else v

/-- A value brought between two bounds.  Not-a-number stays what it is. -/
def clamp (v low high : Value) : Except OperationError Value := do
  minimum (← maximum v low) high

/-- A value as a number that saturates: integers become doubles, past the range infinite ones.
    Other values stay what they are. -/
def widen : Value → Value
  | .int n => .float (Double.saturating n)
  | v => v

end Value

/-- The number of rounds of a loop that counts up from zero while it is less than `times`. -/
def repeatCount (times : Value) : Except OperationError Nat := do
  if ← Value.holds .greater times (.int 0) then
    match times.number? with
    | some (.int n) => return n.toNat
    | some (.float x) =>
      match (Exact.ofFloat x).ceil? with
      | some n => return n.toNat
      | none => throw .infiniteCount
    -- Only numbers compare with zero, so this is not reached.
    | none => throw (.notReal times.kind)
  else
    return 0

end SpriteStage
