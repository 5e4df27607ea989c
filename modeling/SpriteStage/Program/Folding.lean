import SpriteStage.Program.Refusal
import SpriteStage.Text.DecimalDigit

/-!
# Constant expressions

The arguments of a program are constants, built by arithmetic from numbers, texts and truth values.
They are worked out when the program is compiled; what would become too large is refused before.
-/

namespace SpriteStage

/-- What comes of a part of a script. -/
abbrev Refusable := Except CompileError

/-- The greatest magnitude of an exponent. -/
def exponentLimit : Nat := 1024

/-- The most bits of an integer that a product or a power may have. -/
def bitLimit : Nat := 4096

/-- The most characters of a text. -/
def textLimit : Nat := 10000

/-- The number of bits of the magnitude of an integer. -/
def bitLength (n : Int) : Nat := if n = 0 then 0 else n.natAbs.log2 + 1

/-- Whether the magnitude of a number is past the limit of exponents. -/
def Number.isLargeExponent : Number → Bool
  | .int n => n.natAbs > exponentLimit
  | .float x => x.abs > 1024

/-- The number of rounds that an integer or a truth value asks for. -/
def repetitions? : Value → Option Nat
  | .int n => some n.toNat
  | .bool b => some (if b then 1 else 0)
  | _ => none

/-- Why a power is not worked out. -/
def oversizedPower? (base exponent : Value) : Option RefusalCause :=
  if exponent.number?.any Number.isLargeExponent then some .exponentSize
  else match base, exponent with
    -- Powers of doubles and of truth values cannot become large integers.
    | .int a, .int b =>
      if 0 < b ∧ bitLength a * b.toNat > bitLimit then some .integerSize else none
    | _, _ => none

/-- Why a product is not worked out. -/
def oversizedProduct? (l r : Value) : Option RefusalCause :=
  let repeated (s : String) (count : Value) : Option RefusalCause :=
    match repetitions? count with
    | some n => if s.length * n > textLimit then some .textSize else none
    | none => none
  match l, r with
  | .text s, count => repeated s count
  | count, .text s => repeated s count
  | .int a, .int b =>
    if bitLength a + bitLength b > bitLimit then some .integerSize else none
  | _, _ => none

/-- Why an operation is not worked out. -/
def oversized? (op : BinaryOp) (l r : Value) : Option RefusalCause :=
  match op, l with
  | .pow, _ => oversizedPower? l r
  | .mul, _ => oversizedProduct? l r
  | .mod, .text _ => some .formatting
  | _, _ => none

/-- Works out an operation of two constants. -/
def foldBinary (op : BinaryOp) (l r : Value) : Except RefusalCause Value :=
  match oversized? op l r with
  | some cause => .error cause
  | none =>
    match Value.apply op l r with
    | .error e => .error (.operation e)
    -- Products are bounded before; this bounds the sums of texts.
    | .ok (.text s) => if s.length > textLimit then .error .textSize else .ok (.text s)
    | .ok v => .ok v

/-- The words for the doubles that have no literal. -/
def floatWords : List String := ["nan", "inf", "-inf", "infinity", "-infinity"]

/-- The value of `float` of a text, which has to be one of the words. -/
def floatLiteral (function : Script.Expr) (arguments : List Script.Expr)
    (keywords : List Script.Keyword) (span : Script.Span) : Refusable Value :=
  match function, arguments, keywords with
  | .name "float" _, [.literal (.value (.text s)) _], [] =>
    if floatWords.contains (String.ofList ((Text.stripList s.toList).map Char.toLower)) then
      match Text.double? s with
      | some x => .ok (.float x)
      | none => .error (.operation (.floatText s))
    else .error (.refused .functionCall span)
  | _, _, _ => .error (.refused .functionCall span)

/-- Blames a part of a script for a cause. -/
def blame {α : Type} (span : Script.Span) (x : Except RefusalCause α) : Refusable α :=
  x.mapError (.refused · span)

/-- The value of a constant expression.  The variables of the loops around it are no constants. -/
def constant (scope : List String) : Script.Expr → Refusable Value
  | .literal (.value .null) span => .error (.refused (.constant "None") span)
  | .literal (.value v) _ => .ok v
  | .literal l span => .error (.refused (.constant l.shown) span)
  | .sign (.arithmetic op) operand span => do
    let v ← constant scope operand
    blame span ((v.applyUnary op).mapError .operation)
  | .sign op _ span => .error (.refused (.unaryOperator op.name) span)
  | .binary (.arithmetic op) left right span => do
    let l ← constant scope left
    let r ← constant scope right
    blame span (foldBinary op l r)
  | .binary op _ _ span => .error (.refused (.binaryOperator op.name) span)
  | .call function arguments keywords span => floatLiteral function arguments keywords span
  | .name id span =>
    .error (.refused (if scope.contains id then .loopVariable id else .unknownVariable id) span)
  | .attribute _ _ span => .error (.refused (.expression "Attribute") span)
  | .await _ span => .error (.refused (.expression "Await") span)
  | .other form _ span => .error (.refused (.expression form.name) span)

end SpriteStage
