import SpriteStage.Value.Arithmetic
import SpriteStage.Number.Decimal

/-!
# Texts of values

A value has three texts: the one that shows its type (`quoted`), the plain one (`plain`), which
differs only in leaving a text without quotes, and the one of log lines (`logged`), which writes
truth values in lower case, spells out infinities and drops the fraction of integral doubles.
An integer with more digits than the limit has no text.
-/

namespace SpriteStage

/-- The decimal text of an integer, if its digits are within the limit. -/
def integerText (n : Int) : Except OperationError String :=
  let digits := Decimal.digitsOf n.natAbs
  if digits.length > digitLimit then .error .digitLimit
  else .ok (String.ofList (if n < 0 then '-' :: digits else digits))

namespace Value

mutual

/-- The text of a value that shows its type. -/
def quoted : Value → Except OperationError String
  | .null => .ok "None"
  | .bool b => .ok (if b then "True" else "False")
  | .int n => integerText n
  | .float x => .ok (Double.text x)
  | .text s => .ok (Text.quote s)
  | .list items => do return "[" ++ ", ".intercalate (← quotedItems items) ++ "]"
  | .object fields => do return "\x7b" ++ ", ".intercalate (← quotedFields fields) ++ "\x7d"

/-- The texts of the items of a list. -/
def quotedItems : List Value → Except OperationError (List String)
  | [] => .ok []
  | v :: rest => do
    let head ← quoted v
    return head :: (← quotedItems rest)

/-- The texts of the fields of an object. -/
def quotedFields : List (String × Value) → Except OperationError (List String)
  | [] => .ok []
  | (key, v) :: rest => do
    let head ← quoted v
    return (Text.quote key ++ ": " ++ head) :: (← quotedFields rest)

end

/-- The plain text of a value: that of a text is the text itself. -/
def plain : Value → Except OperationError String
  | .text s => .ok s
  | v => v.quoted

end Value

/-- The text of a double in log lines. -/
def Double.logged (x : Float) : String :=
  match Exact.ofFloat x with
  | .nan => "NaN"
  | .infinite n => if n then "-Infinity" else "Infinity"
  | .finite .. =>
    match Double.toInt? x with
    | some n => String.ofList ((if n < 0 then ['-'] else []) ++ Decimal.digitsOf n.natAbs)
    | none => Double.text x

/-- The text of a value in log lines. -/
def Value.logged : Value → Except OperationError String
  | .bool b => .ok (if b then "true" else "false")
  | .float x => .ok (Double.logged x)
  | v => v.plain

/-- The text of a double in log lines with a fixed number of places.  The negative zero is written
    as zero; the infinities and not-a-number are spelled out. -/
def Double.loggedFixed (places : Nat) (x : Float) : String :=
  -- Adding zero makes the negative zero a positive one.
  (Double.fixed? places (x + 0)).getD (Double.logged x)

/-- The text of a number in log lines with a fixed number of places. -/
def Value.loggedFixed (places : Nat) (v : Value) : Except OperationError String :=
  v.real.map (Double.loggedFixed places)

end SpriteStage
