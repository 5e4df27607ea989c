import SpriteStage.Script.Grammar.Basic

/-!
# Chains of operators

The operators between two operands bind in levels, those of one level from the left.  Signs, powers,
negations, comparisons and the two connectives have rules of their own.
-/

namespace SpriteStage.Script

/-- The parsers that parts within a part are read with. -/
structure Rules where
  primary : Parser Expr
  factor : Parser Expr
  bitwiseOr : Parser Expr
  inversion : Parser Expr
  disjunction : Parser Expr
  expression : Parser Expr
  named : Parser Expr
  starNamed : Parser Expr
  starExpressions : Parser Expr
  yieldExpr : Parser Expr

/-- The rules by which nothing can be read. -/
def Rules.none : Rules :=
  ⟨.stuck, .stuck, .stuck, .stuck, .stuck, .stuck, .stuck, .stuck, .stuck, .stuck⟩

namespace Grammar

open SpriteStage.Script.Parser

/-- The operators between two operands, the levels that bind least first. -/
def levels : List (List (String × Infix)) := [
  [("|", .bitOr)],
  [("^", .bitXor)],
  [("&", .bitAnd)],
  [("<<", .shiftLeft), (">>", .shiftRight)],
  [("+", .arithmetic .add), ("-", .arithmetic .sub)],
  [("*", .arithmetic .mul), ("/", .arithmetic .div), ("//", .arithmetic .floorDiv),
    ("%", .arithmetic .mod), ("@", .matrix)]]

/-- Reads one of some operators. -/
def infixOf (ops : List (String × Infix)) : Parser Infix := do
  let t ← peek
  match ops.find? (t.isOperator ·.1) with
  | some (_, op) =>
    skip
    return op
  | none => stuck

/-- Reads operands with operators of one level between them. -/
def chain (ops : List (String × Infix)) (operand : Parser Expr) : Parser Expr := do
  let start ← here
  let first ← operand
  grow (fun left => do
    let op ← infixOf ops
    let right ← operand
    return .binary op left right (← spanFrom start)) first

/-- Reads operands with operators of some levels between them. -/
def chains (levels : List (List (String × Infix))) (operand : Parser Expr) : Parser Expr :=
  levels.foldr chain operand

/-- The operators before an operand. -/
def signs : List (String × Sign) :=
  [("+", .arithmetic .plus), ("-", .arithmetic .minus), ("~", .invert)]

/-- Reads an operand with the signs before it. -/
def factor (r : Rules) (power : Parser Expr) : Parser Expr := do
  let t ← peek
  match signs.find? (t.isOperator ·.1) with
  | some (_, sign) =>
    spanned do
      skip
      let operand ← r.factor
      return .sign sign operand
  | none => power

/-- Reads an operand with its exponent. -/
def power (r : Rules) (operand : Parser Expr) : Parser Expr := do
  let start ← here
  let base ← operand
  (do
    op "**"
    let exponent ← r.factor
    return .binary (.arithmetic .pow) base exponent (← spanFrom start)) <|> return base

/-- Reads a comparison between two operands; the flag tells whether it is `in`. -/
def comparator : Parser Bool := do
  let t ← peek
  if t.isKeyword "in" then
    skip
    return true
  else if t.isKeyword "not" then
    skip
    word "in"
    return false
  else if t.isKeyword "is" then
    skip
    let _ ← optional (word "not")
    return false
  else if ["==", "!=", "<=", "<", ">=", ">"].any (t.isOperator ·) then
    skip
    return false
  else stuck

/-- Reads operands with comparisons between them. -/
def comparison (operand : Parser Expr) : Parser Expr := do
  let start ← here
  let first ← operand
  let found ← many (do
    let isIn ← comparator
    let _ ← operand
    return isIn)
  match found with
  | [] => return first
  | isIn :: _ => return .other (.compare isIn) [first] (← spanFrom start)

/-- Reads a comparison with the negations before it. -/
def inversion (r : Rules) (operand : Parser Expr) : Parser Expr := do
  if ← nextWord "not" then
    spanned do
      skip
      let e ← r.inversion
      return .sign .negation e
  else comparison operand

/-- Reads operands with a connective between them. -/
def connected (connective : String) (operand : Parser Expr) : Parser Expr := do
  let start ← here
  let first ← operand
  match ← many (word connective *> operand) with
  | [] => return first
  | rest => return .other .boolOp (first :: rest) (← spanFrom start)

end Grammar

end SpriteStage.Script
