import SpriteStage.Script.Grammar.Parameter

/-!
# Expressions

An expression is a disjunction, a conditional or a `lambda`.  `rules` ties the parsers of parts to the
parsers of the whole: every part of an expression has a token fewer at least.
-/

namespace SpriteStage.Script.Grammar

open SpriteStage.Script.Parser

/-! ## What is often meant -/

/-- The names that are keywords in some places. -/
def softKeywords : List String := ["_", "case", "match"]

/-- The names of statements that have become functions. -/
def formerStatements : List String := ["print", "exec"]

/-- Whether an expression is the name of a former statement. -/
def isFormerStatement : Expr → Bool
  | .name id _ => formerStatements.contains id
  | _ => false

/-- Whether the next tokens cannot be two expressions between which a comma is missing. -/
def startsOtherwise : Parser Bool := do
  let t ← peek
  if t.kind == .name then
    skip
    if softKeywords.any (t.isName ·) then return true
    else nextIs (·.kind == .text)
  else return false

/-- Objects to a second expression after a first one within brackets, to a conditional without
    `else`, and to former statements.  The first expression was read from `start` on. -/
def blameSequel (r : Rules) (start : Outlook) (first : Expr) : Parser Unit := do
  let otherwise ← fun s =>
    match startsOtherwise { start with seen := s.seen } with
    | .ok b t => Reply.ok b { s with seen := t.seen }
    | _ => Reply.ok false s
  -- Two expressions side by side within brackets.
  diagnose do
    require !otherwise
    let _ ← plainly r.expression
    require (!isFormerStatement first && (← depth) != 0)
    objectTo (α := Unit) first .forgottenComma
  diagnose do
    -- A conditional without its other branch.
    word "if"
    let _ ← r.disjunction
    require !(← nextIs (fun t => t.isKeyword "else" || t.isOperator ":"))
    objectTo (α := Unit) first .missingElse
  diagnoseFrom start do
    -- A former statement with what would be its arguments.
    let position ← here
    let id ← name
    notOp "("
    let _ ← r.starExpressions
    require (formerStatements.contains id)
    object (α := Unit) (.missingParentheses id) (.before position)

/-! ## Levels of expressions -/

/-- Reads operands with the operators that bind more than comparisons. -/
def bitwiseOr (r : Rules) : Parser Expr :=
  chains levels (factor r (power r (awaited r)))

/-- Reads a comparison with its negations. -/
def inverted (r : Rules) : Parser Expr := inversion r (bitwiseOr r)

/-- Reads alternatives of conditions. -/
def disjunction (r : Rules) : Parser Expr := connected "or" (connected "and" (inverted r))

/-- Reads a function without a name. -/
def lambda (r : Rules) : Parser Expr :=
  spanned do
    word "lambda"
    parameters r false ":"
    op ":"
    let _ ← r.expression
    return .other .lambda []

/-- Reads an expression. -/
def expression (r : Rules) : Parser Expr := do
  if ← nextWord "lambda" then lambda r
  else
    let start ← outlook
    let position ← here
    let first ← disjunction r
    if start.diagnosing then blameSequel r start first
    if ← nextWord "if" then
      -- Without its other branch the condition belongs to a comprehension.
      (do
        skip
        let condition ← r.disjunction
        word "else"
        let second ← r.expression
        return .other .ifExp [condition, first, second] (← spanFrom position)) <|> return first
    else return first

/-- Reads an expression, or an operand after a star. -/
def starExpression (r : Rules) : Parser Expr := do
  if ← nextOp "*" then
    spanned do
      skip
      let e ← r.bitwiseOr
      return .other .starred [e]
  else expression r

/-- Reads expressions with commas between them; more than one of them, or a comma, is a tuple. -/
def starExpressions (r : Rules) : Parser Expr := do
  let start ← here
  let first ← starExpression r
  let rest ← many (op "," *> starExpression r)
  let comma ← trailingComma
  if rest.isEmpty && !comma then return first
  else return .other .tuple (first :: rest) (← spanFrom start)

/-- Reads a `yield`. -/
def yieldExpr (r : Rules) : Parser Expr :=
  spanned do
    word "yield"
    if ← nextWord "from" then
      skip
      let e ← r.expression
      return .other .yieldFrom [e]
    else
      let e ← optional (starExpressions r)
      return .other .yield e.toList

/-- The rules for parts of `n` tokens at most. -/
def rules : Nat → Rules
  | 0 => .none
  | n + 1 =>
    let r := rules n
    { primary := primary r
      factor := factor r (power r (awaited r))
      bitwiseOr := bitwiseOr r
      inversion := inverted r
      disjunction := disjunction r
      expression := expression r
      named := named r (expression r)
      starNamed := starNamed r (named r (expression r))
      starExpressions := starExpressions r
      yieldExpr := yieldExpr r }

end SpriteStage.Script.Grammar
