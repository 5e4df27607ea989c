import SpriteStage.Script.Grammar.Operator

/-!
# Targets, starred expressions and comprehensions

What stands between `for` and `in`, and the clauses that follow the element of a comprehension.
-/

namespace SpriteStage.Script.Grammar

open SpriteStage.Script.Parser

/-- Reads an expression that something can be assigned to. -/
def target (r : Rules) : Parser Expr := do
  let e ← r.primary
  require (e.intruder? .assignment).isNone
  return e

/-- Reads a target that may take several items. -/
def starTarget (r : Rules) : Parser Expr := do
  if ← nextOp "*" then
    spanned do
      skip
      let e ← target r
      return .other .starred [e]
  else target r

/-- Reads targets with commas between them; more than one of them, or a comma, is a tuple. -/
def targets (r : Rules) : Parser Expr := do
  let start ← here
  let first ← starTarget r
  let rest ← many (op "," *> starTarget r)
  let comma ← trailingComma
  if rest.isEmpty && !comma then return first
  else return .other .tuple (first :: rest) (← spanFrom start)

/-- Objects to what stands after `for` if it is no target. -/
def blameTarget (r : Rules) : Parser Unit :=
  diagnose do
    let e ← r.starExpressions
    objectToTarget .iteration e

/-- Reads the targets after `for`, and `in`. -/
def targetsIn (r : Rules) : Parser Expr :=
  (targets r <* word "in") <|> (do blameTarget r; stuck)

/-- Whether a clause of a comprehension comes next. -/
def nextIsClause : Parser Bool :=
  nextIs (fun t => t.isKeyword "for" || t.isKeyword "async")

/-- Reads a clause of a comprehension. -/
def clause (r : Rules) : Parser Unit := do
  let _ ← optional (word "async")
  word "for"
  let _ ← targetsIn r
  let _ ← r.disjunction
  let _ ← many (word "if" *> r.disjunction)

/-- Reads the clauses of a comprehension. -/
def clauses (r : Rules) : Parser Unit := do
  let _ ← some' (clause r)

/-- Reads a star and an expression. -/
def starred (r : Rules) : Parser Expr :=
  spanned do
    op "*"
    let e ← r.expression
    return .other .starred [e]

/-- Whether an expression is a star with an expression. -/
def isStarred : Expr → Bool
  | .other .starred _ _ => true
  | _ => false

end SpriteStage.Script.Grammar
