import SpriteStage.Script.Grammar.Expression

/-!
# Simple statements

The statements that take no block.  An expression is read first; what follows it tells whether it is
the target of an assignment, and whether it may be one.
-/

namespace SpriteStage.Script.Grammar

open SpriteStage.Script.Parser

/-- The operators that assign what they find. -/
def augmentedOperators : List String :=
  ["+=", "-=", "*=", "@=", "/=", "%=", "&=", "|=", "^=", "<<=", ">>=", "**=", "//="]

/-- Reads an operator that assigns what it finds. -/
def augmentedOperator : Parser Unit := do
  let _ ← token (fun t => augmentedOperators.any (t.isOperator ·))

/-- Whether an expression is a single target. -/
def isSingleTarget : Expr → Bool
  | .name .. | .attribute .. | .other .subscript .. => true
  | _ => false

/-- Reads the value of an assignment. -/
def assigned (r : Rules) : Parser Expr := do
  if ← nextWord "yield" then r.yieldExpr else r.starExpressions

/-- Reads the values after targets as long as each of them is a target itself. -/
def assignments (r : Rules) : Nat → Expr → Parser Unit
  | 0, _ => stuck
  | fuel + 1, target => do
    require (target.intruder? .assignment).isNone
    op "="
    let value ← assigned r
    if ← nextOp "=" then assignments r fuel value

/-- Goes over targets that `=` follows, as many as there are. -/
def skipTargets (r : Rules) : Parser Unit := do
  let _ ← many (do
    let e ← r.starExpressions
    require (e.intruder? .assignment).isNone
    op "=")

/-- Objects to an assignment that cannot be one; `e` was read from `start` on. -/
def blameAssignment (r : Rules) (start : Outlook) (e : Expr) : Parser Unit := do
  diagnoseFrom start do
    -- A list or a tuple in brackets, with an annotation.
    let t ← peek
    require (t.isOperator "[" || t.isOperator "(")
    let e ← r.primary
    require (match e with
      | .other .list .. | .other .tuple .. => true
      | _ => false)
    op ":"
    let _ ← r.expression
    objectTo (α := Unit) e (.annotatedTarget e.called)
  diagnoseFrom start do
    -- A tuple without brackets, with an annotation.
    let first ← r.starNamed
    op ","
    let _ ← optional (r.starNamed *> moreParts r)
    op ":"
    let _ ← r.expression
    objectTo (α := Unit) first (.annotatedTarget "tuple")
  diagnoseFrom start do
    -- Any other expression with an annotation.
    let e ← r.expression
    op ":"
    let _ ← r.expression
    objectTo (α := Unit) e .annotatedGroup
  diagnoseFrom start do
    -- A value is assigned to what is no target.
    skipTargets r
    let e ← r.starExpressions
    op "="
    objectToTarget .assignment e
  diagnoseFrom start do
    skipTargets r
    let e ← r.yieldExpr
    op "="
    objectTo (α := Unit) e .assignToYield
  diagnose do
    -- An operator that assigns comes after what is no single target.
    augmentedOperator
    let _ ← assigned r
    objectTo (α := Unit) e (.augmentedTarget e.called)

/-- Reads what makes an expression an assignment, after the expression. -/
def assignment (r : Rules) (e : Expr) : Parser StmtForm := do
  if ← nextOp "=" then
    let fuel ← fun s => Reply.ok s.rest.length s
    assignments r fuel e
    return .assign
  else
    require (isSingleTarget e)
    if ← nextOp ":" then
      skip
      let _ ← r.expression
      let _ ← optional (op "=" *> assigned r)
      return .annAssign
    else
      augmentedOperator
      let _ ← assigned r
      return .augAssign

/-- Whether an operator that assigns comes after a single target: what follows must be a value. -/
def isCommitted (e : Expr) : Parser Bool := do
  return isSingleTarget e && (← ahead augmentedOperator).isSome

/-- Reads an expression or an assignment. -/
def expressionOrAssignment (r : Rules) : Parser Stmt := do
  let start ← here
  let before ← outlook
  let e ← starExpressions r
  (do
    let form ← assignment r e
    return .other form (← spanFrom start)) <|> (do
    if !(← isCommitted e) then blameAssignment r before e
    return .expr e (← spanFrom start))

/-! ## Imports -/

/-- Reads names with dots between them. -/
def dottedName : Parser Unit := do
  let _ ← separated "." name

/-- Reads another name after `as`, if there is one. -/
def newName : Parser Unit := do
  let _ ← optional (word "as" *> name)

/-- Reads an `import`. -/
def importNames : Parser StmtForm := do
  word "import"
  let _ ← separated "," (dottedName *> newName)
  return .import

/-- Reads the names after `import`, with a comma at the end only within parentheses. -/
def importTargets : Parser Unit := do
  let names := separated "," (name *> newName)
  if ← nextOp "(" then
    skip
    let _ ← names
    let _ ← trailingComma
    op ")"
  else if ← nextOp "*" then skip
  else
    let _ ← names
    diagnose do
      op ","
      kind .newline
      object (α := Unit) .trailingComma .lastToken
    notOp ","

/-- Reads a `from`. -/
def importFrom : Parser StmtForm := do
  word "from"
  let dots ← many (token (fun t => t.isOperator "." || t.isOperator "..."))
  if dots.isEmpty then dottedName
  else
    let _ ← optional dottedName
  word "import"
  importTargets
  return .importFrom

/-! ## Other simple statements -/

/-- Reads a `del`. -/
def delete (r : Rules) : Parser StmtForm := do
  word "del"
  -- Targets up to the end of the statement, or what is no target among them.
  (do
    let _ ← separated "," (do
      let e ← r.primary
      require (e.intruder? .deletion).isNone)
    let _ ← trailingComma
    require (← nextIs (fun t => t.kind == .newline || t.isOperator ";"))
    return .delete) <|> (do
    diagnose do
      let e ← r.starExpressions
      objectToTarget .deletion e
    stuck)

/-- Reads a `return`. -/
def returned (r : Rules) : Parser StmtForm := do
  word "return"
  let _ ← optional r.starExpressions
  return .return

/-- Reads an `assert`. -/
def assertion (r : Rules) : Parser StmtForm := do
  word "assert"
  let _ ← r.expression
  let _ ← optional (op "," *> r.expression)
  return .assert

/-- Reads a `global` or a `nonlocal`. -/
def outerNames (keyword : String) (form : StmtForm) : Parser StmtForm := do
  word keyword
  let _ ← separated "," name
  return form

/-- Reads a `raise`. -/
def raised (r : Rules) : Parser Stmt :=
  spanned do
    word "raise"
    let found ← optional (do
      let e ← r.expression
      let cause ← optional (word "from" *> r.expression)
      return (e, cause))
    return .raise (found.map (·.1)) (found.bind (·.2))

/-- Reads a statement of a form. -/
def formed (p : Parser StmtForm) : Parser Stmt :=
  spanned do
    let form ← p
    return .other form

/-- Reads a keyword that is a statement. -/
def lone (form : StmtForm) : Parser StmtForm := do
  skip
  return form

/-- Reads a simple statement. -/
def simple (r : Rules) : Parser Stmt := do
  let t ← peek
  if t.isKeyword "return" then formed (returned r)
  else if t.isKeyword "import" then formed importNames
  else if t.isKeyword "from" then formed importFrom
  else if t.isKeyword "raise" then raised r
  else if t.isKeyword "pass" then spanned (do skip; return .pass)
  else if t.isKeyword "del" then formed (delete r)
  else if t.isKeyword "yield" then
    spanned (do let e ← yieldExpr r; return .expr e)
  else if t.isKeyword "assert" then formed (assertion r)
  else if t.isKeyword "break" then formed (lone .break)
  else if t.isKeyword "continue" then formed (lone .continue)
  else if t.isKeyword "global" then formed (outerNames "global" .global)
  else if t.isKeyword "nonlocal" then formed (outerNames "nonlocal" .nonlocal)
  else expressionOrAssignment r

/-- Reads the simple statements of a line. -/
def simples (r : Rules) : Parser (List Stmt) := do
  let found ← separated ";" (simple r)
  let _ ← optional (op ";")
  kind .newline
  return found

end SpriteStage.Script.Grammar
