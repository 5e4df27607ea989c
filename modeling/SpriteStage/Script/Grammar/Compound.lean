import SpriteStage.Script.Grammar.Pattern
import SpriteStage.Script.Grammar.Simple

/-!
# Statements with blocks

A block stands on the same line as simple statements, or below it, indented.
-/

namespace SpriteStage.Script.Grammar

open SpriteStage.Script.Parser

/-- Objects to the end of a line in the place of a colon. -/
def blameColon : Parser Unit :=
  diagnose do
    kind .newline
    object (α := Unit) (.expected ":") .lastToken

/-- Reads a colon. -/
def colon : Parser Unit := do
  blameColon
  op ":"

/-- Reads the block of a statement that is called `what` and starts in line `line`. -/
def body (block : Parser (List Stmt)) (what : String) (line : Nat) : Parser (List Stmt) := do
  diagnose do
    kind .newline
    require !(← nextIs (·.kind == .indent))
    object (α := Unit) (.missingBlock what line) .lastToken
  block

/-- The line of the next token. -/
def line : Parser Nat := do
  return (← peek).span.start.line

/-- Reads an `else` with its block, if it is there. -/
def otherwise (block : Parser (List Stmt)) : Parser (List Stmt) := do
  if ← nextWord "else" then
    let l ← line
    skip
    demand ":"
    body block "'else' statement" l
  else return []

/-! ## Branches and loops -/

/-- Reads the conditions and the blocks of an `if`, the first one after `keyword`. -/
def branches (r : Rules) (block : Parser (List Stmt)) : Nat → String → Parser Unit
  | 0, _ => stuck
  | fuel + 1, keyword => do
    let l ← line
    word keyword
    let _ ← r.named
    colon
    let _ ← body block s!"'{keyword}' statement" l
    if ← nextWord "elif" then branches r block fuel "elif"
    else
      let _ ← otherwise block

/-- Reads an `if`. -/
def conditional (r : Rules) (block : Parser (List Stmt)) : Parser StmtForm := do
  let fuel ← fun s => Reply.ok s.rest.length s
  branches r block fuel "if"
  return .if

/-- Reads a `while`. -/
def repetition (r : Rules) (block : Parser (List Stmt)) : Parser StmtForm := do
  let l ← line
  word "while"
  let _ ← r.named
  colon
  let _ ← body block "'while' statement" l
  let _ ← otherwise block
  return .while

/-- Reads a `for`. -/
def loop (r : Rules) (block : Parser (List Stmt)) : Parser (Span → Stmt) := do
  let l ← line
  word "for"
  let target ← targetsIn r
  let range ← r.starExpressions
  colon
  let inside ← body block "'for' statement" l
  let after ← otherwise block
  return .loop target range inside after

/-! ## `with` and `try` -/

/-- Reads an item of a `with`. -/
def withItem (r : Rules) : Parser Unit := do
  let closes := nextIs (fun t => [",", ")", ":"].any (t.isOperator ·))
  let _ ← r.expression
  let _ ← optional (do
    word "as"
    (do
      let _ ← starTarget r
      require (← closes)) <|> (do
      diagnose do
        let e ← r.expression
        require (← closes)
        objectToTarget .assignment e
      stuck))

/-- Reads a `with`; `form` tells whether it is asynchronous. -/
def managed (r : Rules) (block : Parser (List Stmt)) (form : StmtForm) : Parser StmtForm := do
  let l ← line
  word "with"
  -- The parentheses surround all items, or else belong to the first of them.
  (do
    op "("
    let _ ← separated "," (withItem r)
    let _ ← trailingComma
    op ")"
    op ":") <|> (do
    let _ ← separated "," (withItem r)
    colon)
  let _ ← body block "'with' statement" l
  return form

/-- Objects to a handler that cannot be one, after `except` and its star. -/
def blameHandler (r : Rules) (isStar : Bool) : Parser Unit := do
  diagnose do
    let e ← r.expression
    op ","
    let _ ← separated "," r.expression
    let _ ← trailingComma
    newName
    op ":"
    objectTo (α := Unit) e .unparenthesizedHandlers
  if isStar then
    diagnose do
      let _ ← token (fun t => t.kind == .newline || t.isOperator ":")
      object (α := Unit) .missingHandlerTypes .lastToken
  else blameColon

/-- Reads a handler with or without a star. -/
def handler (r : Rules) (block : Parser (List Stmt)) (isStar : Bool) : Parser Unit := do
  let l ← line
  word "except"
  if isStar then op "*" else notOp "*"
  (do
    if isStar || !(← nextOp ":") then
      let _ ← r.expression
      newName
    colon) <|> (do
    blameHandler r isStar
    stuck)
  let _ ← body block (if isStar then "'except*' statement" else "'except' statement") l

/-- Reads a `finally` with its block, if it is there. -/
def cleanup (block : Parser (List Stmt)) : Parser Unit := do
  if ← nextWord "finally" then
    let l ← line
    skip
    demand ":"
    let _ ← body block "'finally' statement" l

/-- Reads a `try`. -/
def attempt (r : Rules) (block : Parser (List Stmt)) : Parser StmtForm := do
  let l ← line
  word "try"
  demand ":"
  let _ ← body block "'try' statement" l
  if ← nextWord "finally" then
    cleanup block
    return .try
  else
    diagnose do
      require !(← nextWord "except")
      object (α := Unit) .missingHandler .lastToken
    -- The first handler decides whether all of them have a star.
    let isStar := (← ahead (word "except" *> op "*")).isSome
    let _ ← some' (handler r block isStar)
    diagnose do
      handler r block !isStar
      object (α := Unit) .mixedHandlers .lastToken
    let _ ← otherwise block
    cleanup block
    return if isStar then .tryStar else .try

/-! ## Definitions -/

/-- Reads a function. -/
def function (r : Rules) (block : Parser (List Stmt)) (form : StmtForm) : Parser StmtForm := do
  let l ← line
  word "def"
  let _ ← name
  demand "("
  let _ ← optional (parameters r true ")")
  op ")"
  let _ ← optional (op "->" *> r.expression)
  demand ":"
  let _ ← body block "function definition" l
  return form

/-- Reads the bases of a class. -/
def bases (r : Rules) : Parser Unit := do
  op "("
  if ← nextOp ")" then skip
  else
    (do
      let _ ← argumentList r
      let _ ← trailingComma
      op ")") <|> (do
      blameArguments r
      stuck)

/-- Reads a class. -/
def classDefinition (r : Rules) (block : Parser (List Stmt)) : Parser StmtForm := do
  let l ← line
  word "class"
  let _ ← name
  let _ ← optional (bases r)
  colon
  let _ ← body block "class definition" l
  return .classDef

/-- Reads what follows decorators. -/
def decorated (r : Rules) (block : Parser (List Stmt)) : Parser Stmt := do
  let _ ← some' (op "@" *> r.named *> kind .newline)
  let t ← peek
  if t.isKeyword "class" then formed (classDefinition r block)
  else if t.isKeyword "async" then
    formed (skip *> function r block .asyncFunctionDef)
  else formed (function r block .functionDef)

/-- Reads an asynchronous statement. -/
def asynchronous (r : Rules) (block : Parser (List Stmt)) : Parser Stmt :=
  formed do
    word "async"
    let t ← peek
    if t.isKeyword "def" then function r block .asyncFunctionDef
    else if t.isKeyword "with" then managed r block .asyncWith
    else
      let _ ← loop r block
      return .asyncFor

/-! ## `match` -/

/-- Reads the subject of a `match`. -/
def subject (r : Rules) : Parser Unit := do
  let e ← r.starNamed
  if ← nextOp "," then
    let _ ← moreParts r
  else require !isStarred e

/-- Reads a case with its block. -/
def case (r : Rules) (block : Parser (List Stmt)) : Parser Unit := do
  let l ← line
  softWord "case"
  let fuel ← fun s => Reply.ok s.rest.length s
  patterns fuel
  let _ ← optional (word "if" *> r.named)
  colon
  let _ ← body block "'case' statement" l

/-- Reads a `match`. -/
def selection (r : Rules) (block : Parser (List Stmt)) : Parser StmtForm := do
  let l ← line
  softWord "match"
  subject r
  colon
  diagnose do
    kind .newline
    require !(← nextIs (·.kind == .indent))
    object (α := Unit) (.missingBlock "'match' statement" l) .lastToken
  kind .newline
  kind .indent
  let _ ← some' (case r block)
  kind .dedent
  return .match

/-! ## Blocks and scripts -/

/-- Reads a statement, or the simple statements of a line. -/
def statement (r : Rules) (block : Parser (List Stmt)) : Parser (List Stmt) := do
  let t ← peek
  let single (p : Parser Stmt) : Parser (List Stmt) := List.singleton <$> p
  if t.isKeyword "def" then single (formed (function r block .functionDef))
  else if t.isOperator "@" then single (decorated r block)
  else if t.isKeyword "async" then single (asynchronous r block)
  else if t.isKeyword "if" then single (formed (conditional r block))
  else if t.isKeyword "class" then single (formed (classDefinition r block))
  else if t.isKeyword "with" then single (formed (managed r block .with))
  else if t.isKeyword "for" then single (spanned (loop r block))
  else if t.isKeyword "try" then single (formed (attempt r block))
  else if t.isKeyword "while" then single (formed (repetition r block))
  -- A line that begins with this name may still be an expression.
  else if t.isName "match" then single (formed (selection r block)) <|> simples r
  else simples r

/-- Reads statements. -/
def statements (r : Rules) (block : Parser (List Stmt)) : Parser (List Stmt) :=
  List.flatten <$> some' (statement r block)

/-- Reads a block; `fuel` bounds the nesting. -/
def block (r : Rules) : Nat → Parser (List Stmt)
  | 0 => stuck
  | fuel + 1 => do
    if ← nextIs (·.kind == .newline) then
      skip
      diagnose do
        require !(← nextIs (·.kind == .indent))
        object (α := Unit) .missingSomeBlock .lastToken
      kind .indent
      let inside ← statements r (block r fuel)
      kind .dedent
      return inside
    else simples r

/-- Reads a whole script. -/
def script (r : Rules) (fuel : Nat) : Parser (List Stmt) := do
  let found ← optional (statements r (block r fuel))
  kind .finish
  return found.getD []

end SpriteStage.Script.Grammar
