import SpriteStage.Script.Grammar.Comprehension

/-!
# Arguments and subscripts

The arguments of a call come in order: positional and starred ones, then named and starred ones, then
named and double-starred ones.  A generator may stand without parentheses if it is the only argument.
-/

namespace SpriteStage.Script.Grammar

open SpriteStage.Script.Parser

/-- Reads a name, `:=` and an expression. -/
def walrus (r : Rules) : Parser Expr :=
  spanned do
    let target ← spanned (do let id ← name; return Expr.name id)
    op ":="
    let value ← r.expression
    return .other .namedExpr [target, value]

/-- Reads an expression that may be assigned to a name on the way. -/
def element (r : Rules) : Parser Expr :=
  walrus r <|> (do
    let e ← r.expression
    notOp ":="
    return e)

/-- Reads a positional argument. -/
def positional (r : Rules) : Parser Expr := do
  if ← nextOp "*" then starred r
  else
    let e ← element r
    notOp "="
    return e

/-- Reads a name and `=`. -/
def label : Parser String := name <* op "="

/-- Objects to what is no label although `=` follows. -/
def blameLabel (r : Rules) : Parser Unit := do
  diagnose do
    let t ← token (fun t => ["True", "False", "None"].any (t.isKeyword ·))
    op "="
    object (α := Unit) (.assignTo t.text) t.place
  diagnose do
    require (← ahead label).isNone
    let e ← r.expression
    op "="
    objectTo (α := Unit) e .equalityInArgument

/-- Reads a named argument. -/
def labelled (r : Rules) : Parser Keyword :=
  spanned do
    let start ← here
    let id ← label
    let _ ← r.expression
    diagnose do
      clauses r
      object (α := Unit) .assignmentInArgument (.before start)
    return Keyword.mk (some id)

/-- An argument that has been read. -/
inductive Argument where
  | positional (value : Expr)
  | named (keyword : Keyword)

/-- Reads a named or a starred argument. -/
def labelledOrStarred (r : Rules) : Parser Argument := do
  blameLabel r
  (.named <$> labelled r) <|> (.positional <$> starred r)

/-- Reads a named or a double-starred argument. -/
def labelledOrDoubleStarred (r : Rules) : Parser Argument := do
  blameLabel r
  (.named <$> labelled r) <|> (.named <$> spanned do
    op "**"
    let _ ← r.expression
    return Keyword.mk none)

/-- Reads the arguments from the first named one on. -/
def keywordPart (r : Rules) : Parser (List Argument) :=
  (do
    let first ← separated "," (labelledOrStarred r)
    let more ← optional (op "," *> separated "," (labelledOrDoubleStarred r))
    return first ++ more.getD []) <|> separated "," (labelledOrDoubleStarred r)

/-- Reads arguments. -/
def argumentList (r : Rules) : Parser (List Argument) :=
  (do
    let first ← separated "," (positional r)
    let more ← optional (op "," *> keywordPart r)
    return first.map .positional ++ more.getD []) <|> keywordPart r

/-- The positional arguments among arguments. -/
def Argument.values (found : List Argument) : List Expr :=
  found.filterMap fun
    | .positional e => some e
    | .named _ => none

/-- The named arguments among arguments. -/
def Argument.keywords (found : List Argument) : List Keyword :=
  found.filterMap fun
    | .positional _ => none
    | .named k => some k

/-- Objects to a generator among other arguments, and to arguments in the wrong order; `start` is
    where the arguments start. -/
def blameOrder (r : Rules) (start : Position) : Parser Unit := do
  diagnose do
    let found ← argumentList r
    if ← nextIsClause then
      clauses r
      -- A generator is no argument beside others.
      match (Argument.values found).reverse with
      | last :: _ :: _ => objectTo last .unparenthesizedGenerator
      | _ => stuck
    else
      op ","
      -- What comes after named arguments can only be a positional one.
      if ← nextOp "*" then object .iterableAfterUnpacking (.before start)
      else
        diagnose do
          let e ← r.expression
          clauses r
          objectTo (α := Unit) e .unparenthesizedGenerator
        let _ ← argumentList r
        object (α := Unit)
          (if (Argument.keywords found).any (·.name.isNone) then .positionalAfterUnpacking
            else .positionalAfterKeyword) .lastToken

/-- Objects to arguments that cannot be read. -/
def blameArguments (r : Rules) : Parser Unit := do
  let start ← here
  diagnose do
    let _ ← argumentList r
    op ","
    op "*"
    object (α := Unit) .iterableAfterUnpacking (.before start)
  diagnose do
    let e ← r.expression
    clauses r
    op ","
    let _ ← optional (argumentList r)
    objectTo (α := Unit) e .unparenthesizedGenerator
  blameOrder r start

/-- Reads the arguments after a first positional one that is not starred, or the clauses of a
    generator; the closing bracket comes last. -/
def afterElement (r : Rules) (opening : Position) (first : Expr) :
    Parser (List Expr × List Keyword) := do
  if ← nextIsClause then
    clauses r
    op ")"
    return ([.other .generator [first] (← spanFrom opening)], [])
  else
    notOp "="
    let more ← many (op "," *> positional r)
    let found := (← optional (op "," *> keywordPart r)).getD []
    let _ ← trailingComma
    op ")"
    return (first :: more ++ Argument.values found, Argument.keywords found)

/-- Reads the arguments of a call with its closing bracket; the opening one stands at `opening`. -/
def callArguments (r : Rules) (opening : Position) : Parser (List Expr × List Keyword) := do
  if ← nextOp ")" then
    skip
    return ([], [])
  else
    (element r >>= afterElement r opening) <|> (do
      let found ← argumentList r
      let _ ← trailingComma
      op ")"
      return (Argument.values found, Argument.keywords found)) <|> (do
      blameArguments r
      stuck)

/-! ## Named expressions -/

/-- Objects to `=` and `:=` after an expression that was read from `start` on. -/
def blameNamed (r : Rules) (start : Outlook) (e : Expr) : Parser Unit := do
  diagnose do
    -- Only a name can be assigned to on the way.
    op ":="
    let _ ← r.expression
    objectTo (α := Unit) e (.namedTarget e.called)
  diagnoseFrom start do
    -- A single equals sign where two were meant.
    let _ ← name
    op "="
    let _ ← r.bitwiseOr
    notOp "="
    notOp ":="
    objectTo (α := Unit) e .equalityExpected
  diagnoseFrom start do
    let t ← peek
    require !(["True", "None", "False"].any (t.isKeyword ·))
    -- What stands in brackets is blamed by itself.
    let isDisplay := match e with
      | .other .list _ s | .other .tuple _ s | .other .generator _ s =>
        s.start = t.span.start && !t.isOperator "*"
      | _ => false
    require !isDisplay
    let a ← r.bitwiseOr
    op "="
    let _ ← r.bitwiseOr
    notOp "="
    notOp ":="
    objectTo (α := Unit) a (.assignToHere a.called)

/-- Reads an expression that may be assigned to a name on the way; what follows a plain one must not
    be `:=`. -/
def named (r : Rules) (expression : Parser Expr) : Parser Expr :=
  walrus r <|> (do
    let start ← outlook
    let e ← expression
    blameNamed r start e
    notOp ":="
    return e)

/-- Reads a star with an operand, or a named expression. -/
def starNamed (r : Rules) (named : Parser Expr) : Parser Expr := do
  if ← nextOp "*" then
    spanned do
      skip
      let e ← r.bitwiseOr
      return .other .starred [e]
  else named

/-! ## Subscripts -/

/-- Reads the bounds after the first colon of a slice. -/
def bounds (r : Rules) : Parser Unit := do
  op ":"
  let _ ← optional r.expression
  let _ ← optional (op ":" *> optional r.expression)

/-- Reads a slice or an expression. -/
def slice (r : Rules) : Parser Expr := do
  let start ← here
  if ← nextOp "*" then starred r
  else if ← nextOp ":" then
    bounds r
    return .other .slice [] (← spanFrom start)
  else
    walrus r <|> (do
      let before ← outlook
      let e ← r.expression
      if ← nextOp ":" then
        bounds r
        return .other .slice [e] (← spanFrom start)
      else
        blameNamed r before e
        notOp ":="
        return e)

/-- Reads slices with commas between them. -/
def slices (r : Rules) : Parser Expr := do
  let start ← here
  let first ← slice r
  let rest ← many (op "," *> slice r)
  let comma ← trailingComma
  if rest.isEmpty && !comma && !isStarred first then return first
  else return .other .tuple (first :: rest) (← spanFrom start)

end SpriteStage.Script.Grammar
