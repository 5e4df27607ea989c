import SpriteStage.Script.Grammar.Operand

/-!
# Parameters

The parameters of functions and of `lambda`.  A parameter without a default may not follow one with a
default, unless a star stands between them; `/` ends the positional ones, `*` starts the named ones,
and `**` comes last.
-/

namespace SpriteStage.Script.Grammar

open SpriteStage.Script.Parser

/-- What has been read of a list of parameters. -/
structure Parameters where
  isEmpty : Bool := true
  /-- Whether a positional parameter has a default. -/
  hasDefault : Bool := false
  hasSlash : Bool := false
  hasStar : Bool := false
  /-- Whether a star stands alone and no named parameter has come after it. -/
  isBare : Bool := false
  /-- Whether the last parameter has come. -/
  isClosed : Bool := false

/-- Reads an annotation, where there may be one. -/
def annotation (r : Rules) (annotated isStar : Bool) : Parser Unit := do
  if annotated then
    let _ ← optional (do
      op ":"
      if isStar && (← nextOp "*") then
        skip
        let _ ← r.bitwiseOr
      else
        let _ ← r.expression)

/-- Reads `/`. -/
def slash (ps : Parameters) : Parser Parameters := do
  require (!ps.isEmpty && !ps.hasSlash && !ps.hasStar && !ps.isClosed)
  skip
  return { ps with hasSlash := true }

/-- Reads `*`, with a parameter or alone before a comma. -/
def star (r : Rules) (annotated : Bool) (closing : String) (ps : Parameters) :
    Parser Parameters := do
  require (!ps.hasStar && !ps.isClosed)
  let t ← peek
  skip
  diagnose do
    let _ ← optional (op ",")
    require (← nextIs (fun t => t.isOperator closing || t.isOperator "**"))
    -- In a function the star is at fault, in a `lambda` what follows it.
    object (α := Unit) .bareStar (if annotated then t.place else .lastToken)
  if ← nextOp "," then return { ps with isEmpty := false, hasStar := true, isBare := true }
  else
    let _ ← name
    annotation r annotated true
    return { ps with isEmpty := false, hasStar := true }

/-- Reads `**` and a parameter. -/
def doubleStar (r : Rules) (annotated : Bool) (ps : Parameters) : Parser Parameters := do
  require (!ps.isBare && !ps.isClosed)
  skip
  let _ ← name
  annotation r annotated false
  return { ps with isEmpty := false, isClosed := true }

/-- Reads a parameter with its default, if it has one. -/
def plainParameter (r : Rules) (annotated : Bool) (closing : String) (ps : Parameters) :
    Parser Parameters := do
  require !ps.isClosed
  let start ← here
  let _ ← name
  annotation r annotated false
  if ← nextOp "=" then
    skip
    let _ ← r.expression
    return { ps with isEmpty := false, isBare := false, hasDefault := ps.hasDefault || !ps.hasStar }
  else
    if ps.hasDefault && !ps.hasStar then
      diagnose do
        require (← nextIs (fun t => t.isOperator "," || t.isOperator closing))
        object (α := Unit) .nonDefaultAfterDefault (.before start)
      stuck
    else return { ps with isEmpty := false, isBare := false }

/-- Reads a parameter or a mark between parameters. -/
def parameter (r : Rules) (annotated : Bool) (closing : String) (ps : Parameters) :
    Parser Parameters := do
  let t ← peek
  if t.isOperator "/" then slash ps
  else if t.isOperator "*" then star r annotated closing ps
  else if t.isOperator "**" then doubleStar r annotated ps
  else plainParameter r annotated closing ps

/-- Reads parameters up to a closing operator, which is not read. -/
def parameters (r : Rules) (annotated : Bool) (closing : String) : Parser Unit := do
  if ← nextOp closing then return
  else
    let ps ← parameter r annotated closing {}
    let ps ← grow (fun ps => op "," *> parameter r annotated closing ps) ps
    let _ ← trailingComma
    require !ps.isBare
    require (← nextOp closing)

end SpriteStage.Script.Grammar
