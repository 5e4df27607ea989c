import SpriteStage.Script.Grammar.Expression

/-!
# Patterns

What stands after `case`.  No program uses patterns, so nothing of them is kept.
-/

namespace SpriteStage.Script.Grammar

open SpriteStage.Script.Parser

/-- Reads a name that a pattern binds. -/
def capture : Parser Unit := do
  let _ ← token (fun t => t.kind == .name && !t.isName "_")
  notOp "."
  notOp "("
  notOp "="

/-- Reads a number with its sign, and an imaginary part if there is one. -/
def numberPattern : Parser Unit := do
  let _ ← optional (op "-")
  let _ ← numeral
  if (← nextOp "+") || (← nextOp "-") then
    skip
    let _ ← numeral

/-- Reads a constant that a subject is compared with. -/
def literalPattern : Parser Unit := do
  let t ← peek
  if t.kind == .numeral || t.isOperator "-" then numberPattern
  else if t.kind == .text then
    let _ ← texts
  else
    let _ ← token (fun t => ["None", "True", "False"].any (t.isKeyword ·))

/-- Reads names with dots between them, and tells whether there is a dot. -/
def dottedNames : Parser Bool := do
  let found ← separated "." name
  return found.length > 1

/-- Reads a pattern or a star with a name. -/
def starPattern (pattern : Parser Unit) : Parser Unit := do
  if ← nextOp "*" then
    skip
    capture <|> softWord "_"
  else pattern

/-- Reads patterns of a sequence up to its closing bracket. -/
def sequencePattern (pattern : Parser Unit) (closing : String) : Parser Unit := do
  if ← nextOp closing then skip
  else
    let _ ← separated "," (starPattern pattern)
    let _ ← trailingComma
    op closing

/-- Reads a pattern in parentheses or a sequence of patterns. -/
def groupPattern (pattern : Parser Unit) : Parser Unit :=
  (pattern *> op ")") <|> (do
    if ← nextOp ")" then skip
    else
      starPattern pattern
      op ","
      sequencePattern pattern ")")

/-- Reads a key with its pattern, or the name for the remaining keys. -/
def entryPattern (pattern : Parser Unit) : Parser Unit := do
  if ← nextOp "**" then
    skip
    capture
  else
    literalPattern <|> (do require (← dottedNames))
    op ":"
    pattern

/-- Reads an argument of a class pattern; a label is demanded after the first one. -/
def argumentPattern (pattern : Parser Unit) (labelled : Bool) : Parser Bool := do
  if (← ahead label).isSome then
    let _ ← label
    pattern
    return true
  else
    require !labelled
    pattern
    return false

/-- Reads the arguments of a class pattern with the closing bracket. -/
def classPattern (pattern : Parser Unit) : Parser Unit := do
  if ← nextOp ")" then skip
  else
    let labelled ← argumentPattern pattern false
    let _ ← grow (fun labelled => op "," *> argumentPattern pattern labelled) labelled
    let _ ← trailingComma
    op ")"

/-- Reads a pattern that is no alternative. -/
def closedPattern (pattern : Parser Unit) : Parser Unit := do
  let t ← peek
  if t.isName "_" then skip
  else if t.kind == .name then
    let _ ← dottedNames
    if ← nextOp "(" then
      skip
      classPattern pattern
    else notOp "="
  else if t.isOperator "(" then
    skip
    groupPattern pattern
  else if t.isOperator "[" then
    skip
    sequencePattern pattern "]"
  else if t.isOperator "\x7b" then
    skip
    if ← nextOp "\x7d" then skip
    else
      let _ ← separated "," (entryPattern pattern)
      let _ ← trailingComma
      op "\x7d"
  else literalPattern

/-- Reads alternatives of patterns with a name for what they match; `fuel` bounds the nesting. -/
def pattern : Nat → Parser Unit
  | 0 => stuck
  | fuel + 1 => do
    let _ ← separated "|" (closedPattern (pattern fuel))
    let _ ← optional (word "as" *> capture)

/-- Reads the patterns after `case`. -/
def patterns (fuel : Nat) : Parser Unit := do
  let isStar ← nextOp "*"
  starPattern (pattern fuel)
  if ← nextOp "," then
    skip
    let _ ← optional (separated "," (starPattern (pattern fuel)))
    let _ ← trailingComma
  else require !isStar

end SpriteStage.Script.Grammar
