import SpriteStage.Script.Grammar.Argument

/-!
# Operands

Names, constants, what stands in brackets, and the attributes, calls and subscripts after them.
-/

namespace SpriteStage.Script.Grammar

open SpriteStage.Script.Parser

/-! ## Constants -/

/-- Texts read so far, put together. -/
inductive Joined where
  | text (codes : List Nat)
  | bytes (bs : List UInt8)
  | template

/-- Puts a text after others; bytes do not go with the other kinds. -/
def Joined.push : Joined → QuotedPart → Option Joined
  | .text cs, .text ds => some (.text (cs ++ ds))
  | .text _, .template => some .template
  | .bytes bs, .bytes cs => some (.bytes (bs ++ cs))
  | .template, .text _ | .template, .template => some .template
  | _, _ => none

/-- A single text. -/
def Joined.ofPart : QuotedPart → Joined
  | .text cs => .text cs
  | .bytes bs => .bytes bs
  | .template => .template

/-- Puts the texts of tokens together. -/
def joinTexts : Option Joined → List Token → Parser Joined
  | none, [] => stuck
  | some found, [] => return found
  | found, t :: rest =>
    match QuotedPart.ofToken t.chars with
    | .error cause => object cause t.place
    | .ok part =>
      match (match found with
        | none => some (Joined.ofPart part)
        | some found => found.push part) with
      | some found => joinTexts (some found) rest
      | none => object .mixedBytes .lastToken

/-- Reads texts that stand side by side. -/
def texts : Parser Expr :=
  spanned do
    let tokens ← some' (token (·.kind == .text))
    match ← joinTexts none tokens with
    | .text codes => return .literal (.value (.text (Quotation.textOf codes)))
    | .bytes bs => return .literal (.bytes bs)
    | .template => return .other .template []

/-- Reads a numeral. -/
def numeral : Parser Expr :=
  spanned do
    let t ← token (·.kind == .numeral)
    match Literal.ofNumeral t.chars with
    | .ok v => return .literal v
    | .error cause => object cause (.lineStart t.span.start.line)

/-- The constants that are keywords. -/
def constantOf? (t : Token) : Option Literal :=
  if t.isKeyword "True" then some (.value (.bool true))
  else if t.isKeyword "False" then some (.value (.bool false))
  else if t.isKeyword "None" then some (.value .null)
  else if t.isOperator "..." then some .ellipsis
  else none

/-! ## Brackets -/

/-- Reads the parts after the first one, with an optional comma after the last one. -/
def moreParts (r : Rules) : Parser (List Expr) := many (op "," *> r.starNamed) <* trailingComma

/-- Objects to a comprehension after a bracket whose element is starred. -/
def blameStarredElement (r : Rules) : Parser Unit :=
  diagnose do
    let e ← starred r
    clauses r
    objectTo (α := Unit) e .starredComprehension

/-- Objects to a comprehension after a bracket whose element lacks parentheses. -/
def blameBareTuple (r : Rules) : Parser Unit :=
  diagnose do
    let e ← r.starNamed
    op ","
    let _ ← optional (r.starNamed *> moreParts r)
    clauses r
    objectTo (α := Unit) e .unparenthesizedTarget

/-- Objects to a starred expression in parentheses. -/
def blameGroup (r : Rules) : Parser Unit := do
  diagnose do
    let e ← starred r
    op ")"
    objectTo (α := Unit) e .starredGroup
  diagnose do
    let start ← here
    op "**"
    let _ ← r.expression
    op ")"
    object (α := Unit) .doubleStarredGroup (.before start)

/-- Reads a tuple, a generator or an expression in parentheses, after the opening one. -/
def inParentheses (r : Rules) (start : Position) : Parser Expr := do
  if ← nextOp ")" then
    skip
    return .other .tuple [] (← spanFrom start)
  else
    (do
      if ← nextWord "yield" then r.yieldExpr <* op ")"
      else
        let e ← r.starNamed
        if ← nextOp "," then
          let rest ← moreParts r
          op ")"
          if rest.isEmpty then return .other .tuple [e] (← spanFrom start)
          else return .other .tuple (e :: rest) (← spanFrom start)
        else
          require !isStarred e
          if ← nextIsClause then
            clauses r
            op ")"
            return .other .generator [e] (← spanFrom start)
          else
            op ")"
            return e) <|> (do
      blameGroup r
      blameStarredElement r
      stuck)

/-- Reads a list or a list comprehension after the opening bracket. -/
def inSquareBrackets (r : Rules) (start : Position) : Parser Expr := do
  if ← nextOp "]" then
    skip
    return .other .list [] (← spanFrom start)
  else
    (do
      let e ← r.starNamed
      if !isStarred e && (← nextIsClause) then
        clauses r
        op "]"
        return .other .listComp [e] (← spanFrom start)
      else
        let rest ← moreParts r
        op "]"
        return .other .list (e :: rest) (← spanFrom start)) <|> (do
      blameStarredElement r
      blameBareTuple r
      stuck)

/-- Reads a key with its value, or a double-starred operand. -/
def entry (r : Rules) : Parser Unit := do
  if ← nextOp "**" then
    skip
    let _ ← r.bitwiseOr
  else
    let _ ← r.expression
    op ":"
    let _ ← r.expression

/-- Objects to a value that is missing or starred, after a key. -/
def blameValue (r : Rules) : Parser Unit := do
  diagnose do
    let _ ← r.expression
    op ":"
    let star ← here
    op "*"
    let _ ← r.bitwiseOr
    object (α := Unit) .starredValue (.before star)
  diagnose do
    let _ ← r.expression
    let colon ← here
    op ":"
    require (← nextIs (fun t => t.isOperator "\x7d" || t.isOperator ","))
    object (α := Unit) .missingValue (.before colon)

/-- Objects to entries that are none. -/
def blameEntries (r : Rules) : Parser Unit := do
  diagnose do
    let _ ← separated "," (entry r)
    op ","
    diagnose do
      let e ← r.expression
      notOp ":"
      object (α := Unit) .missingColon
        -- The column is that of the last character of the key, the line that of its first one.
        (.before ⟨e.span.start.line, e.span.stop.offset - 1⟩)
    blameValue r
  blameValue r

/-- Objects to a comprehension after a brace whose element is double-starred. -/
def blameUnpacking (r : Rules) : Parser Unit :=
  diagnose do
    let start ← here
    op "**"
    let _ ← r.bitwiseOr
    clauses r
    op "\x7d"
    object (α := Unit) .unpackedComprehension (.before start)

/-- Reads the entries after the first one, and the closing brace. -/
def moreEntries (r : Rules) (start : Position) : Parser Expr := do
  let _ ← many (op "," *> entry r)
  let _ ← trailingComma
  op "\x7d"
  return .other .dict [] (← spanFrom start)

/-- Reads the elements of a set after the first one, and the closing brace. -/
def moreElements (r : Rules) (start : Position) (first : Expr) : Parser Expr := do
  if !isStarred first && (← nextIsClause) then
    clauses r
    op "\x7d"
    return .other .setComp [first] (← spanFrom start)
  else
    let rest ← moreParts r
    op "\x7d"
    return .other .set (first :: rest) (← spanFrom start)

/-- Reads a dictionary, a set or a comprehension of either after the opening brace. -/
def inBraces (r : Rules) (start : Position) : Parser Expr := do
  if ← nextOp "\x7d" then
    skip
    return .other .dict [] (← spanFrom start)
  else
    (do
      if ← nextOp "**" then
        skip
        let _ ← r.bitwiseOr
        moreEntries r start
      else if ← nextOp "*" then r.starNamed >>= moreElements r start
      else
        -- What follows the first expression tells a dictionary from a set.
        (walrus r >>= moreElements r start) <|> (do
          let before ← outlook
          let e ← r.expression
          if ← nextOp ":" then
            skip
            let _ ← r.expression
            if ← nextIsClause then
              clauses r
              op "\x7d"
              return .other .dictComp [e] (← spanFrom start)
            else moreEntries r start
          else
            blameNamed r before e
            notOp ":="
            moreElements r start e)) <|> (do
      blameEntries r
      blameUnpacking r
      blameStarredElement r
      blameBareTuple r
      stuck)

/-! ## Operands -/

/-- Reads a name, a constant, or what stands in brackets. -/
def atom (r : Rules) : Parser Expr := do
  let start ← here
  let t ← peek
  match t.kind with
  | .name =>
    skip
    return .name (identifier t.chars) (← spanFrom start)
  | .numeral => numeral
  | .text => texts
  | .operator | .keyword =>
    match constantOf? t with
    | some v =>
      skip
      return .literal v (← spanFrom start)
    | none =>
      if t.isOperator "(" then
        skip
        inParentheses r start
      else if t.isOperator "[" then
        skip
        inSquareBrackets r start
      else if t.isOperator "\x7b" then
        skip
        inBraces r start
      else stuck
  | _ => stuck

/-- Reads an attribute, a call or a subscript after an operand that starts at `start`. -/
def trailer (r : Rules) (start : Position) (e : Expr) : Parser Expr := do
  let t ← peek
  if t.isOperator "." then
    skip
    let id ← name
    return .attribute e id (← spanFrom start)
  else if t.isOperator "(" then
    skip
    let (arguments, keywords) ← callArguments r t.span.start
    return .call e arguments keywords (← spanFrom start)
  else if t.isOperator "[" then
    skip
    let part ← slices r
    op "]"
    return .other .subscript [e, part] (← spanFrom start)
  else stuck

/-- Reads an operand with all that comes after it. -/
def primary (r : Rules) : Parser Expr := do
  let start ← here
  let e ← atom r
  grow (trailer r start) e

/-- Reads an operand that may be awaited. -/
def awaited (r : Rules) : Parser Expr := do
  if ← nextWord "await" then
    spanned do
      skip
      let e ← primary r
      return .await e
  else primary r

end SpriteStage.Script.Grammar
