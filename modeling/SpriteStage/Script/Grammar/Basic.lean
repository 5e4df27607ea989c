import SpriteStage.Script.Token.Basic
import SpriteStage.Script.Tree

/-!
# Parsers of tokens

A `Parser` reads a part of a script from the front of the tokens.  It gives the part, is stuck, or
objects: it knows why the tokens are no script.  What is looked at counts even where a parser is
stuck, because a script that no other fault is known of is refused at the last token looked at.

Parsers run in two modes.  The plain mode objects to little; a script that is refused in it is read
again in the `diagnosing` mode, which knows what is often meant by tokens that are no script.
-/

namespace SpriteStage.Script

/-- Where the grammar finds a fault. -/
inductive Place where
  | before (position : Position)
  /-- At the last token that was looked at. -/
  | lastToken
  /-- At the beginning of the line. -/
  | lineStart (line : Nat)
  deriving DecidableEq, Repr

/-- Why tokens are no script. -/
inductive Objection where
  | fault (cause : Cause) (place : Place)
  /-- A token that could not be read. -/
  | broken (reason : Break)
  deriving DecidableEq, Repr

/-- The tokens still to be read, and what is known of those before. -/
structure Outlook where
  rest : List Token
  /-- The number of tokens read. -/
  index : Nat := 0
  /-- The number of tokens that were looked at. -/
  seen : Nat := 0
  /-- The place after the last visible token read. -/
  stop : Position := ⟨1, 0⟩
  /-- The number of brackets that are open after the last token read. -/
  depth : Nat := 0
  /-- Whether tokens that are no script are looked at for what was meant. -/
  diagnosing : Bool := false

/-- What comes of reading. -/
inductive Reply (α : Type) where
  | ok (a : α) (s : Outlook)
  | stuck (seen : Nat)
  | objection (o : Objection) (seen : Nat)

/-- A way of reading a part of a script. -/
def Parser (α : Type) := Outlook → Reply α

namespace Parser

variable {α β : Type}

/-- Reads nothing. -/
def pure (a : α) : Parser α := fun s => .ok a s

/-- Reads one part and then another one. -/
def bind (p : Parser α) (next : α → Parser β) : Parser β := fun s =>
  match p s with
  | .ok a s => next a s
  | .stuck seen => .stuck seen
  | .objection o seen => .objection o seen

instance : Monad Parser where
  pure := pure
  bind := bind

/-- Is stuck. -/
def stuck : Parser α := fun s => .stuck s.seen

/-- Objects. -/
def object (cause : Cause) (place : Place) : Parser α := fun s =>
  .objection (.fault cause place) s.seen

/-- Reads what `p` reads, or else what `q` reads. -/
def orElse (p : Parser α) (q : Unit → Parser α) : Parser α := fun s =>
  match p s with
  -- The other parser starts at the same place, but what was looked at counts.
  | .stuck seen => q () { s with seen := seen }
  | r => r

instance : OrElse (Parser α) := ⟨orElse⟩

/-- Reads a part if it is there. -/
def optional (p : Parser α) : Parser (Option α) :=
  (some <$> p) <|> pure none

/-- Looks at a part without reading it. -/
def ahead (p : Parser α) : Parser (Option α) := fun s =>
  match p s with
  | .ok a t => .ok (some a) { s with seen := t.seen }
  | .stuck seen => .ok none { s with seen := seen }
  | .objection o seen => .objection o seen

/-- Reads part after part as long as there are any, at most `fuel`. -/
def growFrom (p : α → Parser α) : Nat → α → Parser α
  | 0, a => pure a
  | fuel + 1, a => fun s =>
    match p a s with
    | .ok b t => growFrom p fuel b t
    | .stuck seen => .ok a { s with seen := seen }
    | .objection o seen => .objection o seen

/-- Reads part after part as long as there are any. -/
def grow (p : α → Parser α) (a : α) : Parser α := fun s =>
  -- Every part has a token at least, so there are no more parts than tokens.
  growFrom p s.rest.length a s

/-- Reads parts as long as there are any. -/
def many (p : Parser α) : Parser (List α) :=
  List.reverse <$> grow (fun found => (· :: found) <$> p) []

/-- Reads one part or more. -/
def some' (p : Parser α) : Parser (List α) := do
  let first ← p
  return first :: (← many p)

/-- The next token. -/
def peek : Parser Token := fun s =>
  match s.rest with
  | [] => .stuck s.seen
  | t :: _ =>
    let seen := max s.seen (s.index + 1)
    match t.kind with
    -- Whoever looks at a token that could not be read objects.
    | .broken reason => .objection (.broken reason) seen
    | _ => .ok t { s with seen := seen }

/-- Goes over the next token. -/
def skip : Parser Unit := fun s =>
  match s.rest with
  | [] => .stuck s.seen
  | t :: rest =>
    .ok () { s with
      rest := rest, index := s.index + 1
      stop := if t.isVisible then t.span.stop else s.stop
      depth := t.depth }

/-- Whether the next token has a property. -/
def nextIs (p : Token → Bool) : Parser Bool := do
  return p (← peek)

/-- Reads a token with a property. -/
def token (p : Token → Bool) : Parser Token := do
  let t ← peek
  if p t then
    skip
    return t
  else stuck

/-- The place before the next token; the token is not looked at. -/
def here : Parser Position := fun s => .ok ((s.rest.head?.map (·.span.start)).getD s.stop) s

/-- The span from a place up to what was read last. -/
def spanFrom (start : Position) : Parser Span := fun s => .ok ⟨start, s.stop⟩ s

/-- The number of brackets that are open after the last token read. -/
def depth : Parser Nat := fun s => .ok s.depth s

/-- Goes on only if a condition holds. -/
def require (condition : Bool) : Parser Unit := if condition then pure () else stuck

/-- Runs a parser that objects to what is often meant otherwise; it reads nothing. -/
def diagnose (p : Parser α) : Parser Unit := fun s =>
  if s.diagnosing then
    match p s with
    | .ok _ t => .ok () { s with seen := t.seen }
    -- A parser that is stuck has nothing to object to.
    | .stuck seen => .ok () { s with seen := seen }
    | .objection o seen => .objection o seen
  else .ok () s

/-- The outlook, for looking at the next tokens again. -/
def outlook : Parser Outlook := fun s => .ok s s

/-- Runs a parser that objects to what is often meant otherwise, from an earlier outlook on. -/
def diagnoseFrom (start : Outlook) (p : Parser α) : Parser Unit := fun s =>
  match diagnose p { start with seen := s.seen } with
  | .ok _ t => .ok () { s with seen := t.seen }
  | .stuck seen => .stuck seen
  | .objection o seen => .objection o seen

/-- Runs a parser in the plain mode. -/
def plainly (p : Parser α) : Parser α := fun s =>
  match p { s with diagnosing := false } with
  | .ok a t => .ok a { t with diagnosing := s.diagnosing }
  | r => r

end Parser

/-! ## Tokens of the grammar -/

namespace Token

/-- Whether a token is an operator. -/
def isOperator (s : String) (t : Token) : Bool := t.kind == .operator && t.chars == s.toList

/-- Whether a token is a keyword. -/
def isKeyword (s : String) (t : Token) : Bool := t.kind == .keyword && t.chars == s.toList

/-- Whether a token is a certain name. -/
def isName (s : String) (t : Token) : Bool := t.kind == .name && t.chars == s.toList

/-- The place of a fault at a token. -/
def place (t : Token) : Place :=
  if t.isPlaced then .before t.span.start else .lineStart t.span.start.line

end Token

namespace Parser

/-- Reads an operator. -/
def op (s : String) : Parser Unit := do
  let _ ← token (·.isOperator s)

/-- Reads a keyword. -/
def word (s : String) : Parser Unit := do
  let _ ← token (·.isKeyword s)

/-- Reads a name that is a keyword only here. -/
def softWord (s : String) : Parser Unit := do
  let _ ← token (·.isName s)

/-- Reads a name, in whatever way it is spelled. -/
def name : Parser String := do
  let t ← token (·.kind == .name)
  return identifier t.chars

/-- Reads a token of a kind. -/
def kind (k : TokenKind) : Parser Unit := do
  let _ ← token (·.kind == k)

/-- Whether the next token is an operator. -/
def nextOp (s : String) : Parser Bool := nextIs (·.isOperator s)

/-- Whether the next token is a keyword. -/
def nextWord (s : String) : Parser Bool := nextIs (·.isKeyword s)

/-- Reads an operator and objects to every other token. -/
def demand (s : String) : Parser Unit := do
  let t ← peek
  if t.isOperator s then skip else object (.expected s) t.place

/-- Reads parts with an operator between each two. -/
def separated (s : String) (p : Parser α) : Parser (List α) := do
  let first ← p
  return first :: (← many (op s *> p))

/-- Reads a comma that may follow the last part. -/
def trailingComma : Parser Bool := Option.isSome <$> optional (op ",")

/-- Goes on only if the next token is not a certain operator. -/
def notOp (s : String) : Parser Unit := do
  require !(← nextOp s)

/-- Objects before an expression. -/
def objectTo (e : Expr) (cause : Cause) : Parser α := object cause (.before e.span.start)

/-- Reads a part and gives it the span of all that was read. -/
def spanned (p : Parser (Span → α)) : Parser α := do
  let start ← here
  let f ← p
  return f (← spanFrom start)

/-- Objects to a target that cannot be one. -/
def objectToTarget (use : TargetUse) (e : Expr) : Parser Unit :=
  match e.intruder? use with
  | none => stuck
  | some part =>
    objectTo part (if use = .deletion then .deleteOf part.called else .assignTo part.called)

end Parser

end SpriteStage.Script
