import SpriteStage.Script.Token.Stream
import SpriteStage.Script.Grammar.Compound

/-!
# Reading scripts

A text is cut into tokens and read by the grammar in the plain mode.  If that fails the tokens are
read again in the diagnosing mode; what that mode objects to is reported, or else the last token that
the plain mode looked at.  A fault of the grammar gives way to what cannot be read further on: always
if that is malformed by itself, and in case of an open bracket only if the bracket stands in a line
before the fault.
-/

namespace SpriteStage.Script

/-- The last of the tokens that were looked at. -/
def lastSeen (tokens : List Token) (seen : Nat) : Token :=
  (tokens[seen - 1]?).getD (Cursor.mark .finish { rest := [] })

/-- A fault of the grammar at a place, as it is reported after the token `last`. -/
def Place.fault (last : Token) (cause : Cause) (place : Place) : Fault :=
  let (line, bytes) := match place with
    | .before p => (p.line, p.offset + 1)
    | .lineStart line => (line, 0)
    | .lastToken =>
      let p := last.span.start
      (p.line, if last.isPlaced then p.offset + 1 else p.offset)
  let read := last.span.stop.line
  if read ≤ line then ⟨cause, line, .within bytes, last.firstLine, read⟩
  else .inLine cause line bytes

/-- What is reported in the place of a fault of the grammar: a token further on that cannot be read,
    or the fault itself. -/
def outranked (tokens : List Token) (seen : Nat) (f : Fault) : Fault :=
  match (tokens.drop seen).getLast? with
  | some { kind := .broken reason, .. } =>
    if reason.isUrgent then reason.fault
    else match reason.unclosed with
      | some g => if g.line < (lastSeen tokens seen).span.start.line then g else f
      | none => f
  | _ => f

/-- The fault that is reported for an objection. -/
def Objection.report (tokens : List Token) (seen : Nat) : Objection → Fault
  | .broken reason => reason.fault
  | .fault cause place => outranked tokens seen (place.fault (lastSeen tokens seen) cause)

/-- The fault that is reported where no other is known: the plain mode looked at `plain` tokens, the
    diagnosing mode at `seen`. -/
def reportLast (tokens : List Token) (plain seen : Nat) : Fault :=
  let t := lastSeen tokens plain
  match t.kind with
  | .indent => Place.fault (lastSeen tokens seen) .unexpectedIndent .lastToken
  | .dedent => Place.fault (lastSeen tokens seen) .unexpectedUnindent .lastToken
  | _ => outranked tokens seen (t.place.fault (lastSeen tokens seen) .invalid)

/-- The statements that tokens write. -/
def ofTokens (tokens : List Token) : Except Fault (List Stmt) :=
  let fuel := tokens.length + 1
  let script := Grammar.script (Grammar.rules fuel) fuel
  match script { rest := tokens } with
  | .ok found _ => .ok found
  | .objection o seen => .error (o.report tokens seen)
  | .stuck plain =>
    -- What the plain mode looked at counts as seen in the second reading.
    match script { rest := tokens, seen := plain, diagnosing := true } with
    | .objection o seen => .error (o.report tokens seen)
    | .ok _ s => .error (reportLast tokens plain s.seen)
    | .stuck seen => .error (reportLast tokens plain seen)

/-- The statements that a text writes. -/
def read (text : List Char) : Except Fault (List Stmt) := ofTokens (tokenize (readable text))

/-- Whether a quoted text of a script has a surrogate in it.  Values hold characters alone, so such a script
    is read with another character in that place, and what is said about outputs leaves it out. -/
def hasSurrogate (text : List Char) : Bool :=
  (tokenize (readable text)).any fun t => t.kind == .text &&
    match QuotedPart.ofToken t.chars with
    | .ok part => part.hasSurrogate
    | .error _ => false

end SpriteStage.Script
