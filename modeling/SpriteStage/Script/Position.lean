import SpriteStage.Text.Blank

/-!
# Positions in a script

A position is a line, counted from one, and the number of bytes that come before it in that line.
-/

namespace SpriteStage.Script

/-- A place in a script. -/
structure Position where
  line : Nat
  /-- The bytes of the line before the place. -/
  offset : Nat
  deriving DecidableEq, Repr, Inhabited

/-- A stretch of a script, from its first character to the place after its last one. -/
structure Span where
  start : Position
  stop : Position
  deriving DecidableEq, Repr, Inhabited

/-- The script as the lexer reads it: every line ends with `\n`.  A text that ends with `\r\n` gets
    one line end more. -/
def readable (text : List Char) : List Char :=
  let cs := Text.unifyNewlines text
  let closed := match cs.reverse with
    | '\n' :: _ => ! ['\n', '\r'].isPrefixOf text.reverse
    | _ => false
  if closed then cs else cs ++ ['\n']

/-- The characters that begin within the first `bytes` bytes. -/
def beginWithin : Nat → List Char → Nat
  | 0, _ => 0
  | _, [] => 0
  | bytes + 1, c :: rest => 1 + beginWithin (bytes + 1 - c.utf8Size) rest

end SpriteStage.Script
