import SpriteStage.Script.Fault
import SpriteStage.Text.NormalForm

/-!
# Tokens

A script is a sequence of tokens: names, keywords, numerals, texts, operators, ends of lines, and the
indents and dedents between them.  The sequence ends with an end marker, or with a token that could
not be read and says why.
-/

namespace SpriteStage.Script

/-- What cannot be read: its fault, and what becomes of it if the grammar finds another fault
    before. -/
structure Break where
  fault : Fault
  /-- Whether it is reported in preference to any fault of the grammar. -/
  isUrgent : Bool := false
  /-- The bracket that is open at this place, as a fault.  It is reported in preference to a fault of
      the grammar in a later line than the bracket. -/
  unclosed : Option Fault := none
  deriving DecidableEq, Repr

/-- The kinds of tokens. -/
inductive TokenKind where
  | name
  | keyword
  | numeral
  | text
  | operator
  | newline
  | indent
  | dedent
  | finish
  | broken (reason : Break)
  deriving DecidableEq, Repr

/-- A token. -/
structure Token where
  kind : TokenKind
  /-- The characters that it is written with. -/
  chars : List Char
  span : Span
  /-- The number of brackets that are open after it. -/
  depth : Nat
  /-- The first of the lines that are quoted with a fault at this token. -/
  firstLine : Nat
  deriving DecidableEq, Repr

namespace Token

/-- Whether a token has characters of its own; the others have only a place. -/
def isPlaced (t : Token) : Bool :=
  match t.kind with
  | .indent | .dedent | .finish => false
  | _ => true

/-- Whether a token is neither an end nor an indentation. -/
def isVisible (t : Token) : Bool :=
  match t.kind with
  | .newline | .indent | .dedent | .finish => false
  | _ => true

/-- The text of a token. -/
def text (t : Token) : String := String.ofList t.chars

end Token

/-- The name that is spelled with certain characters; other spellings of it have the same normal form. -/
def identifier (cs : List Char) : String := String.ofList (Text.normalForm cs)

theorem identifier_toList {s : String} (h : Text.IsNormal s.toList) : identifier s.toList = s := by
  rw [identifier, h, String.ofList_toList]

/-- The words that are no names. -/
def keywords : List String := [
  "False", "None", "True", "and", "as", "assert", "async", "await", "break", "class", "continue",
  "def", "del", "elif", "else", "except", "finally", "for", "from", "global", "if", "import", "in",
  "is", "lambda", "nonlocal", "not", "or", "pass", "raise", "return", "try", "while", "with",
  "yield"]

/-- Whether a word is no name. -/
def isKeyword (word : List Char) : Bool := keywords.contains (String.ofList word)

end SpriteStage.Script
