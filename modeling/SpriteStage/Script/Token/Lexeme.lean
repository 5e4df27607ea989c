import SpriteStage.Script.Token.Basic
import SpriteStage.Text.Identifier
import SpriteStage.Text.Printable

/-!
# The shapes of lexemes

How many characters a numeral, a text or a word takes at the beginning of what is still to be read,
or how far it was read when it turned out to be none.
-/

namespace SpriteStage.Script

/-- A lexeme that is refused: the cause, and the number of characters read so far unless the whole
    lexeme is at fault. -/
abbrev Refusal := Cause × Option Nat

/-- Whether a character may belong to a word.  All characters past ASCII are looked at later. -/
def isWordPart (c : Char) : Bool := c.isAlphanum || c == '_' || 0x80 ≤ c.toNat

/-- Whether a character may start a word. -/
def isWordStart (c : Char) : Bool := isWordPart c && !c.isDigit

/-! ## Numerals -/

namespace Numeral

/-- The words that may follow a numeral without a blank. -/
def followers : List (List Char) :=
  ["and".toList, "else".toList, "for".toList, "or".toList, "not".toList]

/-- Whether a whole word comes first. -/
def startsWithWord (cs word : List Char) : Bool :=
  word.isPrefixOf cs && !((cs.drop word.length).head?.any isWordPart)

/-- Whether a numeral may end before the characters. -/
def mayEnd (cs : List Char) : Bool :=
  match cs with
  -- `if`, `in` and `is` are known by their second letter alone.
  | 'i' :: c :: _ => c == 'f' || c == 'n' || c == 's'
  | cs => !cs.head?.any isWordPart || followers.any (startsWithWord cs)

/-- Ends a numeral of `n` characters. -/
def finish (radix : Radix) (n : Nat) (cs : List Char) : Except Refusal Nat :=
  if mayEnd cs then .ok n else .error (.invalidNumeral radix, some n)

/-- Whether a character is a digit of a numeral. -/
def isDigitOf : Radix → Char → Bool
  | .hexadecimal, c => c.isDigit || ('a' ≤ c && c ≤ 'f') || ('A' ≤ c && c ≤ 'F')
  | .octal, c => '0' ≤ c && c < '8'
  | .binary, c => c == '0' || c == '1'
  | _, c => c.isDigit

/-- Refuses a character in the place of a digit, after `n` characters. -/
def refuse (radix : Radix) (n : Nat) (c : Char) : Refusal :=
  if c.isDigit then (.invalidDigit c radix, some (n + 1)) else (.invalidNumeral radix, some n)

/-- Reads digits with single underscores before them, and counts on from `n`. -/
def digits (radix : Radix) (n : Nat) : List Char → Except Refusal (Nat × List Char)
  | [] => .ok (n, [])
  | '_' :: c :: rest =>
    if isDigitOf radix c then digits radix (n + 2) rest else .error (refuse radix (n + 1) c)
  | c :: rest =>
    if isDigitOf radix c then digits radix (n + 1) rest
    else if c.isDigit then .error (refuse radix n c)
    else .ok (n, c :: rest)

/-- Reads the digits of a numeral with a base, after its two characters for the base. -/
def based (radix : Radix) (cs : List Char) : Except Refusal Nat :=
  match cs with
  | [] => .error (.invalidNumeral radix, some 2)
  | c :: _ =>
    if c == '_' || isDigitOf radix c then do
      let (n, rest) ← digits radix 2 cs
      finish radix n rest
    else .error (refuse radix 2 c)

/-- Reads what may come after the digits of a double: the mark of an imaginary number. -/
def mark (n : Nat) (cs : List Char) : Except Refusal Nat :=
  match cs with
  | 'j' :: rest | 'J' :: rest => finish .imaginary (n + 1) rest
  | cs => finish .decimal n cs

/-- Reads an exponent, if there is one, and the mark. -/
def exponent (n : Nat) (cs : List Char) : Except Refusal Nat :=
  match cs with
  | e :: rest =>
    if e == 'e' || e == 'E' then
      match rest with
      | s :: rest' =>
        -- A sign must lead on to a digit; without one the letter may begin another word.
        if s == '+' || s == '-' then
          if rest'.head?.any Char.isDigit then do
            let (n, rest) ← digits .decimal (n + 2) rest'
            mark n rest
          else .error (.invalidNumeral .decimal, some (n + 2))
        else if s.isDigit then do
          let (n, rest) ← digits .decimal (n + 1) rest
          mark n rest
        else finish .decimal n cs
      | [] => finish .decimal n cs
    else mark n cs
  | [] => mark n cs

/-- Reads the digits of a fraction, the exponent and the mark, after the point. -/
def fraction (n : Nat) (cs : List Char) : Except Refusal Nat :=
  if cs.head?.any Char.isDigit then do
    let (n, rest) ← digits .decimal n cs
    exponent n rest
  else exponent n cs

/-- Reads a decimal numeral.  Only doubles may start with a zero before another digit. -/
def decimal (cs : List Char) : Except Refusal Nat := do
  let (n, rest) ← digits .decimal 0 cs
  let padded := cs.head? == some '0' && (cs.take n).any (fun c => c != '0' && c != '_')
  match rest with
  | '.' :: rest => fraction (n + 1) rest
  | c :: _ =>
    if c == 'e' || c == 'E' || c == 'j' || c == 'J' then exponent n rest
    else if padded then .error (.leadingZeros, none)
    else finish .decimal n rest
  | [] => finish .decimal n rest

/-- The length of the numeral at the beginning. -/
def length (cs : List Char) : Except Refusal Nat :=
  match cs with
  | '.' :: rest => fraction 1 rest
  | '0' :: x :: rest =>
    if x == 'x' || x == 'X' then based .hexadecimal rest
    else if x == 'o' || x == 'O' then based .octal rest
    else if x == 'b' || x == 'B' then based .binary rest
    else decimal cs
  | cs => decimal cs

end Numeral

/-! ## Texts -/

namespace Quotation

/-- The letters that may stand before a quote, in lower case. -/
def prefixes : List (List Char) :=
  [[], ['r'], ['u'], ['b'], ['f'], ['b', 'r'], ['r', 'b'], ['f', 'r'], ['r', 'f']]

/-- Whether a character is a quote. -/
def isQuote (c : Char) : Bool := c == '"' || c == '\''

/-- The letters before the quote of a text that comes first, in lower case. -/
def letters? (cs : List Char) : Option (List Char) :=
  prefixes.find? (fun p =>
    (cs.take p.length).map Char.toLower == p && (cs.drop p.length).head?.any isQuote)

/-- Counts on from `n` up to and with the quote that ends a text on one line, or up to what keeps it
    from ending. -/
def shortEnd (quote : Char) (n : Nat) : List Char → Except Nat Nat
  | [] => .error n
  | '\n' :: _ => .error n
  | '\\' :: [] => .error (n + 1)
  | '\\' :: _ :: rest => shortEnd quote (n + 2) rest
  | c :: rest => if c == quote then .ok (n + 1) else shortEnd quote (n + 1) rest

/-- Counts on from `n` up to and with the three quotes that end a text, or up to the end. -/
def longEnd (quote : Char) (n : Nat) : List Char → Except Nat Nat
  | [] => .error n
  | '\\' :: [] => .error (n + 1)
  | '\\' :: _ :: rest => longEnd quote (n + 2) rest
  | c :: rest =>
    if c == quote && (rest.take 2) == [quote, quote] then .ok (n + 3)
    else longEnd quote (n + 1) rest

/-- The number of quotes that surround a text: the characters start with the first of them. -/
def quotesOf (quote : Char) (cs : List Char) : Nat :=
  if cs.take 3 == [quote, quote, quote] then 3 else 1

/-- The length of a text with its quotes, or how far it was read in vain. -/
def length (quote : Char) (cs : List Char) : Except Nat Nat :=
  if quotesOf quote cs == 3 then longEnd quote 3 (cs.drop 3) else shortEnd quote 1 (cs.drop 1)

end Quotation

/-! ## Words -/

/-- The index of the first character that keeps characters from being an identifier. -/
def intruder? (word : List Char) : Option (Nat × Char) :=
  match word with
  | [] => none
  | c :: rest =>
    if !Text.isIdentifierStart c then some (0, c)
    else match rest.findIdx? (!Text.isIdentifierPart ·), rest.find? (!Text.isIdentifierPart ·) with
      | some i, some d => some (i + 1, d)
      | _, _ => none

/-- The refusal of a character. -/
def refuseChar (c : Char) (n : Nat) : Refusal :=
  (if Text.isPrintable c then .invalidCharacter c else .nonPrintable c, some n)

/-- The length of the word at the beginning. -/
def wordLength (cs : List Char) : Except Refusal Nat :=
  let word := cs.takeWhile isWordPart
  match intruder? word with
  | some (i, c) => .error (refuseChar c (i + 1))
  | none => .ok word.length

/-! ## Operators -/

/-- The operators of several characters, the longer ones first. -/
def longOperators : List (List Char) := [
  "**=".toList, "//=".toList, "<<=".toList, ">>=".toList, "...".toList,
  "!=".toList, "%=".toList, "&=".toList, "**".toList, "*=".toList, "+=".toList, "-=".toList,
  "->".toList, "//".toList, "/=".toList, ":=".toList, "<<".toList, "<=".toList, "<>".toList,
  "==".toList, ">=".toList, ">>".toList, "@=".toList, "^=".toList, "|=".toList]

/-- The number of characters of the operator at the beginning. -/
def operatorLength (cs : List Char) : Nat :=
  match longOperators.find? (·.isPrefixOf cs) with
  | some op => op.length
  | none => 1

end SpriteStage.Script
