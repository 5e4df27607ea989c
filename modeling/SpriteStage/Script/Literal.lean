import SpriteStage.Script.Token.Lexeme
import SpriteStage.Number.Decimal
import SpriteStage.Number.Numeral
import SpriteStage.Value.Basic
import SpriteStage.Text.CharacterName
import SpriteStage.Text.Quoted

/-!
# Literals

What numerals and quoted texts stand for.  A script knows more literals than a program has values:
imaginary numbers, bytes and the ellipsis are read, but no program may use them.

The expressions within a text are left out: such a text is passed as a whole, whatever it holds, and no program
may use it either.
-/

namespace SpriteStage.Script

/-- A constant of a script. -/
inductive Literal where
  | value (v : Value)
  | ellipsis
  | imaginary (x : Float)
  | bytes (bs : List UInt8)
  deriving Inhabited

/-- An imaginary number drops the fraction of an integral double. -/
def Literal.imaginaryFormat : FloatFormat := { keepsPoint := false }

/-- How a constant is shown that is no value of a program. -/
def Literal.shown : Literal → String
  | .value _ => "None"
  | .ellipsis => "Ellipsis"
  | .imaginary x => Literal.imaginaryFormat.render x ++ "j"
  | .bytes bs => Text.quoteBytes bs

/-! ## Numerals -/

/-- The base of a numeral and its digits. -/
def radixOf : List Char → Nat × List Char
  | '0' :: x :: rest =>
    if x == 'x' || x == 'X' then (16, rest)
    else if x == 'o' || x == 'O' then (8, rest)
    else if x == 'b' || x == 'B' then (2, rest)
    else (10, '0' :: x :: rest)
  | cs => (10, cs)

/-- What a numeral stands for.  An integer in base ten may have only so many digits, unless all of
    them are zeros. -/
def Literal.ofNumeral (cs : List Char) : Except Cause Literal :=
  let cs := cs.filter (· != '_')
  let (base, digits) := radixOf cs
  if base != 10 then .ok (.value (.int (Numeral.valueOf base digits)))
  else if cs.all Char.isDigit then
    if cs.length > digitLimit && cs.any (· != '0') then .error (.numeralTooLong cs.length)
    else .ok (.value (.int (Numeral.valueOf 10 cs)))
  else
    match cs.reverse with
    | 'j' :: rest | 'J' :: rest =>
      .ok (.imaginary ((Numeral.unsigned? rest.reverse).getD Double.nan))
    | _ => .ok (.value (.float ((Numeral.unsigned? cs).getD Double.nan)))

/-! ## Texts -/

namespace Quotation

/-- What a single character after a backslash stands for. -/
def simpleEscape? : Char → Option Char
  | '\\' => some '\\'
  | '\'' => some '\''
  | '"' => some '"'
  | 'a' => some '\x07'
  | 'b' => some '\x08'
  | 'f' => some '\x0c'
  | 'n' => some '\n'
  | 'r' => some '\r'
  | 't' => some '\t'
  | 'v' => some '\x0b'
  | _ => none

/-- Whether a character is a digit in base eight. -/
def isOctal (c : Char) : Bool := '0' ≤ c && c < '8'

/-- The digits in base eight that come first, at most three. -/
def octalDigits (cs : List Char) : List Char := (cs.take 3).takeWhile isOctal

/-- The number of digits after the letter of an escape of a code point. -/
def escapeWidth? : Char → Option Nat
  | 'x' => some 2
  | 'u' => some 4
  | 'U' => some 8
  | _ => none

/-- The refusal of an escape that takes `read` bytes from the position `start` on. -/
def refuseEscape (start read : Nat) (reason : String) : Cause :=
  .undecodableText s!"bytes in position {start}-{start + read - 1}: {reason}"

/-- The code point of an escape with the letter `letter`, which is followed by `width` digits. -/
def codeEscape (start width : Nat) (letter : Char) (cs : List Char) : Except Cause Nat :=
  let digits := (cs.take width).takeWhile (Numeral.isDigit 16)
  if digits.length < width then
    .error (refuseEscape start (digits.length + 2)
      ("truncated \\" ++ String.ofList (letter :: List.replicate width 'X') ++ " escape"))
  else
    let n := Numeral.valueOf 16 digits
    if n > 0x10FFFF then .error (refuseEscape start (width + 2) "illegal Unicode character")
    else .ok n

/-- The number of bytes that a character counts for in the positions of escapes. -/
def escapeBytes (c : Char) : Nat := if c.toNat < 0x80 then 1 else 10

/-- The number of bytes that characters count for; a backslash counts for more before a character that is
    not in ASCII. -/
def escapesBytes : List Char → Nat
  | '\\' :: c :: rest => (if c.toNat < 0x80 then 1 else 6) + escapeBytes c + escapesBytes rest
  | c :: rest => escapeBytes c + escapesBytes rest
  | [] => 0

/-- The code point of an escape by name, the characters after it, and the bytes that it takes. -/
def nameEscape (start : Nat) (cs : List Char) : Except Cause (Nat × List Char × Nat) :=
  let malformed := "malformed \\N character escape"
  match cs with
  | '\x7b' :: rest =>
    let name := rest.takeWhile (· ≠ '\x7d')
    let read := 3 + escapesBytes name
    match rest.dropWhile (· ≠ '\x7d') with
    | [] => .error (refuseEscape start read malformed)
    | _ :: rest =>
      if name.isEmpty then .error (refuseEscape start read malformed)
      else match Text.characterNamed? name with
        | some n => .ok (n, rest, read + 1)
        | none => .error (refuseEscape start (read + 1) "unknown Unicode character name")
  | _ => .error (refuseEscape start 2 malformed)

/-- The code points of a text with escapes, the first one having the position `start`. -/
def unescape : Nat → Nat → List Char → Except Cause (List Nat)
  | 0, _, _ => .ok []
  | fuel + 1, start, cs =>
    match cs with
    | [] => .ok []
    | '\\' :: c :: rest =>
      if c == '\n' then unescape fuel (start + 2) rest
      else if isOctal c then
        let digits := octalDigits (c :: rest)
        (Numeral.valueOf 8 digits :: ·) <$>
          unescape fuel (start + 1 + digits.length) ((c :: rest).drop digits.length)
      else match simpleEscape? c, escapeWidth? c with
        | some d, _ => (d.toNat :: ·) <$> unescape fuel (start + 2) rest
        | none, some width => do
          let n ← codeEscape start width c rest
          return n :: (← unescape fuel (start + 2 + width) (rest.drop width))
        | none, none =>
          if c == 'N' then do
            let (n, rest, read) ← nameEscape start rest
            return n :: (← unescape fuel (start + read) rest)
          else
            -- What is no escape stays as it is, with its backslash.
            let bytes := if c.toNat < 0x80 then 1 else 6
            ('\\'.toNat :: ·) <$> unescape fuel (start + bytes) (c :: rest)
    | c :: rest => (c.toNat :: ·) <$> unescape fuel (start + escapeBytes c) rest

/-- Whether a code point is a surrogate, which is half of a pair and no character. -/
def isSurrogate (n : Nat) : Bool := 0xD800 ≤ n && n < 0xE000

/-- The character of a code point.  A surrogate has none; a text has the replacement character there. -/
def charOfCode (n : Nat) : Char := if n.isValidChar then Char.ofNat n else Char.ofNat 0xFFFD

/-- A character is that of its code point. -/
@[simp] theorem charOfCode_toNat (c : Char) : charOfCode c.toNat = c := by
  rw [charOfCode, if_pos (show c.toNat.isValidChar from c.valid), Char.ofNat_toNat]

/-- The text of code points. -/
def textOf (codes : List Nat) : String := String.ofList (codes.map charOfCode)

@[simp] theorem textOf_map_toNat (cs : List Char) : textOf (cs.map Char.toNat) = String.ofList cs := by
  simp [textOf, Function.comp_def]

/-- The byte of a character. -/
def byteOf (c : Char) : UInt8 := UInt8.ofNat c.toNat

/-- The bytes of a text with escapes, the first one having the position `start`. -/
def unescapeBytes : Nat → Nat → List Char → Except Cause (List UInt8)
  | 0, _, _ => .ok []
  | fuel + 1, start, cs =>
    match cs with
    | [] => .ok []
    | '\\' :: c :: rest =>
      if c == '\n' then unescapeBytes fuel (start + 2) rest
      else if isOctal c then
        let digits := octalDigits (c :: rest)
        (UInt8.ofNat (Numeral.valueOf 8 digits) :: ·) <$>
          unescapeBytes fuel (start + 1 + digits.length) ((c :: rest).drop digits.length)
      else if c == 'x' then
        let digits := (rest.take 2).takeWhile (Numeral.isDigit 16)
        if digits.length < 2 then .error (.undecodableBytes start)
        else (UInt8.ofNat (Numeral.valueOf 16 digits) :: ·) <$>
          unescapeBytes fuel (start + 4) (rest.drop 2)
      else match simpleEscape? c with
        | some d => (byteOf d :: ·) <$> unescapeBytes fuel (start + 2) rest
        | none => (byteOf '\\' :: ·) <$> unescapeBytes fuel (start + 1) (c :: rest)
    | c :: rest => (byteOf c :: ·) <$> unescapeBytes fuel (start + 1) rest

end Quotation

/-- The letters before a quoted text, in lower case, and the characters between its quotes. -/
def Quotation.parts (cs : List Char) : List Char × List Char :=
  let letters := (letters? cs).getD []
  let quoted := cs.drop letters.length
  let quotes := quotesOf (quoted.head?.getD '"') quoted
  (letters, (quoted.drop quotes).take (quoted.length - 2 * quotes))

/-- What a quoted text stands for. -/
inductive QuotedPart where
  | text (codes : List Nat)
  | bytes (bs : List UInt8)
  /-- A text with expressions in it.  What stands between its braces is left out. -/
  | template

/-- Reads a quoted text. -/
def QuotedPart.ofToken (cs : List Char) : Except Cause QuotedPart :=
  let (letters, body) := Quotation.parts cs
  let isRaw := letters.contains 'r'
  if letters.contains 'b' then
    if body.any (fun c => 0x80 ≤ c.toNat) then .error .nonAsciiBytes
    else if isRaw then .ok (.bytes (body.map Quotation.byteOf))
    else .bytes <$> Quotation.unescapeBytes body.length 0 body
  else if letters.contains 'f' then .ok .template
  else if isRaw then .ok (.text (body.map Char.toNat))
  else .text <$> Quotation.unescape body.length 0 body

/-- Whether a quoted text has a surrogate in it. -/
def QuotedPart.hasSurrogate : QuotedPart → Bool
  | .text codes => codes.any Quotation.isSurrogate
  | .bytes _ | .template => false

end SpriteStage.Script
