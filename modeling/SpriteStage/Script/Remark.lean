import SpriteStage.Script.Reading

/-!
# Remarks of the reader

The reader remarks on the spelling of some tokens that it reads nevertheless: a backslash before a
character with which it makes no escape, an octal escape of more than a byte, and a numeral that runs into
a keyword.  A remark is about one token, and says nothing about the statement that the token belongs to.

Texts with expressions in them are left out here, as they are by the reader.

## Main definitions

* `Script.remarks` are the remarks on the tokens of a script
-/

namespace SpriteStage.Script

/-- What is remarked on. -/
inductive Quirk where
  /-- A backslash does not make an escape with a character. -/
  | unknownEscape (c : Char)
  /-- The digits of an octal escape stand for more than a byte. -/
  | largeEscape (digits : List Char)
  /-- A numeral of some kind runs into a keyword. -/
  | unspacedNumeral (kind : String)
  deriving DecidableEq, Repr

/-- The wording of a remark. -/
def Quirk.message : Quirk → String
  | .unknownEscape c => s!"invalid escape sequence '\\{c}'"
  | .largeEscape digits => s!"invalid octal escape sequence '\\{String.ofList digits}'"
  | .unspacedNumeral kind => s!"invalid {kind} literal"

/-- A remark on a token that starts in a line. -/
structure Remark where
  quirk : Quirk
  line : Nat
  deriving DecidableEq, Repr

namespace Quotation

/-- Whether a backslash makes an escape with a character, in bytes and elsewhere. -/
def makesEscape (inBytes : Bool) (c : Char) : Bool :=
  c == '\n' || isOctal c || (simpleEscape? c).isSome || c == 'x'
    || (!inBytes && (c == 'u' || c == 'U' || c == 'N'))

/-- What is remarked on first in a text with escapes.  A backslash before a character that is not in ASCII
    goes without a remark. -/
def quirk? (inBytes : Bool) : List Char → Option Quirk
  | '\\' :: c :: rest =>
    let digits := octalDigits (c :: rest)
    if Numeral.valueOf 8 digits > 0xFF then some (.largeEscape digits)
    else if !makesEscape inBytes c && c.toNat < 0x80 then some (.unknownEscape c)
    else quirk? inBytes rest
  | _ :: rest => quirk? inBytes rest
  | [] => none

end Quotation

/-- What remarks call a numeral. -/
def Literal.kindOf (cs : List Char) : String :=
  match (radixOf cs).1, cs.getLast? with
  | 16, _ => "hexadecimal"
  | 8, _ => "octal"
  | 2, _ => "binary"
  | _, some 'j' | _, some 'J' => "imaginary"
  | _, _ => "decimal"

namespace Token

/-- Whether a token is a text with expressions in it. -/
def isTemplate (t : Token) : Bool := t.kind == .text && (Quotation.parts t.chars).1.contains 'f'

/-- What is remarked on a token before another one. -/
def quirk? (t : Token) (next : Option Token) : Option Quirk :=
  match t.kind with
  | .text =>
    let (letters, body) := Quotation.parts t.chars
    if letters.contains 'r' || letters.contains 'f' then none
    else Quotation.quirk? (letters.contains 'b') body
  | .numeral =>
    if next.any fun u => u.kind == .keyword && u.span.start == t.span.stop then
      some (.unspacedNumeral (Literal.kindOf t.chars))
    else none
  | _ => none

end Token

/-- The remarks on tokens. -/
def remarksOn : List Token → List Remark
  | [] => []
  | t :: rest =>
    ((t.quirk? rest.head?).map fun quirk => ⟨quirk, t.span.start.line⟩).toList ++ remarksOn rest

/-- The remarks on a script. -/
def remarks (text : List Char) : List Remark := remarksOn (tokenize (readable text))

/-- Whether a script has a text with expressions in it. -/
def hasTemplate (text : List Char) : Bool := (tokenize (readable text)).any Token.isTemplate

/-- Two remarks in one line. -/
example : (remarks "raise X('\\d') from 0x1or 2".toList).map (·.quirk.message) =
    ["invalid escape sequence '\\d'", "invalid hexadecimal literal"] := by
  decide +kernel

end SpriteStage.Script
