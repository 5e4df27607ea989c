import SpriteStage.Text.Blank
import SpriteStage.Number.Numeral

/-!
# Decimal digits of all scripts

Numerals in text that people type may use the decimal digits of any script.  They are read by
putting the ASCII digit of the same value in the place of each, and the ASCII blank in the place of
each other blank.
-/

namespace SpriteStage.Text

/-- The zeros of the decimal digits past ASCII; the nine digits above each follow it. -/
def digitZeros : List Nat := [
  0x660, 0x6F0, 0x7C0, 0x966, 0x9E6, 0xA66, 0xAE6, 0xB66, 0xBE6, 0xC66, 0xCE6, 0xD66, 0xDE6, 0xE50,
  0xED0, 0xF20, 0x1040, 0x1090, 0x17E0, 0x1810, 0x1946, 0x19D0, 0x1A80, 0x1A90, 0x1B50, 0x1BB0,
  0x1C40, 0x1C50, 0xA620, 0xA8D0, 0xA900, 0xA9D0, 0xA9F0, 0xAA50, 0xABF0, 0xFF10, 0x104A0, 0x10D30,
  0x11066, 0x110F0, 0x11136, 0x111D0, 0x112F0, 0x11450, 0x114D0, 0x11650, 0x116C0, 0x11730,
  0x118E0, 0x11950, 0x11C50, 0x11D50, 0x11DA0, 0x16A60, 0x16AC0, 0x16B50, 0x1D7CE, 0x1D7D8,
  0x1D7E2, 0x1D7EC, 0x1D7F6, 0x1E140, 0x1E2F0, 0x1E950, 0x1FBF0]

/-- The value of a decimal digit of any script. -/
def decimalDigit? (c : Char) : Option Nat :=
  if c.isDigit then some (c.toNat - '0'.toNat)
  else (digitZeros.find? (fun z => z ≤ c.toNat && c.toNat ≤ z + 9)).map (c.toNat - ·)

/-- The ASCII digit or blank that stands for a character, or the character itself. -/
def toAsciiNumeral (c : Char) : Char :=
  if c.toNat < 0x80 then c
  else if isBlank c then ' '
  else match decimalDigit? c with
    | some d => Char.ofNat ('0'.toNat + d)
    | none => c

/-- Whether a character is one of the six blanks of ASCII that may surround a numeral. -/
def isAsciiBlank (c : Char) : Bool :=
  c == ' ' || (9 ≤ c.toNat && c.toNat ≤ 13)

/-- A text as a numeral: ASCII digits, without the surrounding blanks.  The separators from file to
    unit of ASCII do not count as blanks here. -/
def numeralOf (s : String) : List Char :=
  let cs := s.toList.map toAsciiNumeral
  ((cs.dropWhile isAsciiBlank).reverse.dropWhile isAsciiBlank).reverse

/-- The double that a text writes, blanks around it being allowed. -/
def double? (s : String) : Option Float := Numeral.double? (numeralOf s)

/-- The integer that a text writes in base ten, blanks around it being allowed. -/
def integer? (s : String) : Option Int := Numeral.integer? (numeralOf s)

end SpriteStage.Text
