import SpriteStage.Number.Numeral
import SpriteStage.Text.NameTable
import SpriteStage.Text.NormalForm

/-!
# Characters by their names

A character may be asked for by its name.  The names of the Hangul syllables are put together from the
short names of their parts, those of the unified ideographs from their code points; all other names are
looked up, in capitals or not.

## Main definitions

* `Text.characterNamed?` is the code point of the character with a name
-/

namespace SpriteStage.Text

/-! ## Names that follow rules -/

/-- The short names of the leading consonants of syllables. -/
def leadNames : List String := [
  "G", "GG", "N", "D", "DD", "R", "M", "B", "BB", "S", "SS", "", "J", "JJ", "C", "K", "T", "P", "H"]

/-- The short names of the vowels of syllables. -/
def vowelNames : List String := [
  "A", "AE", "YA", "YAE", "EO", "E", "YEO", "YE", "O", "WA", "WAE", "OE", "YO", "U", "WEO", "WE", "WI",
  "YU", "EU", "YI", "I"]

/-- The short names of the trailing consonants of syllables, of which a syllable may have none. -/
def trailNames : List String := [
  "", "G", "GG", "GS", "N", "NJ", "NH", "D", "L", "LG", "LM", "LB", "LS", "LT", "LP", "LH", "M", "B",
  "BS", "S", "SS", "NG", "J", "C", "K", "T", "P", "H"]

/-- The syllable whose name ends with certain characters. -/
def syllableNamed? (cs : List Char) : Option Nat :=
  leadNames.zipIdx.findSome? fun (lead, i) =>
    vowelNames.zipIdx.findSome? fun (vowel, j) =>
      trailNames.zipIdx.findSome? fun (trail, k) =>
        if (lead ++ vowel ++ trail).toList = cs then some (firstSyllable + (i * 21 + j) * 28 + k)
        else none

/-- The stretches of the unified ideographs. -/
def ideographs : List (Nat × Nat) := [
  (0x3400, 0x4DBF), (0x4E00, 0x9FFF), (0x20000, 0x2A6DF), (0x2A700, 0x2B738), (0x2B740, 0x2B81D),
  (0x2B820, 0x2CEA1), (0x2CEB0, 0x2EBE0), (0x30000, 0x3134A)]

/-- The ideograph whose name ends with the digits of its code point. -/
def ideographNamed? (digits : List Char) : Option Nat :=
  let code := Numeral.valueOf 16 digits
  if (digits.length = 4 || digits.length = 5)
      && digits.all (fun c => Numeral.isDigit 16 c && !c.isLower)
      && ideographs.any (fun (first, last) => first ≤ code && code ≤ last) then some code
  else none

/-! ## Names that are listed -/

/-- A code point and the words of its name. -/
abbrev Named := Nat × List String

/-- What an entry of a table says after the one before it. -/
def Named.next (before : Named) (entry : String) : Named :=
  let (code, name) := match entry.toList with
    | '@' :: cs => (Numeral.valueOf 16 (cs.takeWhile (· ≠ ' ')), (cs.dropWhile (· ≠ ' ')).drop 1)
    | cs => (before.1 + 1, cs)
  let shared := before.2.take (Numeral.valueOf 10 (name.take 1))
  match name.drop 1 with
  -- The name is a part of the one before it.
  | [] => (code, shared)
  | more => (code, shared ++ (String.ofList more).splitOn " ")

/-- The code point with a name among entries. -/
def findNamed (words : List String) : Named → List String → Option Nat
  | _, [] => none
  | before, entry :: rest =>
    let named := before.next entry
    if named.2 == words then some named.1 else findNamed words named rest

/-- The code point with a name in one of the tables. -/
def listed? (cs : List Char) : Option Nat :=
  let words := (String.ofList (cs.map Char.toUpper)).splitOn " "
  (furtherNames :: characterNames).findSome? fun table =>
    findNamed words (0, []) (table.flatMap (·.splitOn ";"))

/-! ## All names -/

/-- What follows a beginning of characters. -/
def after? (beginning : String) (cs : List Char) : Option (List Char) :=
  if beginning.toList.isPrefixOf cs then some (cs.drop beginning.length) else none

/-- The code point of the character with a name. -/
def characterNamed? (cs : List Char) : Option Nat :=
  match after? "HANGUL SYLLABLE " cs, after? "CJK UNIFIED IDEOGRAPH-" cs with
  | some parts, _ => syllableNamed? parts
  | none, some digits => ideographNamed? digits
  | none, none => listed? cs

end SpriteStage.Text
