import SpriteStage.Text.Mark
import SpriteStage.Text.Variant

/-!
# Normal forms of identifiers

An identifier may be written in several ways: with other shapes of its letters, or with marks that stand
apart.  All of them have the same normal form, which is NFKC: each character is taken apart, the marks of
each letter are put in order, and letters and marks are put together again.

## Main definitions

* `Text.normalForm` is the normal form of an identifier
* `Text.IsNormal` says that an identifier is its own normal form
-/

namespace SpriteStage.Text

/-- The class of a mark; characters that are no marks have the class zero. -/
def markClass (c : Nat) : Nat :=
  match combiningClasses.find? (fun (first, last, _) => first ≤ c && c ≤ last) with
  | some (_, _, k) => k
  | none => 0

/-! ## Syllables -/

/-- The first of the Hangul syllables, which are in the order of their parts. -/
def firstSyllable : Nat := 0xAC00

/-- The first of the leading consonants; there are 19 of them. -/
def firstLead : Nat := 0x1100

/-- The first of the vowels; there are 21 of them. -/
def firstVowel : Nat := 0x1161

/-- The place before the first of the 27 trailing consonants. -/
def noTrail : Nat := 0x11A7

/-- Whether a character is a Hangul syllable. -/
def isSyllable (c : Nat) : Bool := firstSyllable ≤ c && c < firstSyllable + 19 * 21 * 28

/-- The two or three parts of a syllable. -/
def syllableParts (c : Nat) : List Nat :=
  let n := c - firstSyllable
  let parts := [firstLead + n / (21 * 28), firstVowel + n / 28 % 21]
  if n % 28 = 0 then parts else parts ++ [noTrail + n % 28]

/-- A syllable of a consonant and a vowel, or of a syllable without a trailing consonant and one. -/
def syllable? (a b : Nat) : Option Nat :=
  if firstLead ≤ a && a < firstLead + 19 && firstVowel ≤ b && b < firstVowel + 21 then
    some (firstSyllable + ((a - firstLead) * 21 + (b - firstVowel)) * 28)
  else if isSyllable a && (a - firstSyllable) % 28 == 0 && noTrail < b && b < noTrail + 28 then
    some (a + (b - noTrail))
  else none

/-! ## Taking characters apart -/

/-- The characters that a character of an identifier is made of, if it has up to `depth` marks. -/
def decompose : Nat → Nat → List Nat
  | 0, c => [c]
  | depth + 1, c =>
    if isSyllable c then syllableParts c
    else match composites.find? (·.2.2 == c) with
      | some (a, b, _) => decompose depth a ++ decompose depth b
      | none =>
        match variants.find? (fun (first, last, _) => first ≤ c && c ≤ last) with
        | some (first, _, target) => [target + (c - first)]
        | none => ((ligatures.find? (·.1 == c)).map (·.2)).getD [c]

/-- The most marks that a single character of an identifier has. -/
def mostMarks : Nat := 3

/-- Puts a character before others, but after the marks of a lower class if it is a mark. -/
def insertMark (c : Nat) : List Nat → List Nat
  | [] => [c]
  | d :: rest =>
    if 0 < markClass d && markClass d < markClass c then d :: insertMark c rest else c :: d :: rest

/-- The characters with the marks of each letter in the order of their classes. -/
def orderMarks (cs : List Nat) : List Nat := cs.foldr insertMark []

/-! ## Putting characters together -/

/-- The character that stands for two. -/
def compose? (a b : Nat) : Option Nat :=
  match syllable? a b with
  | some c => some c
  | none => (composites.find? (fun (letter, mark, _) => letter == a && mark == b)).map (·.2.2)

/-- Puts a letter together with what follows it; `marks` stand between and could not be put together with
    it. -/
def composeFrom (letter : Nat) (marks : List Nat) : List Nat → List Nat
  | [] => letter :: marks
  | c :: rest =>
    -- A mark of the same class, or of a higher one, keeps a mark from its letter.
    let isBlocked := marks.getLast?.any fun d => markClass c ≤ markClass d
    match if isBlocked then none else compose? letter c with
    | some both => composeFrom both marks rest
    | none =>
      if markClass c = 0 then letter :: marks ++ composeFrom c [] rest
      else composeFrom letter (marks ++ [c]) rest

/-- Puts letters and their marks together. -/
def compose : List Nat → List Nat
  | [] => []
  | c :: rest => composeFrom c [] rest

/-! ## Normal forms -/

/-- The normal form of an identifier. -/
def normalForm (cs : List Char) : List Char :=
  if cs.all (·.toNat < 0x80) then cs
  else (compose (orderMarks (cs.flatMap fun c => decompose (mostMarks + 1) c.toNat))).map Char.ofNat

/-- An identifier is its own normal form. -/
def IsNormal (cs : List Char) : Prop := normalForm cs = cs

instance (cs : List Char) : Decidable (IsNormal cs) := inferInstanceAs (Decidable (normalForm cs = cs))

/-- A ligature, a letter of another width, and a letter before its mark. -/
example : normalForm "ﬁｎe\u0301".toList = "finé".toList := by decide +kernel

end SpriteStage.Text
