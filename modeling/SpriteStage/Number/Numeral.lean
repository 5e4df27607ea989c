import SpriteStage.Number.Exact

/-!
# Reading numerals

Numerals are sequences of digits in which single underscores may stand between two digits.  This
module reads naturals, signed integers and doubles from them; a double is the one nearest to the
decimal that is written.
-/

namespace SpriteStage.Numeral

/-- The value of a digit in a base of at most thirty-six. -/
def digitValue? (base : Nat) (c : Char) : Option Nat :=
  let v :=
    if '0' ≤ c ∧ c ≤ '9' then some (c.toNat - '0'.toNat)
    else if 'a' ≤ c ∧ c ≤ 'z' then some (c.toNat - 'a'.toNat + 10)
    else if 'A' ≤ c ∧ c ≤ 'Z' then some (c.toNat - 'A'.toNat + 10)
    else none
  v.filter (· < base)

/-- Whether a character is a digit in a base. -/
def isDigit (base : Nat) (c : Char) : Bool := (digitValue? base c).isSome

/-- The natural that digits write, underscores being skipped. -/
def valueOf (base : Nat) (cs : List Char) : Nat :=
  cs.foldl (fun n c => match digitValue? base c with
    | some d => n * base + d
    | none => n) 0

/-- Whether the characters are digits with single underscores only between two digits. -/
def isGrouped (base : Nat) : List Char → Bool
  | [] => false
  | c :: rest => isDigit base c && go rest
where
  go : List Char → Bool
    | [] => true
    | '_' :: c :: rest => isDigit base c && go rest
    | c :: rest => isDigit base c && go rest

/-- The natural that grouped digits write. -/
def natural? (base : Nat) (cs : List Char) : Option Nat :=
  if isGrouped base cs then some (valueOf base cs) else none

/-- Splits a leading sign off. -/
def sign : List Char → Bool × List Char
  | '-' :: rest => (true, rest)
  | '+' :: rest => (false, rest)
  | cs => (false, cs)

/-- The integer that an optional sign and grouped decimal digits write. -/
def integer? (cs : List Char) : Option Int :=
  let (negative, rest) := sign cs
  (natural? 10 rest).map (Exact.signed negative)

/-- The double nearest to `m * 10 ^ e`.  What is at least `10 ^ 309` or less than `10 ^ (-324)` needs no
    power to be worked out. -/
def scaled (m : Nat) (e : Int) : Float :=
  let point := (Nat.toDigits 10 m).length + e
  if m = 0 ∨ point ≤ -324 then Double.zero false
  else if 310 ≤ point then Double.infinity false
  else Float.ofScientific m (e < 0) e.natAbs

/-- Splits at the first character with a property; the character itself is dropped. -/
def cut (p : Char → Bool) (cs : List Char) : List Char × Option (List Char) :=
  match cs.dropWhile (!p ·) with
  | [] => (cs, none)
  | _ :: rest => (cs.takeWhile (!p ·), some rest)

/-- The double that an unsigned decimal numeral writes: grouped digits, a point with grouped digits
    on at least one side, and an exponent after `e` or `E`. -/
def unsigned? (cs : List Char) : Option Float := do
  let (mantissa, exponent) := cut (fun c => c = 'e' ∨ c = 'E') cs
  let e ← match exponent with
    | none => some 0
    | some ds => integer? ds
  let (whole, fraction) := cut (· = '.') mantissa
  let fraction := fraction.getD []
  guard (!(whole.isEmpty && fraction.isEmpty))
  guard (whole.isEmpty || isGrouped 10 whole)
  guard (fraction.isEmpty || isGrouped 10 fraction)
  let places := (fraction.filter (· ≠ '_')).length
  some (scaled (valueOf 10 (whole ++ fraction)) (e - places))

/-- The double that a text without surrounding blanks writes: a signed numeral, or one of the words
    for infinity and not-a-number in either case. -/
def double? (cs : List Char) : Option Float :=
  let (negative, rest) := sign cs
  let word := rest.map Char.toLower
  if word = "inf".toList ∨ word = "infinity".toList then some (Double.infinity negative)
  else if word = "nan".toList then some Double.nan
  else (unsigned? rest).map (fun x => if negative then -x else x)

end SpriteStage.Numeral
