import SpriteStage.Number.Exact

/-!
# Decimal texts of doubles

Two rules turn the exact value of a double into decimal digits.  `Decimal.shortest` finds the fewest
digits that read back as the same double, and of those the nearest; `Decimal.fixed` rounds to a
number of places, a half going to the even neighbour.  `FloatFormat` holds the choices that are left
to a format: where positional notation ends and whether a point is always shown.
-/

namespace SpriteStage

/-- A positive decimal number `digits * 10 ^ exponent`. -/
structure Decimal where
  digits : Nat
  exponent : Int
  deriving DecidableEq, Repr

namespace Decimal

/-- Whether `10 ^ k` is at most the fraction `a / b`. -/
def powerAtMost (k : Int) (a b : Nat) : Bool :=
  if 0 ≤ k then Nat.pow 10 k.toNat * b ≤ a else b ≤ a * Nat.pow 10 (-k).toNat

/-- The least `k` from `k` upwards, in at most `fuel` steps, with `a / b < 10 ^ k`. -/
def raisePower (a b : Nat) : Nat → Int → Int
  | 0, k => k
  | fuel + 1, k => if powerAtMost k a b then raisePower a b fuel (k + 1) else k

/-- The number of digits before the point of `m * 2 ^ e`, for a positive `m`: the `k` with
    `10 ^ (k - 1) ≤ m * 2 ^ e < 10 ^ k`. -/
def magnitude (m : Nat) (e : Int) (a b : Nat) : Int :=
  let bits : Int := m.log2 + e
  -- The logarithm of two is about 0.30103; one less keeps the guess from being too high.
  raisePower a b 4 (Int.fdiv (bits * 30103) 100000 - 1)

/-- On the grid of multiples of a unit, the neighbour of `a / b` that is nearest among those that
    lie in the interval from `lo / b` to `hi / b`; of two equally near ones the even one.  The ends
    belong to the interval if `closed` is set. -/
def neighbour? (closed : Bool) (lo a hi b : Nat) : Option Nat :=
  let c := a / b
  let below := if closed then lo ≤ c * b else lo < c * b
  let above := if closed then (c + 1) * b ≤ hi else (c + 1) * b < hi
  if below && above then
    match compare (2 * (a - c * b)) b with
    | .lt => some c
    | .gt => some (c + 1)
    | .eq => some (if c % 2 = 0 then c else c + 1)
  else if below then some c
  else if above then some (c + 1)
  else none

/-- The first grid with a neighbour, from `n` significant digits on for `fuel` grids. -/
def firstGrid (closed : Bool) (lo a hi b : Nat) (k : Int) : Nat → Nat → Decimal
  | 0, n => ⟨a / b, k - n⟩
  | fuel + 1, n =>
    let unit := k - n
    let (s, t) := if 0 ≤ unit then (1, Nat.pow 10 unit.toNat) else (Nat.pow 10 (-unit).toNat, 1)
    match neighbour? closed (lo * s) (a * s) (hi * s) (b * t) with
    | some c => ⟨c, unit⟩
    | none => firstGrid closed lo a hi b k fuel (n + 1)

/-- The same number without trailing zeros among its digits. -/
def trim (d : Decimal) : Decimal :=
  go d.digits d.digits d.exponent
where
  go : Nat → Nat → Int → Decimal
    | 0, digits, e => ⟨digits, e⟩
    | fuel + 1, digits, e =>
      if digits ≠ 0 ∧ digits % 10 = 0 then go fuel (digits / 10) (e + 1) else ⟨digits, e⟩

/-- The shortest decimal that reads back as the double `m * 2 ^ e` with a positive mantissa, and
    the nearest such: the reals that round to the double reach half a unit up and half a unit down,
    or a quarter down below a power of two. -/
def shortest (m : Nat) (e : Int) : Decimal :=
  let quarter := e - 2
  let (up, b) := if 0 ≤ quarter then (Nat.pow 2 quarter.toNat, 1) else (1, Nat.pow 2 (-quarter).toNat)
  -- Below a power of two the doubles lie twice as close.
  let down := if m = Nat.pow 2 52 ∧ -1074 < e then 1 else 2
  let a := 4 * m * up
  trim (firstGrid (m % 2 = 0) ((4 * m - down) * up) a ((4 * m + 2) * up) b (magnitude m e a b) 17 1)

/-- The quotient rounded to the nearest natural, a half to the even one. -/
def roundHalfEven (a b : Nat) : Nat :=
  match compare (2 * (a % b)) b with
  | .lt => a / b
  | .gt => a / b + 1
  | .eq => if a / b % 2 = 0 then a / b else a / b + 1

/-- The decimal digits of a natural. -/
def digitsOf (n : Nat) : List Char := Nat.toDigits 10 n

/-- Digits on the left filled up with zeros to a width. -/
def padded (width n : Nat) : List Char :=
  let ds := digitsOf n
  List.replicate (width - ds.length) '0' ++ ds

/-- A magnitude `m * 2 ^ e` with exactly `places` digits after the point. -/
def fixed (places m : Nat) (e : Int) : List Char :=
  let unit := Nat.pow 10 places
  let scaled := m * unit
  let n := if 0 ≤ e then scaled * Nat.pow 2 e.toNat else roundHalfEven scaled (Nat.pow 2 (-e).toNat)
  let whole := digitsOf (n / unit)
  if places = 0 then whole else whole ++ '.' :: padded places (n % unit)

end Decimal

/-- The choices of a format for doubles: the least decimal exponent and the first one past the
    range written positionally, and whether an integral number keeps a `.0`. -/
structure FloatFormat where
  positionalFrom : Int := -4
  positionalBelow : Int := 16
  keepsPoint : Bool := true

namespace FloatFormat

/-- Positional notation of the digits with the point after `point` of them. -/
def positional (keepsPoint : Bool) (ds : List Char) (point : Int) : List Char :=
  if point ≤ 0 then
    '0' :: '.' :: List.replicate (-point).toNat '0' ++ ds
  else if ds.length ≤ point.toNat then
    ds ++ List.replicate (point.toNat - ds.length) '0' ++ (if keepsPoint then ['.', '0'] else [])
  else
    ds.take point.toNat ++ '.' :: ds.drop point.toNat

/-- Scientific notation with the decimal exponent `x`, which has a sign and two digits at least. -/
def scientific (ds : List Char) (x : Int) : List Char :=
  let mantissa := match ds with
    | [] => []
    | d :: [] => [d]
    | d :: rest => d :: '.' :: rest
  mantissa ++ 'e' :: (if x < 0 then '-' else '+') :: Decimal.padded 2 x.natAbs

/-- The text of a positive decimal. -/
def renderDecimal (f : FloatFormat) (d : Decimal) : List Char :=
  let ds := Decimal.digitsOf d.digits
  let x := ds.length + d.exponent - 1
  if f.positionalFrom ≤ x ∧ x < f.positionalBelow then positional f.keepsPoint ds (x + 1)
  else scientific ds x

/-- The text of a double: the fewest digits that read back. -/
def render (f : FloatFormat) (x : Float) : String :=
  match Exact.ofFloat x with
  | .nan => "nan"
  | .infinite n => if n then "-inf" else "inf"
  | .finite n m e =>
    let magnitude :=
      if m = 0 then (if f.keepsPoint then ['0', '.', '0'] else ['0'])
      else f.renderDecimal (Decimal.shortest m e)
    String.ofList (if n then '-' :: magnitude else magnitude)

end FloatFormat

/-- Doubles as they appear in values and payloads: positional from `1e-4` up to but excluding
    `1e16`, always with a point or an exponent. -/
def Double.format : FloatFormat := {}

/-- The text of a double in values and payloads. -/
def Double.text (x : Float) : String := Double.format.render x

/-- The text of a finite double with exactly `places` digits after the point; the infinities and
    not-a-number have no such text. -/
def Double.fixed? (places : Nat) (x : Float) : Option String :=
  match Exact.ofFloat x with
  | .finite n m e =>
    let magnitude := Decimal.fixed places m e
    some (String.ofList (if n then '-' :: magnitude else magnitude))
  | _ => none

end SpriteStage
