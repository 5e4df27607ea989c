import Mathlib
import SpriteStage.Number.Decimal

/-!
# Rounding to doubles

A product or a quotient of doubles is worked out as a mantissa with two bits that tell what was cut
off.  This module says what the two bits know of the exact value, and concludes which exact values
are rounded to a double: those of its rounding interval.

## Main definitions

* `Describes` tells what a mantissa with its two bits knows of a fraction
* `Canonical` tells which mantissa and exponent a finite double has
* `RoundsTo` is the rounding interval of a double
-/

namespace SpriteStage

open Float.Model (Format totalExponent)
open Float.Model.UnpackedFloat

/-! ## Rounding to naturals -/

theorem Decimal.roundHalfEven_cases (a b : ℕ) :
    (2 * (a % b) < b ∧ roundHalfEven a b = a / b) ∨
      (2 * (a % b) = b ∧ roundHalfEven a b = if a / b % 2 = 0 then a / b else a / b + 1) ∨
      (b < 2 * (a % b) ∧ roundHalfEven a b = a / b + 1) := by
  rw [roundHalfEven]
  rcases hcompare : compare (2 * (a % b)) b with _ | _ | _
  · exact .inl ⟨Nat.compare_eq_lt.1 hcompare, rfl⟩
  · exact .inr (.inl ⟨Nat.compare_eq_eq.1 hcompare, rfl⟩)
  · exact .inr (.inr ⟨Nat.compare_eq_gt.1 hcompare, rfl⟩)

/-- A fraction that is at most half a unit away from a natural is rounded to it, one that is exactly
    half a unit away only if the natural is even. -/
theorem Decimal.roundHalfEven_eq {a b n : ℕ} (hb : 0 < b) (hlower : 2 * n * b ≤ 2 * a + b)
    (hupper : 2 * a ≤ 2 * n * b + b)
    (hodd : n % 2 = 1 → 2 * n * b < 2 * a + b ∧ 2 * a < 2 * n * b + b) :
    Decimal.roundHalfEven a b = n := by
  have hdiv : b * (a / b) + a % b = a := Nat.div_add_mod a b
  have hrest : a % b < b := Nat.mod_lt a hb
  -- The whole part is the natural or one less.
  have hle : a / b ≤ n := by
    by_contra hlt
    have hmul : b * (n + 1) ≤ b * (a / b) := Nat.mul_le_mul_left b (by omega)
    have hexpand : b * (n + 1) = n * b + b := by ring
    have hdouble : 2 * n * b = 2 * (n * b) := by ring
    omega
  have hge : n ≤ a / b + 1 := by
    by_contra hlt
    have hmul : b * (a / b + 2) ≤ b * n := Nat.mul_le_mul_left b (by omega)
    have hexpand : b * (a / b + 2) = b * (a / b) + 2 * b := by ring
    have hdouble : 2 * n * b = 2 * (b * n) := by ring
    omega
  have hn : n = a / b ∧ 2 * n * b = 2 * (b * (a / b)) ∨
      n = a / b + 1 ∧ 2 * n * b = 2 * (b * (a / b)) + 2 * b := by
    rcases Nat.lt_or_eq_of_le hle with hlt | heq
    · have hnext : n = a / b + 1 := by omega
      exact .inr ⟨hnext, by rw [hnext]; ring⟩
    · exact .inl ⟨heq.symm, by rw [← heq]; ring⟩
  -- Only in the middle between two naturals does it matter which of them is even.
  rcases roundHalfEven_cases a b with ⟨hrest, hrounded⟩ | ⟨hrest, hrounded⟩ | ⟨hrest, hrounded⟩
  · rw [hrounded]
    omega
  · rw [hrounded]
    split <;> omega
  · rw [hrounded]
    omega

/-! ## What was cut off -/

/-- A mantissa with a round bit and a sticky bit describes a fraction: the mantissa is the whole part,
    and the bits tell how the rest compares with nothing and with a half. -/
structure Describes (x : ExtendedMantissa) (a b : ℕ) : Prop where
  mantissa : x.mantissa = a / b
  roundBit : x.roundBit = decide (b ≤ 2 * (a % b))
  stickyBit : x.stickyBit = decide (2 * (a % b) ≠ 0 ∧ 2 * (a % b) ≠ b)

namespace Describes

variable {x : ExtendedMantissa} {a b : ℕ}

theorem ofFraction (hb : 0 < b) :
    Describes (.ofMantissaAndAccuracy (a / b) (accuracyOfFraction (a % b) b)) a b := by
  by_cases hzero : a % b = 0
  · have hround : ¬ b ≤ 2 * (a % b) := by omega
    constructor <;> simp [accuracyOfFraction, ExtendedMantissa.ofMantissaAndAccuracy, hzero, hb.ne']
  · rcases hcompare : compare (2 * (a % b)) b with _ | _ | _
    · have hlt := Nat.compare_eq_lt.1 hcompare
      constructor <;>
        simp [accuracyOfFraction, ExtendedMantissa.ofMantissaAndAccuracy, hzero, hcompare] <;> omega
    · have heq := Nat.compare_eq_eq.1 hcompare
      constructor <;>
        simp [accuracyOfFraction, ExtendedMantissa.ofMantissaAndAccuracy, hzero, hcompare] <;> omega
    · have hgt := Nat.compare_eq_gt.1 hcompare
      constructor <;>
        simp [accuracyOfFraction, ExtendedMantissa.ofMantissaAndAccuracy, hzero, hcompare] <;> omega

theorem shiftRightOne (hb : 0 < b) (h : Describes x a b) : Describes x.shiftRightOne a (b * 2) := by
  have hrest : a % b < b := Nat.mod_lt a hb
  have hmod : a % (b * 2) = a % b + b * (a / b % 2) := Nat.mod_mul
  have hdiv : a / (b * 2) = a / b / 2 := (Nat.div_div_eq_div_mul a b 2).symm
  -- Whether the last bit of the whole part is set decides about the new round bit.
  rcases Nat.mod_two_eq_zero_or_one (a / b) with hbit | hbit
  · rw [hbit, Nat.mul_zero, Nat.add_zero] at hmod
    constructor
    · simp [ExtendedMantissa.shiftRightOne, h.mantissa, hdiv]
    · simp only [ExtendedMantissa.shiftRightOne, h.mantissa, hbit, hmod]
      simp
      omega
    · simp only [ExtendedMantissa.shiftRightOne, h.roundBit, h.stickyBit, hmod, ← Bool.decide_or]
      rw [decide_eq_decide]
      omega
  · rw [hbit, Nat.mul_one] at hmod
    constructor
    · simp [ExtendedMantissa.shiftRightOne, h.mantissa, hdiv]
    · simp only [ExtendedMantissa.shiftRightOne, h.mantissa, hbit, hmod]
      simp
      omega
    · simp only [ExtendedMantissa.shiftRightOne, h.roundBit, h.stickyBit, hmod, ← Bool.decide_or]
      rw [decide_eq_decide]
      omega

/-- Cutting off bits divides the fraction by a power of two. -/
theorem shiftRight (hb : 0 < b) (h : Describes x a b) (n : ℕ) : Describes (x >>> n) a (b * 2 ^ n) := by
  -- A shift is one shift after the other, and each halves the fraction once more.
  change Describes (n.repeat ExtendedMantissa.shiftRightOne x) a (b * 2 ^ n)
  induction n with
  | zero => simpa [Nat.repeat] using h
  | succ n ih =>
    rw [Nat.repeat, Nat.pow_succ, ← Nat.mul_assoc]
    exact ih.shiftRightOne (Nat.mul_pos hb (Nat.two_pow_pos n))

/-- The mantissa is rounded as the fraction is. -/
theorem roundedMantissa (h : Describes x a b) :
    x.roundedMantissa = Decimal.roundHalfEven a b := by
  obtain ⟨m, r, s⟩ := x
  obtain ⟨rfl, hround, hsticky⟩ := h
  simp only at hround hsticky
  rcases Decimal.roundHalfEven_cases a b with ⟨hrest, hrounded⟩ | ⟨hrest, hrounded⟩ | ⟨hrest, hrounded⟩
  · have hr : r = false := by simp [hround]; omega
    rw [hrounded, hr]
    cases s <;> rfl
  · have hr : r = true := by simp [hround, hrest]
    have hs : s = false := by simp [hsticky, hrest]
    rw [hrounded, hr, hs]
    simp only [ExtendedMantissa.roundedMantissa, ExtendedMantissa.accuracy,
      Accuracy.roundToNearestEven]
    split <;> omega
  · have hr : r = true := by simp [hround]; omega
    have hs : s = true := by simp [hsticky]; omega
    rw [hrounded, hr, hs]
    rfl

end Describes

/-! ## Rounding intervals -/

/-- The mantissa and the exponent of a finite double other than zero. -/
structure Canonical (m : ℕ) (e : ℤ) : Prop where
  pos : 0 < m
  lt : m < 2 ^ 53
  exponent_ge : -1074 ≤ e
  exponent_le : e ≤ 971
  normal : 2 ^ 52 ≤ m ∨ e = -1074

/-- How many quarters of a unit the rounding interval of `m * 2 ^ e` reaches down: half a unit, or a
    quarter below a power of two, where the next double is nearer. -/
def quartersDown (m : ℕ) (e : ℤ) : ℕ := if m = 2 ^ 52 ∧ -1074 < e then 1 else 2

/-- The numbers that are rounded to the double `m * 2 ^ e`.  The ends of the interval belong to it
    if the mantissa is even. -/
structure RoundsTo (m : ℕ) (e : ℤ) (x : ℚ) : Prop where
  lower : (4 * m - quartersDown m e) * 2 ^ (e - 2) ≤ x
  upper : x ≤ (4 * m + 2) * 2 ^ (e - 2)
  odd : m % 2 = 1 → (4 * m - quartersDown m e) * 2 ^ (e - 2) < x ∧ x < (4 * m + 2) * 2 ^ (e - 2)

theorem quartersDown_le_two (m : ℕ) (e : ℤ) : quartersDown m e ≤ 2 := by
  rw [quartersDown]
  split <;> omega

theorem two_zpow_add (e d : ℤ) : (2 : ℚ) ^ (e + d) = 2 ^ d * 2 ^ e := by
  rw [zpow_add₀ two_ne_zero, mul_comm]

namespace RoundsTo

variable {m : ℕ} {e t : ℤ} {x : ℚ}

/-- A number that is rounded to a double is less than the next power of two but one. -/
theorem lt_two_zpow (hc : Canonical m e) (hx : RoundsTo m e x) : x < 2 ^ (e + 53) := by
  have hunit : (0 : ℚ) < 2 ^ (e - 2) := by positivity
  have hmantissa : (4 * m + 2 : ℚ) < 2 ^ 55 := by
    have := hc.lt
    have hnat : 4 * m + 2 < 2 ^ 55 := by omega
    exact_mod_cast hnat
  calc x ≤ (4 * m + 2) * 2 ^ (e - 2) := hx.upper
    _ < 2 ^ 55 * 2 ^ (e - 2) := mul_lt_mul_of_pos_right hmantissa hunit
    _ = 2 ^ (e + 53) := by
      rw [show e + 53 = e - 2 + (55 : ℕ) by push_cast; ring, two_zpow_add, zpow_natCast]

/-- The exponent at which a number with 53 bits is rounded is that of the double, or one less if the
    number is rounded up to a power of two. -/
theorem exponent_cases (hc : Canonical m e) (hx : RoundsTo m e x) (hmin : -1074 ≤ t)
    (hlt : x < 2 ^ (t + 53)) (hge : -1074 < t → 2 ^ (t + 52) ≤ x) :
    t = e ∨ t = e - 1 ∧ m = 2 ^ 52 ∧ -1074 < e := by
  have hunit : (0 : ℚ) < 2 ^ (e - 2) := by positivity
  have hpow : ∀ n : ℕ, (2 : ℚ) ^ (e - 2 + n) = 2 ^ n * 2 ^ (e - 2) := fun n => by
    rw [two_zpow_add, zpow_natCast]
  -- A greater exponent would need a number with one bit more than the interval has.
  have hupper : t ≤ e := by
    by_contra hgt
    have hchain : (2 : ℚ) ^ (t + 52) < 2 ^ (e + 53) :=
      lt_of_le_of_lt (hge (by have := hc.exponent_ge; omega)) (hx.lt_two_zpow hc)
    have := (zpow_lt_zpow_iff_right₀ one_lt_two).1 hchain
    omega
  rcases hupper.lt_or_eq with hlt' | heq
  · right
    have hnormal : 2 ^ 52 ≤ m := hc.normal.resolve_right (by omega)
    -- One bit less is enough only if the interval reaches below a power of two.
    have hpower : m = 2 ^ 52 := by
      by_contra hne
      have hmantissa : (2 ^ 54 : ℚ) ≤ 4 * m - quartersDown m e := by
        have hdown := quartersDown_le_two m e
        have hnat : 2 ^ 54 + quartersDown m e ≤ 4 * m := by omega
        have hcast : (2 ^ 54 + quartersDown m e : ℚ) ≤ 4 * m := by exact_mod_cast hnat
        linarith
      have hchain : (2 : ℚ) ^ (e - 2 + (54 : ℕ)) < 2 ^ (t + 53) := by
        rw [hpow]
        exact lt_of_le_of_lt ((mul_le_mul_of_nonneg_right hmantissa hunit.le).trans hx.lower) hlt
      have := (zpow_lt_zpow_iff_right₀ one_lt_two).1 hchain
      push_cast at this
      omega
    have hmin' : -1074 < e := by omega
    refine ⟨?_, hpower, hmin'⟩
    have hmantissa : (2 ^ 53 : ℚ) ≤ 4 * m - quartersDown m e := by
      rw [quartersDown, if_pos ⟨hpower, hmin'⟩, hpower]
      norm_num
    have hchain : (2 : ℚ) ^ (e - 2 + (53 : ℕ)) < 2 ^ (t + 53) := by
      rw [hpow]
      exact lt_of_le_of_lt ((mul_le_mul_of_nonneg_right hmantissa hunit.le).trans hx.lower) hlt
    have := (zpow_lt_zpow_iff_right₀ one_lt_two).1 hchain
    push_cast at this
    omega
  · exact .inl heq

end RoundsTo

/-! ## Rounding products and quotients -/

theorem targetExponent_eq (k : ℤ) : Format.binary64.targetExponent k = max (k - 53) (-1074) := rfl

section

variable {a b : ℕ} {E t : ℤ}

theorem value_at_exponent (h : E ≤ t) :
    (a / b * 2 ^ E : ℚ) = a / (b * 2 ^ (t - E).toNat : ℕ) * 2 ^ t := by
  obtain ⟨k, hk⟩ := Int.eq_ofNat_of_zero_le (sub_nonneg.2 h)
  obtain rfl : t = E + k := by omega
  have htoNat : (E + (k : ℤ) - E).toNat = k := by omega
  rw [htoNat, two_zpow_add, zpow_natCast]
  push_cast
  field_simp

/-- A number is less than its target exponent says. -/
theorem value_lt (hb : 0 < b) (ht : t = Format.binary64.targetExponent (totalExponent (a / b) E)) :
    (a / b * 2 ^ E : ℚ) < 2 ^ (t + 53) := by
  have hexponent : E + ((a / b).log2 + 1 : ℕ) ≤ t + 53 := by
    rw [targetExponent_eq, totalExponent] at ht
    push_cast
    omega
  have hfraction : (a / b : ℚ) < 2 ^ ((a / b).log2 + 1) := by
    rw [div_lt_iff₀ (by exact_mod_cast hb)]
    have hnat : a < 2 ^ ((a / b).log2 + 1) * b := by
      have hlog : a / b + 1 ≤ 2 ^ ((a / b).log2 + 1) := Nat.lt_log2_self
      calc a < b * (a / b + 1) := Nat.lt_mul_div_succ a hb
        _ ≤ b * 2 ^ ((a / b).log2 + 1) := Nat.mul_le_mul_left b hlog
        _ = 2 ^ ((a / b).log2 + 1) * b := Nat.mul_comm _ _
    exact_mod_cast hnat
  calc (a / b * 2 ^ E : ℚ) < 2 ^ ((a / b).log2 + 1) * 2 ^ E :=
        mul_lt_mul_of_pos_right hfraction (by positivity)
    _ = 2 ^ (E + ((a / b).log2 + 1 : ℕ)) := by rw [two_zpow_add, zpow_natCast]
    _ ≤ 2 ^ (t + 53) := zpow_le_zpow_right₀ one_le_two hexponent

/-- A number has 53 bits at its target exponent, unless that is the least one. -/
theorem value_ge (hE : E ≤ t) (ht : t = Format.binary64.targetExponent (totalExponent (a / b) E))
    (hmin : -1074 < t) : (2 : ℚ) ^ (t + 52) ≤ a / b * 2 ^ E := by
  have hexponent : t + 52 = E + ((a / b).log2 : ℕ) := by
    rw [targetExponent_eq, totalExponent] at ht
    omega
  -- A fraction below one has no bits before the point, so its target exponent is the least one.
  have hne : a / b ≠ 0 := by
    intro hzero
    rw [hzero, Nat.log2_zero] at hexponent
    omega
  have hlog : (2 ^ (a / b).log2 : ℚ) ≤ a / b := by
    calc (2 ^ (a / b).log2 : ℚ) ≤ ((a / b : ℕ) : ℚ) := by exact_mod_cast Nat.log2_self_le hne
      _ ≤ a / b := Nat.cast_div_le
  rw [hexponent, two_zpow_add, zpow_natCast]
  exact mul_le_mul_of_nonneg_right hlog (by positivity)

end

/-- After the first shift the mantissa is the fraction at the target exponent, rounded. -/
theorem shift_fraction {a b : ℕ} {E t : ℤ} (hb : 0 < b) (hE : E ≤ t)
    (ht : t = Format.binary64.targetExponent (totalExponent (a / b) E)) :
    (shiftToTargetExponent .binary64 (a / b) E (accuracyOfFraction (a % b) b)).1.roundedMantissa =
        Decimal.roundHalfEven a (b * 2 ^ (t - E).toNat) ∧
      (shiftToTargetExponent .binary64 (a / b) E (accuracyOfFraction (a % b) b)).2 = t := by
  rw [shiftToTargetExponent, shiftToExponent, ← ht]
  refine ⟨((Describes.ofFraction hb).shiftRight hb _).roundedMantissa, ?_⟩
  show E + ((t - E).toNat : ℤ) = t
  omega

/-- A mantissa that needs no more shifting. -/
theorem roundWithAccuracy_eq {s : Sign} {M n m : ℕ} {E t e : ℤ} {accuracy : Accuracy} (hm : 0 < m)
    (hfirst : (shiftToTargetExponent .binary64 M E accuracy).1.roundedMantissa = n)
    (hexponent : (shiftToTargetExponent .binary64 M E accuracy).2 = t)
    (hmantissa : (shiftToTargetExponent .binary64 n t .exact).1.mantissa = m)
    (hsecond : (shiftToTargetExponent .binary64 n t .exact).2 = e) :
    roundWithAccuracy .binary64 s M E accuracy = .finite s m e hm := by
  subst hfirst hexponent hmantissa hsecond
  exact dif_neg hm.ne'

/-- A mantissa of a double at its exponent needs no more shifting. -/
theorem shift_of_lt {n : ℕ} {t : ℤ} (hn : n < 2 ^ 53) (ht : -1074 ≤ t) :
    (shiftToTargetExponent .binary64 n t .exact).1.mantissa = n ∧
      (shiftToTargetExponent .binary64 n t .exact).2 = t := by
  have hlog : n.log2 < 53 := by
    by_cases hzero : n = 0
    · simp [hzero]
    · exact (Nat.log2_lt hzero).2 hn
  have hshift : (Format.binary64.targetExponent (totalExponent n t) - t).toNat = 0 := by
    rw [targetExponent_eq, totalExponent]
    omega
  rw [shiftToTargetExponent, shiftToExponent, hshift]
  exact ⟨rfl, Int.add_zero t⟩

/-- A mantissa that has been rounded up to 54 bits is shifted by one. -/
theorem shift_two_pow {t : ℤ} (ht : -1074 ≤ t) :
    (shiftToTargetExponent .binary64 (2 ^ 53) t .exact).1.mantissa = 2 ^ 52 ∧
      (shiftToTargetExponent .binary64 (2 ^ 53) t .exact).2 = t + 1 := by
  have hshift : (Format.binary64.targetExponent (totalExponent (2 ^ 53) t) - t).toNat = 1 := by
    rw [targetExponent_eq, totalExponent, Nat.log2_two_pow]
    omega
  rw [shiftToTargetExponent, shiftToExponent, hshift]
  exact ⟨rfl, rfl⟩

namespace RoundsTo

variable {m a b : ℕ} {e : ℤ}

/-- A fraction at the exponent of its double is rounded to the mantissa. -/
theorem roundHalfEven_eq (hb : 0 < b) (hx : RoundsTo m e (a / b * 2 ^ e)) :
    Decimal.roundHalfEven a b = m := by
  have hbcast : (0 : ℚ) < b := by exact_mod_cast hb
  -- The interval in quarters of a unit, with the denominator on the other side.
  have hquarter : (0 : ℚ) < 2 ^ (e - 2) := by positivity
  have hvalue : (a / b * 2 ^ e : ℚ) = 4 * a / b * 2 ^ (e - 2) := by
    rw [show e = e - 2 + (2 : ℕ) by push_cast; ring, two_zpow_add, zpow_natCast]
    ring_nf
  rw [hvalue] at hx
  have hdown : (quartersDown m e * b : ℚ) ≤ 2 * b :=
    mul_le_mul_of_nonneg_right (by exact_mod_cast quartersDown_le_two m e) hbcast.le
  have hlower : (2 * m * b : ℚ) ≤ 2 * a + b := by
    have := (le_div_iff₀ hbcast).1 (le_of_mul_le_mul_right hx.lower hquarter)
    linarith
  have hupper : (2 * a : ℚ) ≤ 2 * m * b + b := by
    have := (div_le_iff₀ hbcast).1 (le_of_mul_le_mul_right hx.upper hquarter)
    linarith
  have hodd : m % 2 = 1 → (2 * m * b : ℚ) < 2 * a + b ∧ (2 * a : ℚ) < 2 * m * b + b := by
    intro h
    have hleft := (lt_div_iff₀ hbcast).1 (lt_of_mul_lt_mul_right (hx.odd h).1 hquarter.le)
    have hright := (div_lt_iff₀ hbcast).1 (lt_of_mul_lt_mul_right (hx.odd h).2 hquarter.le)
    constructor <;> linarith
  exact Decimal.roundHalfEven_eq hb (by exact_mod_cast hlower) (by exact_mod_cast hupper)
    fun h => ⟨by exact_mod_cast (hodd h).1, by exact_mod_cast (hodd h).2⟩

/-- A fraction in the last quarter below a power of two is rounded up to it. -/
theorem roundHalfEven_two_pow (hb : 0 < b) (hpower : m = 2 ^ 52) (hmin : -1074 < e)
    (hx : RoundsTo m e (a / b * 2 ^ (e - 1))) (hlt : (a / b * 2 ^ (e - 1) : ℚ) < 2 ^ (e - 1 + 53)) :
    Decimal.roundHalfEven a b = 2 ^ 53 := by
  have hbcast : (0 : ℚ) < b := by exact_mod_cast hb
  have hquarter : (0 : ℚ) < 2 ^ (e - 2) := by positivity
  have hvalue : (a / b * 2 ^ (e - 1) : ℚ) = 2 * a / b * 2 ^ (e - 2) := by
    rw [show e - 1 = e - 2 + (1 : ℕ) by push_cast; ring, two_zpow_add, zpow_natCast]
    ring_nf
  have hlower : (2 ^ 54 * b : ℚ) ≤ 2 * a + b := by
    have hquarters := hx.lower
    rw [hvalue, quartersDown, if_pos ⟨hpower, hmin⟩, hpower] at hquarters
    have := (le_div_iff₀ hbcast).1 (le_of_mul_le_mul_right hquarters hquarter)
    push_cast at this
    linarith
  have hupper : (a : ℚ) < 2 ^ 53 * b := by
    rw [show e - 1 + 53 = e - 1 + (53 : ℕ) by push_cast; ring, two_zpow_add, zpow_natCast] at hlt
    exact (div_lt_iff₀ hbcast).1 (lt_of_mul_lt_mul_right hlt (by positivity))
  have hlower' : 2 ^ 54 * b ≤ 2 * a + b := by exact_mod_cast hlower
  have hupper' : a < 2 ^ 53 * b := by exact_mod_cast hupper
  exact Decimal.roundHalfEven_eq hb (by omega) (by omega) fun h => absurd h (by decide)

/-- **A number is rounded to the double whose rounding interval it lies in.**  The number is given
    by a whole part at an exponent, and by what the remainder of the division knows of the rest; the
    exponent must be low enough for all bits of the double. -/
theorem roundWithAccuracy {E : ℤ} (hc : Canonical m e) (hb : 0 < b)
    (hE : E ≤ Format.binary64.targetExponent (totalExponent (a / b) E))
    (hx : RoundsTo m e (a / b * 2 ^ E)) (s : Sign) :
    Float.Model.UnpackedFloat.roundWithAccuracy .binary64 s (a / b) E
      (accuracyOfFraction (a % b) b) = .finite s m e hc.pos := by
  obtain ⟨t, ht⟩ : ∃ t, t = Format.binary64.targetExponent (totalExponent (a / b) E) := ⟨_, rfl⟩
  rw [← ht] at hE
  have hmin : -1074 ≤ t := by
    rw [ht, targetExponent_eq]
    exact le_max_right _ _
  obtain ⟨hfirst, hexponent⟩ := shift_fraction hb hE ht
  obtain ⟨b', hb'⟩ : ∃ b', b' = b * 2 ^ (t - E).toNat := ⟨_, rfl⟩
  have hb'pos : 0 < b' := hb' ▸ Nat.mul_pos hb (Nat.two_pow_pos _)
  rw [← hb'] at hfirst
  have hlt := value_lt hb ht
  have hge := value_ge hE ht
  rw [value_at_exponent hE, ← hb'] at hx hlt hge
  -- The second shift does something only if the first rounding reached the next power of two.
  rcases hx.exponent_cases hc hmin hlt hge with rfl | ⟨rfl, hpower, hmin'⟩
  · obtain ⟨hmantissa, hsecond⟩ := shift_of_lt hc.lt hmin
    exact roundWithAccuracy_eq hc.pos (hfirst.trans (hx.roundHalfEven_eq hb'pos)) hexponent hmantissa
      hsecond
  · obtain ⟨hmantissa, hsecond⟩ := shift_two_pow hmin
    have hrounded := hx.roundHalfEven_two_pow hb'pos hpower hmin' hlt
    refine roundWithAccuracy_eq hc.pos (hfirst.trans hrounded) hexponent
      (hmantissa.trans hpower.symm) ?_
    rw [hsecond]
    ring

end RoundsTo

end SpriteStage
