import SpriteStage.Number.Division
import SpriteStage.Proofs.Number.Order
import SpriteStage.Proofs.Number.Scientific

/-!
# The floored remainder of doubles

Rounding never passes a double that the number itself does not pass.  So the floored remainder by a
positive double is not-a-number or lies between zero and that double, which it may reach when it is
rounded.

## Main definitions

* `AtMost` holds of the parts with a sign whose magnitude does not pass that of a double

## Main results

* `AtMost.round` is the bound on rounding
* `Double.flooredMod_mem` is the bound on the remainder
-/

namespace SpriteStage

open Float.Model (Format UnpackedFloat totalExponent)
open Float.Model.UnpackedFloat

/-! ## The order of magnitudes -/

/-- What is at most a whole number is not rounded past it. -/
theorem Decimal.roundHalfEven_le {a b n : ℕ} (h : a ≤ n * b) : roundHalfEven a b ≤ n := by
  rcases Nat.eq_zero_or_pos b with rfl | hb
  · obtain rfl : a = 0 := by omega
    simp [roundHalfEven]
  · have hdiv : b * (a / b) + a % b = a := Nat.div_add_mod a b
    have hle : a / b ≤ n := Nat.div_le_of_le_mul (by rw [Nat.mul_comm]; exact h)
    rcases hle.lt_or_eq with hlt | heq
    · rcases roundHalfEven_cases a b with ⟨-, hr⟩ | ⟨-, hr⟩ | ⟨-, hr⟩ <;> rw [hr]
      · exact hle
      · split <;> omega
      · exact hlt
    · -- The whole part is the bound already, so nothing is left of the fraction.
      have hrest : a % b = 0 := by
        rw [heq, Nat.mul_comm] at hdiv
        omega
      rcases roundHalfEven_cases a b with ⟨-, hr⟩ | ⟨hhalf, -⟩ | ⟨hhalf, -⟩
      · rw [hr, heq]
      · omega
      · omega

theorem Decimal.le_roundHalfEven {a b n : ℕ} (hb : 0 < b) (h : n * b ≤ a) : n ≤ roundHalfEven a b := by
  have hle : n ≤ a / b := (Nat.le_div_iff_mul_le hb).2 h
  rcases roundHalfEven_cases a b with ⟨-, hr⟩ | ⟨-, hr⟩ | ⟨-, hr⟩ <;> rw [hr]
  · exact hle
  · split <;> omega
  · omega

/-- A whole number at a lower exponent. -/
theorem value_at_lower (n : ℕ) {d k : ℤ} (h : d ≤ k) :
    ((n * 2 ^ (k - d).toNat : ℕ) * 2 ^ d : ℚ) = n * 2 ^ k := by
  obtain ⟨j, hj⟩ := Int.eq_ofNat_of_zero_le (sub_nonneg.2 h)
  rw [hj, Int.toNat_natCast, show k = d + (j : ℤ) by omega, two_zpow_add, zpow_natCast]
  push_cast
  ring

/-- Among canonical mantissas and exponents the exponent counts first. -/
theorem Canonical.le_cases {m m' : ℕ} {e e' : ℤ} (hc : Canonical m e) (hc' : Canonical m' e')
    (h : (m' * 2 ^ e' : ℚ) ≤ m * 2 ^ e) : e' < e ∨ e' = e ∧ m' ≤ m := by
  rcases lt_trichotomy e' e with hlt | heq | hgt
  · exact .inl hlt
  · right
    subst heq
    exact ⟨rfl, by exact_mod_cast le_of_mul_le_mul_right h (by positivity)⟩
  · exfalso
    have hnormal : 2 ^ 52 ≤ m' := hc'.normal.resolve_right (by have := hc.exponent_ge; omega)
    have hpow : (2 : ℚ) ^ e * 2 ≤ 2 ^ e' := by
      rw [← zpow_add_one₀ two_ne_zero]
      exact zpow_le_zpow_right₀ one_le_two (by omega)
    have hm : (m : ℚ) < 2 ^ 53 := by exact_mod_cast hc.lt
    have hm' : (2 : ℚ) ^ 52 ≤ m' := by exact_mod_cast hnormal
    have hunit : (0 : ℚ) < 2 ^ e := by positivity
    have hlt : (m * 2 ^ e : ℚ) < m' * 2 ^ e' :=
      calc (m * 2 ^ e : ℚ) < 2 ^ 53 * 2 ^ e := mul_lt_mul_of_pos_right hm hunit
        _ = 2 ^ 52 * (2 ^ e * 2) := by ring
        _ ≤ m' * 2 ^ e' := mul_le_mul hm' hpow (by positivity) (by positivity)
    exact absurd h (not_le.2 hlt)

/-! ## Rounding below a double -/

section

variable {a b m : ℕ} {e t : ℤ}

/-- At its target exponent a number is rounded to 53 bits, or to the next power of two, or to fewer bits
    at the least exponent. -/
theorem rounded_bits (hb : 0 < b) (hmin : -1074 ≤ t) (hlt : (a / b * 2 ^ t : ℚ) < 2 ^ (t + 53))
    (hge : -1074 < t → (2 : ℚ) ^ (t + 52) ≤ a / b * 2 ^ t) :
    Decimal.roundHalfEven a b ≤ 2 ^ 53 ∧ (2 ^ 52 ≤ Decimal.roundHalfEven a b ∨ t = -1074) := by
  have hbcast : (0 : ℚ) < b := by exact_mod_cast hb
  constructor
  · rw [show t + 53 = t + (53 : ℕ) by push_cast; ring, two_zpow_add, zpow_natCast] at hlt
    have hfraction := (div_lt_iff₀ hbcast).1 (lt_of_mul_lt_mul_right hlt (by positivity))
    exact Decimal.roundHalfEven_le (by exact_mod_cast hfraction.le)
  · rcases hmin.lt_or_eq with hgt | heq
    · have hlower := hge hgt
      rw [show t + 52 = t + (52 : ℕ) by push_cast; ring, two_zpow_add, zpow_natCast] at hlower
      have hfraction := (le_div_iff₀ hbcast).1 (le_of_mul_le_mul_right hlower (by positivity))
      exact .inl (Decimal.le_roundHalfEven hb (by exact_mod_cast hfraction))
    · exact .inr heq.symm

/-- The target exponent of a number is not above that of a double which the number does not pass; there
    the double is a whole number, which is not passed by rounding either. -/
theorem rounded_le (hc : Canonical m e) (hb : 0 < b) (hmin : -1074 ≤ t)
    (hge : -1074 < t → (2 : ℚ) ^ (t + 52) ≤ a / b * 2 ^ t) (hle : (a / b * 2 ^ t : ℚ) ≤ m * 2 ^ e) :
    t ≤ e ∧ (Decimal.roundHalfEven a b * 2 ^ t : ℚ) ≤ m * 2 ^ e := by
  have hexponent : t ≤ e := by
    by_contra hgt
    have hm : (m : ℚ) < 2 ^ 53 := by exact_mod_cast hc.lt
    have hchain : (2 : ℚ) ^ (t + 52) < 2 ^ (e + 53) :=
      calc (2 : ℚ) ^ (t + 52) ≤ a / b * 2 ^ t := hge (by have := hc.exponent_ge; omega)
        _ ≤ m * 2 ^ e := hle
        _ < 2 ^ 53 * 2 ^ e := mul_lt_mul_of_pos_right hm (by positivity)
        _ = 2 ^ (e + 53) := by
          rw [show e + 53 = e + (53 : ℕ) by push_cast; ring, two_zpow_add, zpow_natCast]
    have := (zpow_lt_zpow_iff_right₀ one_lt_two).1 hchain
    omega
  refine ⟨hexponent, ?_⟩
  rw [← value_at_lower m hexponent] at hle ⊢
  have hfraction := (div_le_iff₀ (by exact_mod_cast hb)).1 (le_of_mul_le_mul_right hle (by positivity))
  have hrounded := Decimal.roundHalfEven_le (by exact_mod_cast hfraction)
  exact mul_le_mul_of_nonneg_right (by exact_mod_cast hrounded) (by positivity)

end

/-- A positive number is rounded as a fraction with the denominator one, of which nothing has been cut off. -/
theorem round_eq {M : ℕ} (hM : 0 < M) (E : ℤ) :
    ∃ (a : ℕ) (d : ℤ), (a * 2 ^ d : ℚ) = M * 2 ^ E ∧
      d ≤ Format.binary64.targetExponent (totalExponent (a / 1) d) ∧ ∀ s : Sign,
        UnpackedFloat.round .binary64 s M E =
          UnpackedFloat.roundWithAccuracy .binary64 s (a / 1) d (accuracyOfFraction (a % 1) 1) := by
  obtain ⟨t, ht⟩ : ∃ t, t = Format.binary64.targetExponent (totalExponent M E) := ⟨_, rfl⟩
  obtain ⟨k, hk⟩ : ∃ k, k = (E - t).toNat := ⟨_, rfl⟩
  have hlog : (M * 2 ^ k).log2 = M.log2 + k := by
    rw [Nat.log2_eq_iff (Nat.mul_pos hM (Nat.two_pow_pos k)).ne', Nat.pow_add, Nat.add_right_comm,
      Nat.pow_add _ (M.log2 + 1)]
    exact ⟨Nat.mul_le_mul_right _ (Nat.log2_self_le hM.ne'),
      Nat.mul_lt_mul_of_pos_right Nat.lt_log2_self (Nat.two_pow_pos k)⟩
  refine ⟨M * 2 ^ k, E - k, ?_, ?_, fun s => ?_⟩
  · rw [zpow_sub₀ two_ne_zero, zpow_natCast]
    push_cast
    field_simp
  · rw [Nat.div_one, targetExponent_eq, totalExponent]
    rw [targetExponent_eq, totalExponent] at ht
    omega
  · rw [UnpackedFloat.round, decreaseExponent]
    simp only [← ht, ← hk, Nat.shiftLeft_eq, Nat.div_one, Nat.mod_one]
    rfl

/-- Parts with a sign whose magnitude is at most `m * 2 ^ e`. -/
inductive AtMost (s : Sign) (m : ℕ) (e : ℤ) : UnpackedFloat → Prop where
  | zero : AtMost s m e (.zero s)
  | finite {m' : ℕ} {e' : ℤ} (hc : Canonical m' e') (h : (m' * 2 ^ e' : ℚ) ≤ m * 2 ^ e) :
      AtMost s m e (.finite s m' e' hc.pos)

namespace AtMost

variable {s : Sign} {m M : ℕ} {e E : ℤ} {u : UnpackedFloat}

/-- Packing loses nothing of them. -/
theorem unpack_pack (h : AtMost s m e u) : (Float.Model.pack u).unpack = u := by
  cases h with
  | zero => cases s <;> rfl
  | finite hc h => exact hc.unpack_pack s

/-- What a rounded mantissa becomes: it is shifted once more only if it has reached the next power of two. -/
theorem of_rounded {n : ℕ} {t : ℤ} {accuracy : Accuracy} (hc : Canonical m e)
    (hfirst : (shiftToTargetExponent .binary64 M E accuracy).1.roundedMantissa = n)
    (hexponent : (shiftToTargetExponent .binary64 M E accuracy).2 = t) (hmin : -1074 ≤ t)
    (hbits : n ≤ 2 ^ 53 ∧ (2 ^ 52 ≤ n ∨ t = -1074)) (hle : t ≤ e ∧ (n * 2 ^ t : ℚ) ≤ m * 2 ^ e)
    (s : Sign) : AtMost s m e (UnpackedFloat.roundWithAccuracy .binary64 s M E accuracy) := by
  have hlarge := hc.exponent_le
  rcases hbits.1.lt_or_eq with hsmall | hpower
  · obtain ⟨hmantissa, hsecond⟩ := shift_of_lt hsmall hmin
    rcases Nat.eq_zero_or_pos n with hzero | hpos
    · have hround : UnpackedFloat.roundWithAccuracy .binary64 s M E accuracy = .zero s := by
        rw [UnpackedFloat.roundWithAccuracy]
        simp only [hfirst, hexponent]
        exact dif_pos (hmantissa.trans hzero)
      rw [hround]
      exact .zero
    · rw [roundWithAccuracy_eq hpos hfirst hexponent hmantissa hsecond]
      exact .finite ⟨hpos, hsmall, hmin, hle.1.trans hlarge, hbits.2⟩ hle.2
  · subst hpower
    obtain ⟨hmantissa, hsecond⟩ := shift_two_pow hmin
    -- At the exponent of the double the next power of two would be past it.
    have hbelow : t < e := by
      by_contra hge
      obtain rfl : t = e := by omega
      have hle' : (2 ^ 53 : ℕ) ≤ m := by exact_mod_cast le_of_mul_le_mul_right hle.2 (by positivity)
      have := hc.lt
      omega
    have hvalue : ((2 ^ 52 : ℕ) * 2 ^ (t + 1) : ℚ) = (2 ^ 53 : ℕ) * 2 ^ t := by
      rw [zpow_add_one₀ two_ne_zero]
      push_cast
      ring
    rw [roundWithAccuracy_eq (by decide) hfirst hexponent hmantissa hsecond]
    exact .finite ⟨by decide, by decide, by omega, by omega, .inl le_rfl⟩ (hvalue.trans_le hle.2)

/-- A fraction that is rounded with all its bits. -/
theorem roundWithAccuracy {a b : ℕ} (hc : Canonical m e) (hb : 0 < b)
    (hE : E ≤ Format.binary64.targetExponent (totalExponent (a / b) E))
    (hle : (a / b * 2 ^ E : ℚ) ≤ m * 2 ^ e) (s : Sign) :
    AtMost s m e (UnpackedFloat.roundWithAccuracy .binary64 s (a / b) E (accuracyOfFraction (a % b) b)) := by
  obtain ⟨t, ht⟩ : ∃ t, t = Format.binary64.targetExponent (totalExponent (a / b) E) := ⟨_, rfl⟩
  rw [← ht] at hE
  have hmin : -1074 ≤ t := by
    rw [ht, targetExponent_eq]
    exact le_max_right _ _
  obtain ⟨hfirst, hexponent⟩ := shift_fraction hb hE ht
  have hbpos : 0 < b * 2 ^ (t - E).toNat := Nat.mul_pos hb (Nat.two_pow_pos _)
  have hlt := value_lt hb ht
  have hge := value_ge hE ht
  rw [value_at_exponent hE] at hlt hge hle
  exact of_rounded hc hfirst hexponent hmin (rounded_bits hbpos hmin hlt hge)
    (rounded_le hc hbpos hmin hge hle) s

/-- **Rounding does not pass a double that the number does not pass.** -/
theorem round (hM : 0 < M) (hc : Canonical m e) (hle : (M * 2 ^ E : ℚ) ≤ m * 2 ^ e) (s : Sign) :
    AtMost s m e (UnpackedFloat.round .binary64 s M E) := by
  obtain ⟨a, t, hvalue, htarget, hround⟩ := round_eq hM E
  rw [hround s]
  exact roundWithAccuracy hc Nat.one_pos htarget (by rw [Nat.cast_one, div_one]; exact hvalue.trans_le hle) s

/-- A double minus what does not pass it. -/
theorem add (hc : Canonical m e) (h : AtMost .negative m e u) :
    AtMost .positive m e (UnpackedFloat.add .binary64 u (.finite .positive m e hc.pos)) := by
  cases h with
  | zero => exact .finite hc le_rfl
  | @finite m' e' hc' h =>
    rw [UnpackedFloat.add]
    simp only [decreaseExponent, Sign.apply, Nat.shiftLeft_eq]
    obtain ⟨d, hd⟩ : ∃ d, d = min e' e := ⟨_, rfl⟩
    have hleft := value_at_lower m' (hd ▸ min_le_left e' e)
    have hright := value_at_lower m (hd ▸ min_le_right e' e)
    rw [← hd]
    obtain ⟨A, hA⟩ : ∃ A, A = m' * 2 ^ (e' - d).toNat := ⟨_, rfl⟩
    obtain ⟨B, hB⟩ : ∃ B, B = m * 2 ^ (e - d).toNat := ⟨_, rfl⟩
    rw [← hA] at hleft ⊢
    rw [← hB] at hright ⊢
    have hAB : A ≤ B := by
      rw [← hleft, ← hright] at h
      exact_mod_cast le_of_mul_le_mul_right h (by positivity)
    -- The sum is what the magnitude lacks of the divisor, or a zero.
    rcases hAB.lt_or_eq with hlt | rfl
    · have hdiff : -(A : ℤ) + (B : ℤ) = ((B - A : ℕ) : ℤ) := by omega
      have hsign : compare ((B - A : ℕ) : ℤ) 0 = .gt := compare_gt_iff_gt.2 (by omega)
      rw [hdiff, UnpackedFloat.normalize, hsign]
      refine round (by omega) hc ?_ .positive
      rw [← hright, Int.toNat_natCast]
      exact mul_le_mul_of_nonneg_right (by exact_mod_cast Nat.sub_le B A) (by positivity)
    · rw [Int.add_left_neg]
      exact .zero

/-- Doubles of that kind lie between zero and the double. -/
theorem mem {x y : Float} {hm : 0 < m} (h : AtMost .positive m e x.toModel.unpack)
    (hy : y.toModel.unpack = .finite .positive m e hm) : 0 ≤ x ∧ x ≤ y := by
  have hc := Canonical.of_unpack hy
  rw [Double.nonneg_iff, Double.le_iff, hy]
  generalize x.toModel.unpack = u at h
  cases h with
  | zero => exact ⟨.inl ⟨_, rfl⟩, .inl rfl⟩
  | @finite m' e' hc' h =>
    refine ⟨.inr (.inr ⟨m', e', hc'.pos, rfl⟩), ?_⟩
    have hcompare : UnpackedFloat.compare (.finite .positive m' e' hc'.pos) (.finite .positive m e hm) =
        some ((compare e' e).then (compare m' m)) := rfl
    rw [hcompare]
    rcases hc.le_cases hc' h with hlt | ⟨rfl, hle⟩
    · rw [compare_lt_iff_lt.2 hlt]
      exact .inl rfl
    · rw [compare_eq_iff_eq.2 rfl]
      rcases hle.lt_or_eq with hlt | rfl
      · exact .inl (congrArg some (compare_lt_iff_lt.2 hlt))
      · exact .inr (congrArg some (compare_eq_iff_eq.2 rfl))

end AtMost

/-! ## Remainders -/

namespace Double

variable {x y : Float} {m : ℕ} {e : ℤ} {hm : 0 < m}

/-- The truncated remainder by a positive double has the sign of the dividend and does not pass the
    divisor; only finite dividends have one. -/
theorem truncatedMod_cases (hy : y.toModel.unpack = .finite .positive m e hm) (x : Float) :
    truncatedMod x y = nan ∨ ∃ s, AtMost s m e (truncatedMod x y).toModel.unpack := by
  have hc := Canonical.of_unpack hy
  have hdivisor : Exact.ofFloat y = .finite false m e := by rw [Exact.ofFloat, hy]; rfl
  rw [truncatedMod, hdivisor]
  cases hx : Exact.ofFloat x with
  | nan => exact .inl rfl
  | infinite n => exact .inl rfl
  | finite n m' e' =>
    right
    simp only [if_neg hm.ne']
    refine ⟨Exact.toSign n, ?_⟩
    rw [Exact.toFloat]
    -- The remainder is less than the divisor on the grid that both numbers lie on.
    obtain ⟨d, hd⟩ : ∃ d, d = min e' e := ⟨_, rfl⟩
    rw [← hd]
    obtain ⟨r, hr⟩ : ∃ r, r = m' * Nat.pow 2 (e' - d).toNat % (m * Nat.pow 2 (e - d).toNat) := ⟨_, rfl⟩
    rw [← hr]
    split
    · cases n <;> exact .zero
    · rename_i hne
      have hlt : r < m * 2 ^ (e - d).toNat := hr ▸ Nat.mod_lt _ (Nat.mul_pos hm (Nat.two_pow_pos _))
      have hround := AtMost.round (E := d) (Nat.pos_of_ne_zero hne) hc ?_ (Exact.toSign n)
      · show AtMost _ m e (Float.Model.pack _).unpack
        rwa [hround.unpack_pack]
      · rw [← value_at_lower m (hd ▸ min_le_right e' e)]
        exact mul_le_mul_of_nonneg_right (by exact_mod_cast hlt.le) (by positivity)

/-- **The floored remainder by a positive double** is not-a-number, or lies between zero and the double. -/
theorem flooredMod_mem (hy : y.toModel.unpack = .finite .positive m e hm) (x : Float) :
    (flooredMod x y).isNaN = true ∨ 0 ≤ flooredMod x y ∧ flooredMod x y ≤ y := by
  have hc := Canonical.of_unpack hy
  have hzero : (0 : Float).toModel.unpack = .zero .positive := rfl
  have hsign : isNegative y = false := by rw [isNegative, Exact.ofFloat, hy]; rfl
  have hypos : ¬ y < 0 := by
    rw [lt_iff, hy, hzero]
    simp [UnpackedFloat.compare]
  rw [flooredMod, hsign]
  rcases truncatedMod_cases hy x with hr | ⟨s, hr⟩
  · left
    have hnan : nan.isNaN = true := rfl
    rw [hr, if_neg (by decide), decide_eq_false hypos, decide_eq_false (not_lt_of_isNaN hnan).1]
    exact hnan
  · right
    obtain ⟨r, hr'⟩ : ∃ r, r = truncatedMod x y := ⟨_, rfl⟩
    rw [← hr'] at hr ⊢
    have heq : (r == 0) = (r.toModel.unpack.compare (.zero .positive) == some .eq) := rfl
    obtain ⟨u, hu⟩ : ∃ u, u = r.toModel.unpack := ⟨_, rfl⟩
    have hlt : r < 0 ↔ u.compare (.zero .positive) = some .lt := by rw [lt_iff, hu, hzero]
    rw [← hu] at hr heq
    simp only [heq, hlt, hypos]
    cases hr with
    | zero =>
      have hmem : AtMost .positive m e (zero false).toModel.unpack := .zero
      exact hmem.mem hy
    | @finite m' e' hc' hle =>
      cases s with
      | positive =>
        have hmem : AtMost .positive m e r.toModel.unpack := hu ▸ .finite hc' hle
        exact hmem.mem hy
      | negative =>
        -- A negative remainder is counted from the divisor.
        have hadd := (AtMost.finite hc' hle).add hc
        have hmem : AtMost .positive m e (r + y).toModel.unpack := by
          show AtMost .positive m e (Float.Model.pack
            (UnpackedFloat.add .binary64 r.toModel.unpack y.toModel.unpack)).unpack
          rw [← hu, hy, hadd.unpack_pack]
          exact hadd
        exact hmem.mem hy

end Double

end SpriteStage
