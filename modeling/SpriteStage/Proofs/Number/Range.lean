import SpriteStage.Proofs.Number.Remainder
import SpriteStage.Proofs.Number.Notation
import SpriteStage.Value.Display

/-!
# The range of doubles

Arithmetic on doubles that are not too large gives a double that is not too large either, so it does not
become infinite.  An integer that rounds to a finite double has a half that does so too, and the integer
of a double has few digits.

## Main definitions

* `BelowPower` holds of the parts whose magnitude is at most a power of two

## Main results

* `BelowPower.sub`, `BelowPower.mul` and `BelowPower.div` say by how much an operation widens the range
* `Double.exists_ofRatio?_two` halves the integers in the range
* `Double.integerText_of_toInt?` writes the integers that are doubles
-/

namespace SpriteStage

open Float.Model (Format UnpackedFloat totalExponent)
open Float.Model.UnpackedFloat

/-! ## Quotients -/

/-- **A quotient is not rounded past a double that it does not pass.** -/
theorem AtMost.div {m m₁ m₂ : ℕ} {e e₁ e₂ : ℤ} (hc : Canonical m e) {h₁ : 0 < m₁} {h₂ : 0 < m₂}
    (hle : (m₁ * 2 ^ e₁ / (m₂ * 2 ^ e₂) : ℚ) ≤ m * 2 ^ e) (s₁ s₂ : Sign) :
    AtMost (s₁ / s₂) m e
      (UnpackedFloat.div .binary64 (.finite s₁ m₁ e₁ h₁) (.finite s₂ m₂ e₂ h₂)) := by
  have hroom := @divCore_exponent_le m₁ m₂ e₁ e₂ h₁ h₂
  obtain ⟨shift, E, hE, hcore⟩ : ∃ (shift : ℕ) (E : ℤ), e₁ = e₂ + E + shift ∧
      divCore .binary64 m₁ e₁ m₂ e₂ =
        (m₁ * 2 ^ shift / m₂, E, accuracyOfFraction (m₁ * 2 ^ shift % m₂) m₂) := by
    obtain ⟨E, hE⟩ : ∃ E, E = min (e₁ - e₂) (Format.binary64.targetExponent
        (totalExponent m₁ e₁ - totalExponent m₂ e₂)) := ⟨_, rfl⟩
    obtain ⟨shift, hshift⟩ := Int.eq_ofNat_of_zero_le (sub_nonneg.2 (hE ▸ min_le_left _ _ : E ≤ e₁ - e₂))
    refine ⟨shift, E, by omega, ?_⟩
    rw [divCore]
    simp only [← hE, hshift, Int.toNat_natCast, Nat.shiftLeft_eq]
  subst hE
  have hvalue : (m₁ * 2 ^ (e₂ + E + shift) / (m₂ * 2 ^ e₂) : ℚ) = (m₁ * 2 ^ shift : ℕ) / m₂ * 2 ^ E := by
    have hm₂ : (m₂ : ℚ) ≠ 0 := by exact_mod_cast h₂.ne'
    rw [two_zpow_add, zpow_natCast, two_zpow_add]
    push_cast
    field_simp
  rw [hvalue] at hle
  rw [hcore] at hroom
  rw [UnpackedFloat.div, hcore]
  exact AtMost.roundWithAccuracy hc h₂ hroom hle _

/-! ## Powers of two -/

/-- Parts whose magnitude is at most two to the power of `k`. -/
def BelowPower (k : ℤ) (u : UnpackedFloat) : Prop := ∃ s, AtMost s (2 ^ 52) (k - 52) u

/-- The powers of two that are normal doubles. -/
theorem canonical_power {k : ℤ} (hlow : -1022 ≤ k) (hhigh : k ≤ 1023) : Canonical (2 ^ 52) (k - 52) :=
  ⟨by decide, by decide, by omega, by omega, .inl le_rfl⟩

theorem value_power (k : ℤ) : ((2 ^ 52 : ℕ) * 2 ^ (k - 52) : ℚ) = 2 ^ k := by
  rw [show k = k - 52 + (52 : ℕ) by push_cast; ring, two_zpow_add, zpow_natCast]
  push_cast
  ring_nf

namespace BelowPower

variable {j k : ℤ} {u v : UnpackedFloat}

theorem of_le {m : ℕ} {e : ℤ} (hc : Canonical m e) (s : Sign) (h : (m * 2 ^ e : ℚ) ≤ 2 ^ k) :
    BelowPower k (.finite s m e hc.pos) :=
  ⟨s, .finite hc (h.trans_eq (value_power k).symm)⟩

/-- Packing loses nothing of them. -/
theorem unpack_pack (h : BelowPower k u) : (Float.Model.pack u).unpack = u := by
  obtain ⟨s, h⟩ := h
  exact h.unpack_pack

/-- Such a double is finite. -/
theorem isFinite (h : BelowPower k u) : (Float.ofModel (.pack u)).isFinite = true := by
  show (Float.Model.pack u).unpack.isFinite = true
  rw [h.unpack_pack]
  obtain ⟨s, h⟩ := h
  cases h <;> rfl

theorem isInf (h : BelowPower k u) : (Float.ofModel (.pack u)).isInf = false := by
  show (Float.Model.pack u).unpack.isInf = false
  rw [h.unpack_pack]
  obtain ⟨s, h⟩ := h
  cases h <;> rfl

/-- What is rounded within the range stays there. -/
theorem normalize {M : ℤ} {E : ℤ} (hlow : -1022 ≤ k) (hhigh : k ≤ 1023)
    (h : (M.natAbs * 2 ^ E : ℚ) ≤ 2 ^ k) (s : Sign) :
    BelowPower k (UnpackedFloat.normalize .binary64 M E s) := by
  have hc := canonical_power hlow hhigh
  rw [← value_power k] at h
  rw [UnpackedFloat.normalize]
  split
  · rename_i hM
    have hM := compare_lt_iff_lt.1 hM
    have hnat : (-M).toNat = M.natAbs := by omega
    rw [hnat]
    exact ⟨_, .round (by omega) hc h _⟩
  · exact ⟨_, .zero⟩
  · rename_i hM
    have hM := compare_gt_iff_gt.1 hM
    have hnat : M.toNat = M.natAbs := by omega
    rw [hnat]
    exact ⟨_, .round (by omega) hc h _⟩

/-- The difference of two doubles within a range is within twice the range. -/
theorem sub (hlow : -1022 ≤ k) (hhigh : k ≤ 1022) (hu : BelowPower k u) (hv : BelowPower k v) :
    BelowPower (k + 1) (UnpackedFloat.sub .binary64 u v) := by
  have hwider : (2 : ℚ) ^ k ≤ 2 ^ (k + 1) := zpow_le_zpow_right₀ one_le_two (by omega)
  obtain ⟨s, hu⟩ := hu
  obtain ⟨s', hv⟩ := hv
  cases hu with
  | zero =>
    cases hv with
    | zero => cases s <;> cases s' <;> exact ⟨_, .zero⟩
    | finite hc h => exact of_le hc (-s') ((h.trans_eq (value_power k)).trans hwider)
  | @finite m e hc h =>
    cases hv with
    | zero => exact of_le hc s ((h.trans_eq (value_power k)).trans hwider)
    | @finite m' e' hc' h' =>
      -- Both numbers are multiples of the lesser power of two, and their difference is rounded once.
      rw [UnpackedFloat.sub]
      simp only [decreaseExponent, Nat.shiftLeft_eq]
      obtain ⟨d, hd⟩ : ∃ d, d = min e e' := ⟨_, rfl⟩
      have hleft := value_at_lower m (hd ▸ min_le_left e e')
      have hright := value_at_lower m' (hd ▸ min_le_right e e')
      rw [← hd]
      obtain ⟨A, hA⟩ : ∃ A, A = m * 2 ^ (e - d).toNat := ⟨_, rfl⟩
      obtain ⟨B, hB⟩ : ∃ B, B = m' * 2 ^ (e' - d).toNat := ⟨_, rfl⟩
      rw [← hA] at hleft ⊢
      rw [← hB] at hright ⊢
      rw [value_power, ← hleft] at h
      rw [value_power, ← hright] at h'
      have hsum : (s.apply A - s'.apply B).natAbs ≤ A + B := by
        cases s <;> cases s' <;> simp only [Sign.apply] <;> omega
      refine normalize (by omega) (by omega) ?_ _
      calc ((s.apply A - s'.apply B).natAbs * 2 ^ d : ℚ) ≤ (A + B) * 2 ^ d :=
            mul_le_mul_of_nonneg_right (by exact_mod_cast hsum) (by positivity)
        _ = A * 2 ^ d + B * 2 ^ d := by ring
        _ ≤ 2 ^ k + 2 ^ k := add_le_add h h'
        _ = 2 ^ (k + 1) := by rw [zpow_add_one₀ two_ne_zero]; ring

/-- The product of two doubles is within the product of their ranges. -/
theorem mul (hlow : -1022 ≤ j + k) (hhigh : j + k ≤ 1023) (hu : BelowPower j u) (hv : BelowPower k v) :
    BelowPower (j + k) (UnpackedFloat.mul .binary64 u v) := by
  obtain ⟨s, hu⟩ := hu
  obtain ⟨s', hv⟩ := hv
  cases hu with
  | zero => cases hv <;> exact ⟨_, .zero⟩
  | @finite m e hc h =>
    cases hv with
    | zero => exact ⟨_, .zero⟩
    | @finite m' e' hc' h' =>
      refine ⟨s * s', ?_⟩
      -- The product has 53 bits, unless both factors are at the least exponent.
      have hroom : e + e' ≤ Format.binary64.targetExponent (totalExponent (m * m' / 1) (e + e')) := by
        rw [Nat.div_one]
        have hm := hc.pos
        have hm' := hc'.pos
        rcases hc.normal with hnormal | rfl
        · exact le_targetExponent (hnormal.trans (Nat.le_mul_of_pos_right m hm'))
        · rcases hc'.normal with hnormal | rfl
          · exact le_targetExponent (hnormal.trans (Nat.le_mul_of_pos_left m' hm))
          · rw [targetExponent_eq]
            omega
      have hle : ((m * m' : ℕ) / (1 : ℕ) * 2 ^ (e + e') : ℚ) ≤ (2 ^ 52 : ℕ) * 2 ^ (j + k - 52) := by
        rw [value_power] at h h' ⊢
        calc ((m * m' : ℕ) / (1 : ℕ) * 2 ^ (e + e') : ℚ) = m * 2 ^ e * (m' * 2 ^ e') := by
              rw [two_zpow_add]
              push_cast
              ring
          _ ≤ 2 ^ j * 2 ^ k := mul_le_mul h h' (by positivity) (by positivity)
          _ = 2 ^ (j + k) := (zpow_add₀ two_ne_zero j k).symm
      have hround := AtMost.roundWithAccuracy (canonical_power hlow hhigh) Nat.one_pos hroom hle (s * s')
      rwa [Nat.div_one, Nat.mod_one] at hround

/-- Division by what is at least one does not leave the range. -/
theorem div {m : ℕ} {e : ℤ} (hlow : -1022 ≤ k) (hhigh : k ≤ 1023) (hu : BelowPower k u) (hm : 0 < m)
    (hv : (1 : ℚ) ≤ m * 2 ^ e) (s' : Sign) :
    BelowPower k (UnpackedFloat.div .binary64 u (.finite s' m e hm)) := by
  obtain ⟨s, hu⟩ := hu
  cases hu with
  | zero => exact ⟨_, .zero⟩
  | @finite m' e' hc' h =>
    exact ⟨_, .div (canonical_power hlow hhigh) ((div_le_self (by positivity) hv).trans h) _ _⟩

end BelowPower

/-! ## Integers -/

/-- Parts with an exponent past that of the largest doubles become infinite. -/
theorem isFinite_pack_of_large {m : ℕ} {e : ℤ} (he : 972 ≤ e) (s : Sign) (hm : 0 < m) :
    (Float.ofModel (.pack (.finite s m e hm))).isFinite = false := by
  rw [pack_of_large he]
  cases s <;> rfl

/-- A whole number of more than 1024 bits is rounded to infinity. -/
theorem isFinite_round_of_large {M : ℕ} (hM : 1024 ≤ M.log2) (s : Sign) :
    (Float.ofModel (.pack (UnpackedFloat.round .binary64 s M 0))).isFinite = false := by
  -- No bit is left to be shifted in, so the target exponent is that of the leading bit.
  obtain ⟨t, ht⟩ : ∃ t, t = Format.binary64.targetExponent (totalExponent (M / 1) 0) := ⟨_, rfl⟩
  have hexponent : 972 ≤ t := by
    rw [ht, Nat.div_one, targetExponent_eq, totalExponent]
    omega
  have hround : UnpackedFloat.round .binary64 s M 0 =
      UnpackedFloat.roundWithAccuracy .binary64 s (M / 1) 0 (accuracyOfFraction (M % 1) 1) := by
    have hshift : (0 - Format.binary64.targetExponent (totalExponent M 0)).toNat = 0 := by
      rw [Nat.div_one] at ht
      rw [← ht]
      omega
    rw [Nat.mod_one, UnpackedFloat.round, decreaseExponent]
    simp only [hshift, Nat.shiftLeft_zero, Nat.div_one]
    rfl
  obtain ⟨hfirst, hsecond⟩ := shift_fraction (a := M) Nat.one_pos (by omega : (0 : ℤ) ≤ t) ht
  have hvalue := value_at_exponent (a := M) (b := 1) (by omega : (0 : ℤ) ≤ t)
  have hbits := rounded_bits (a := M) (b := 1 * 2 ^ (t - 0).toNat) (t := t) (by positivity) (by omega)
    (hvalue ▸ value_lt Nat.one_pos ht) (fun hmin => hvalue ▸ value_ge (by omega) ht hmin)
  have hnormal := hbits.2.resolve_right (by omega)
  rw [hround]
  rcases hbits.1.lt_or_eq with hsmall | hpower
  · obtain ⟨hmantissa, hexp⟩ := shift_of_lt hsmall (by omega : -1074 ≤ t)
    rw [roundWithAccuracy_eq (by omega) hfirst hsecond hmantissa hexp]
    exact isFinite_pack_of_large hexponent _ _
  · obtain ⟨hmantissa, hexp⟩ := shift_two_pow (by omega : -1074 ≤ t)
    rw [← hpower] at hmantissa hexp
    rw [roundWithAccuracy_eq (by decide) hfirst hsecond hmantissa hexp]
    exact isFinite_pack_of_large (by omega) _ _

namespace Double

/-- An integer that rounds to a finite double has at most 1024 bits. -/
theorem log2_lt_of_ofInt? {n : ℤ} (h : (ofInt? n).isSome = true) : n.natAbs.log2 < 1024 := by
  by_contra hlarge
  have hpos : n.natAbs ≠ 0 := by
    intro hzero
    rw [hzero, Nat.log2_zero] at hlarge
    omega
  have hinfinite : (saturating n).isFinite = false := by
    rw [saturating, Exact.toFloat, if_neg hpos]
    exact isFinite_round_of_large (not_lt.1 hlarge) _
  rw [ofInt?] at h
  simp only [hinfinite] at h
  cases h

/-- **A half of an integer in the range is in the range.** -/
theorem exists_ofRatio?_two {n : ℤ} (h : (ofInt? n).isSome = true) : ∃ x, ofRatio? n 2 = some x := by
  rw [ofRatio?, dif_neg (by decide)]
  split
  · exact ⟨_, rfl⟩
  · rename_i hn
    have hwithin : BelowPower 1023 (UnpackedFloat.div .binary64
        (.finite (Exact.toSign (decide (n < 0) != decide ((2 : ℤ) < 0))) n.natAbs 0 (Int.natAbs_pos.mpr hn))
        (.finite .positive (2 : ℤ).natAbs 0 (by decide))) := by
      refine ⟨_, .div (canonical_power (by decide) (by decide)) ?_ _ _⟩
      have hbits : (n.natAbs : ℚ) < 2 ^ n.natAbs.log2 * 2 := by
        rw [← pow_succ]
        exact_mod_cast Nat.lt_log2_self
      have hpower : (2 : ℚ) ^ n.natAbs.log2 ≤ 2 ^ (1023 : ℤ) := by
        rw [← zpow_natCast]
        exact zpow_le_zpow_right₀ one_le_two (by have := log2_lt_of_ofInt? h; omega)
      rw [value_power, zpow_zero, mul_one, mul_one, div_le_iff₀ (by norm_num)]
      exact hbits.le.trans (mul_le_mul_of_nonneg_right hpower two_pos.le)
    simp only [if_pos hwithin.isFinite]
    exact ⟨_, rfl⟩

theorem natAbs_signed (isNegative : Bool) (m : ℕ) : (Exact.signed isNegative m).natAbs = m := by
  cases isNegative
  · exact Int.natAbs_natCast m
  · exact (Int.natAbs_neg _).trans (Int.natAbs_natCast m)

/-- The integer of a double is less than the powers of ten past the range. -/
theorem natAbs_lt_of_toInt? {x : Float} {n : ℤ} (h : toInt? x = some n) : n.natAbs < 10 ^ 309 := by
  rw [toInt?, Exact.ofFloat] at h
  cases hx : x.toModel.unpack with
  | notANumber | infinity s =>
    rw [hx] at h
    cases h
  | zero s =>
    rw [hx] at h
    cases s <;> cases h <;> positivity
  | finite s m e hm =>
    have hc := Canonical.of_unpack hx
    rw [hx] at h
    simp only [Exact.floor?] at h
    -- An integral double is an integer times a power of two, or has fewer bits than its mantissa.
    split at h
    · split at h
      · rename_i he
        cases h
        obtain ⟨k, rfl⟩ := Int.eq_ofNat_of_zero_le he
        have hlt := (roundsTo_self m k).lt_ten_pow hc
        rw [natAbs_signed, Int.toNat_natCast]
        exact_mod_cast hlt
      · cases h
        calc (Int.fdiv (Exact.signed (Exact.ofSign s) m) (Nat.pow 2 (-e).toNat)).natAbs ≤
              (Exact.signed (Exact.ofSign s) m).natAbs := Int.natAbs_fdiv_le_natAbs _ _
          _ = m := natAbs_signed _ _
          _ < 2 ^ 53 := hc.lt
          _ < 10 ^ 309 := by decide +kernel
    · cases h

/-- **The integer of a double is written in log lines**, for it has few digits. -/
theorem integerText_of_toInt? {x : Float} {n : ℤ} (h : toInt? x = some n) :
    integerText n = .ok (logged x) := by
  have hlength : ∀ k, 0 < k → n.natAbs < 10 ^ k → (Decimal.digitsOf n.natAbs).length ≤ k :=
    fun k hk => (Nat.length_toDigits_le_iff (by decide) hk).2
  have hlimit : (Decimal.digitsOf n.natAbs).length ≤ digitLimit :=
    (hlength 309 (by decide) (natAbs_lt_of_toInt? h)).trans (by decide)
  have hlogged : logged x =
      String.ofList ((if n < 0 then ['-'] else []) ++ Decimal.digitsOf n.natAbs) := by
    rw [logged, h]
    cases hx : Exact.ofFloat x with
    | nan | infinite isNegative =>
      rw [toInt?, hx] at h
      cases h
    | finite isNegative m e => rfl
  rw [integerText, if_neg (not_lt.2 hlimit), hlogged]
  split <;> rfl

end Double

end SpriteStage
