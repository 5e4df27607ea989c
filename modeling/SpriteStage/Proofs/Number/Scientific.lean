import SpriteStage.Number.Numeral
import SpriteStage.Proofs.Number.Packing

/-!
# Reading decimals as doubles

A decimal `m * 10 ^ e` is read by a product or a quotient.  This module follows both ways of working
it out, the fast one on doubles and the slow one on exact numbers, and shows that they agree: a
decimal is read as the double whose rounding interval it lies in.
-/

namespace SpriteStage

open Float.Model (Format UnpackedFloat totalExponent)
open Float.Model.UnpackedFloat

/-- The positive double of a canonical mantissa and exponent. -/
def Canonical.toFloat {m : ℕ} {e : ℤ} (hc : Canonical m e) : Float :=
  .ofModel (.pack (.finite .positive m e hc.pos))

section

variable {m m₁ m₂ : ℕ} {e e₁ e₂ : ℤ}

/-! ## Products and quotients -/

/-- A double lies in its own rounding interval. -/
theorem roundsTo_self (m : ℕ) (e : ℤ) : RoundsTo m e (m * 2 ^ e) := by
  have hquarter : (0 : ℚ) < 2 ^ (e - 2) := by positivity
  have hvalue : (m * 2 ^ e : ℚ) = 4 * m * 2 ^ (e - 2) := by
    rw [show e = e - 2 + (2 : ℕ) by push_cast; ring, two_zpow_add, zpow_natCast]
    ring_nf
  have hdown : (0 : ℚ) < quartersDown m e := by
    rw [quartersDown]
    split <;> norm_num
  rw [hvalue]
  have hbelow : (4 * m - quartersDown m e) * 2 ^ (e - 2) < (4 * m * 2 ^ (e - 2) : ℚ) :=
    mul_lt_mul_of_pos_right (by linarith) hquarter
  have habove : (4 * m * 2 ^ (e - 2) : ℚ) < (4 * m + 2) * 2 ^ (e - 2) :=
    mul_lt_mul_of_pos_right (by linarith) hquarter
  exact ⟨hbelow.le, habove.le, fun _ => ⟨hbelow, habove⟩⟩

/-- A mantissa with 53 bits is not below its target exponent. -/
theorem le_targetExponent {M : ℕ} {E : ℤ} (hM : 2 ^ 52 ≤ M) :
    E ≤ Format.binary64.targetExponent (totalExponent M E) := by
  have hpos : M ≠ 0 := by
    rintro rfl
    exact absurd hM (by decide)
  have hlog := (Nat.le_log2 hpos).2 hM
  rw [targetExponent_eq, totalExponent]
  omega

theorem RoundsTo.mul (hc : Canonical m e) {h₁ : 0 < m₁} {h₂ : 0 < m₂} (hbits : 2 ^ 52 ≤ m₁ * m₂)
    (hx : RoundsTo m e (m₁ * 2 ^ e₁ * (m₂ * 2 ^ e₂))) :
    UnpackedFloat.mul .binary64 (.finite .positive m₁ e₁ h₁) (.finite .positive m₂ e₂ h₂) =
      .finite .positive m e hc.pos := by
  -- The product is a fraction with the denominator one, and nothing of it has been cut off.
  have hwhole : m₁ * m₂ / 1 = m₁ * m₂ := Nat.div_one _
  have hexact : accuracyOfFraction (m₁ * m₂ % 1) 1 = .exact := by
    rw [Nat.mod_one]
    rfl
  have hvalue : (m₁ * 2 ^ e₁ * (m₂ * 2 ^ e₂) : ℚ) = (m₁ * m₂ : ℕ) / (1 : ℕ) * 2 ^ (e₁ + e₂) := by
    rw [two_zpow_add]
    push_cast
    ring
  rw [hvalue] at hx
  have hround := hx.roundWithAccuracy hc Nat.one_pos
    (by rw [hwhole]; exact le_targetExponent hbits) .positive
  rw [hwhole, hexact] at hround
  exact hround

/-- The exponent of a quotient is low enough for all bits of the result. -/
theorem divCore_exponent_le (h₁ : 0 < m₁) (h₂ : 0 < m₂) :
    (divCore .binary64 m₁ e₁ m₂ e₂).2.1 ≤ Format.binary64.targetExponent
      (totalExponent (divCore .binary64 m₁ e₁ m₂ e₂).1 (divCore .binary64 m₁ e₁ m₂ e₂).2.1) := by
  obtain ⟨E, hE⟩ : ∃ E, E = min (e₁ - e₂) (Format.binary64.targetExponent
      (totalExponent m₁ e₁ - totalExponent m₂ e₂)) := ⟨_, rfl⟩
  rw [divCore]
  simp only [← hE]
  -- At the least exponent there is nothing to show.
  by_cases hmin : E ≤ -1074
  · rw [targetExponent_eq _]
    omega
  -- The dividend has been shifted until the quotient has 53 bits.
  obtain ⟨shift, hshift⟩ : ∃ shift, shift = (e₁ - e₂ - E).toNat := ⟨_, rfl⟩
  have hroom : m₂.log2 + 53 ≤ m₁.log2 + shift := by
    rw [targetExponent_eq, totalExponent, totalExponent] at hE
    omega
  apply le_targetExponent
  rw [← hshift, Nat.shiftLeft_eq, Nat.le_div_iff_mul_le h₂]
  have hlower : 2 ^ m₁.log2 ≤ m₁ := Nat.log2_self_le h₁.ne'
  have hupper : m₂ < 2 ^ (m₂.log2 + 1) := Nat.lt_log2_self
  calc 2 ^ 52 * m₂ ≤ 2 ^ 52 * 2 ^ (m₂.log2 + 1) := Nat.mul_le_mul_left _ hupper.le
    _ = 2 ^ (m₂.log2 + 53) := by rw [← Nat.pow_add]; congr 1; omega
    _ ≤ 2 ^ (m₁.log2 + shift) := Nat.pow_le_pow_right (by decide) hroom
    _ = 2 ^ m₁.log2 * 2 ^ shift := Nat.pow_add _ _ _
    _ ≤ m₁ * 2 ^ shift := Nat.mul_le_mul_right _ hlower

theorem RoundsTo.div (hc : Canonical m e) {h₁ : 0 < m₁} {h₂ : 0 < m₂}
    (hx : RoundsTo m e (m₁ * 2 ^ e₁ / (m₂ * 2 ^ e₂))) :
    UnpackedFloat.div .binary64 (.finite .positive m₁ e₁ h₁) (.finite .positive m₂ e₂ h₂) =
      .finite .positive m e hc.pos := by
  have hle := @divCore_exponent_le m₁ m₂ e₁ e₂ h₁ h₂
  obtain ⟨E, hE⟩ : ∃ E, E = min (e₁ - e₂) (Format.binary64.targetExponent
      (totalExponent m₁ e₁ - totalExponent m₂ e₂)) := ⟨_, rfl⟩
  have hEle : E ≤ e₁ - e₂ := hE ▸ min_le_left _ _
  obtain ⟨shift, hshift⟩ := Int.eq_ofNat_of_zero_le (sub_nonneg.2 hEle)
  have hcore : divCore .binary64 m₁ e₁ m₂ e₂ =
      (m₁ * 2 ^ shift / m₂, E, accuracyOfFraction (m₁ * 2 ^ shift % m₂) m₂) := by
    rw [divCore]
    simp only [← hE, hshift, Int.toNat_natCast, Nat.shiftLeft_eq]
  have hvalue : (m₁ * 2 ^ e₁ / (m₂ * 2 ^ e₂) : ℚ) = (m₁ * 2 ^ shift : ℕ) / m₂ * 2 ^ E := by
    obtain rfl : e₁ = e₂ + E + shift := by omega
    have hm₂ : (m₂ : ℚ) ≠ 0 := by exact_mod_cast h₂.ne'
    rw [two_zpow_add, zpow_natCast, two_zpow_add]
    push_cast
    field_simp
  rw [hvalue] at hx
  rw [hcore] at hle
  have hround := hx.roundWithAccuracy hc h₂ hle .positive
  rw [UnpackedFloat.div, hcore]
  exact hround

/-! ## Naturals and powers of ten as doubles -/

/-- The double `x` is the positive number `m * 2 ^ e`, written with 53 bits. -/
structure Holds (x : Float) (m : ℕ) (e : ℤ) : Prop where
  canonical : Canonical m e
  normal : 2 ^ 52 ≤ m
  unpack : x.toModel.unpack = .finite .positive m e canonical.pos

theorem Holds.mul {x y : Float} (h₁ : Holds x m₁ e₁) (h₂ : Holds y m₂ e₂) (hc : Canonical m e)
    (hx : RoundsTo m e (m₁ * 2 ^ e₁ * (m₂ * 2 ^ e₂))) : x * y = hc.toFloat := by
  have hbits : 2 ^ 52 ≤ m₁ * m₂ := by
    have := h₁.normal
    have := h₂.canonical.pos
    nlinarith
  show Float.ofModel (.pack (UnpackedFloat.mul .binary64 x.toModel.unpack y.toModel.unpack)) = _
  rw [h₁.unpack, h₂.unpack, hx.mul hc hbits]
  rfl

theorem Holds.div {x y : Float} (h₁ : Holds x m₁ e₁) (h₂ : Holds y m₂ e₂) (hc : Canonical m e)
    (hx : RoundsTo m e (m₁ * 2 ^ e₁ / (m₂ * 2 ^ e₂))) : x / y = hc.toFloat := by
  show Float.ofModel (.pack (UnpackedFloat.div .binary64 x.toModel.unpack y.toModel.unpack)) = _
  rw [h₁.unpack, h₂.unpack, hx.div hc]
  rfl

/-- A natural with at most 53 bits is a double. -/
theorem exists_holds_natural {n : ℕ} (hpos : 0 < n) (hn : n < 2 ^ 53) :
    ∃ m e, Holds n.toUInt64.toFloat m e ∧ (m * 2 ^ e : ℚ) = n := by
  have hlower := Nat.log2_self_le hpos.ne'
  have hupper := Nat.lt_log2_self (n := n)
  have hlog : n.log2 < 53 := (Nat.log2_lt hpos.ne').2 hn
  obtain ⟨k, hk⟩ : ∃ k, k = 52 - n.log2 := ⟨_, rfl⟩
  have hbits : 2 ^ 52 ≤ n * 2 ^ k := by
    calc 2 ^ 52 = 2 ^ n.log2 * 2 ^ k := by rw [← Nat.pow_add]; congr 1; omega
      _ ≤ n * 2 ^ k := Nat.mul_le_mul_right _ hlower
  have hfit : n * 2 ^ k < 2 ^ 53 := by
    calc n * 2 ^ k < 2 ^ (n.log2 + 1) * 2 ^ k := Nat.mul_lt_mul_of_pos_right hupper (Nat.two_pow_pos _)
      _ = 2 ^ 53 := by rw [← Nat.pow_add]; congr 1; omega
  have hc : Canonical (n * 2 ^ k) (-k) :=
    ⟨Nat.mul_pos hpos (Nat.two_pow_pos _), hfit, by omega, by omega, .inl hbits⟩
  -- Nothing is rounded, for the natural lies in the middle of its own interval.
  have hround : UnpackedFloat.round .binary64 .positive n 0 =
      .finite .positive (n * 2 ^ k) (-k) hc.pos := by
    have hshift : (0 - Format.binary64.targetExponent (totalExponent n 0)).toNat = k := by
      rw [targetExponent_eq, totalExponent]
      omega
    have hself := roundsTo_self (n * 2 ^ k) (-k)
    have hexact := RoundsTo.roundWithAccuracy (b := 1) (a := n * 2 ^ k) (E := -k) hc Nat.one_pos
      (by rw [Nat.div_one]; exact le_targetExponent hbits) (by simpa using hself) .positive
    rw [Nat.div_one, Nat.mod_one] at hexact
    rw [UnpackedFloat.round, decreaseExponent]
    simp only [hshift]
    rw [Nat.shiftLeft_eq, zero_sub]
    exact hexact
  refine ⟨n * 2 ^ k, -k, ⟨hc, hbits, ?_⟩, ?_⟩
  · show (Float.Model.pack (UnpackedFloat.ofNat .binary64 n.toUInt64.toNat)).unpack = _
    have hsmall : n.toUInt64.toNat = n := by
      rw [Nat.toUInt64_eq, UInt64.toNat_ofNat', Nat.mod_eq_of_lt (by omega)]
    have hsign : compare (n : ℤ) 0 = .gt := by
      rw [compare_gt_iff_gt]
      exact_mod_cast hpos
    rw [hsmall, UnpackedFloat.ofNat, ofInt, UnpackedFloat.normalize, hsign]
    simp only [Int.toNat_natCast]
    rw [hround, hc.unpack_pack]
  · rw [zpow_neg, zpow_natCast]
    push_cast
    field_simp

/-- Whether a double is a positive number with 53 bits, and that number is a power of ten. -/
def isPowerOfTen (k : ℕ) (x : Float) : Bool :=
  match x.toModel.unpack with
  | .finite .positive m e _ => 2 ^ 52 ≤ m && m * 2 ^ e.toNat == 10 ^ k * 2 ^ (-e).toNat
  | _ => false

theorem isPowerOfTen_table (k : ℕ) (hk : k < Float.exactlyRepresentablePowersOfTen.size) :
    isPowerOfTen k Float.exactlyRepresentablePowersOfTen[k] = true := by
  revert k
  decide +kernel

theorem exists_holds_power (k : ℕ) (hk : k < Float.exactlyRepresentablePowersOfTen.size) :
    ∃ m e, Holds Float.exactlyRepresentablePowersOfTen[k] m e ∧ (m * 2 ^ e : ℚ) = 10 ^ k := by
  have htable := isPowerOfTen_table k hk
  rw [isPowerOfTen] at htable
  split at htable
  · rename_i m e hm hunpack
    rw [Bool.and_eq_true, decide_eq_true_eq, beq_iff_eq] at htable
    refine ⟨m, e, ⟨.of_unpack hunpack, htable.1, hunpack⟩, ?_⟩
    have hvalue : (m * 2 ^ e.toNat : ℚ) = 10 ^ k * 2 ^ (-e).toNat := by exact_mod_cast htable.2
    -- The table is compared in naturals, with the power of two on the side where it is one.
    rcases le_total 0 e with he | he
    · obtain ⟨n, rfl⟩ := Int.eq_ofNat_of_zero_le he
      simpa using hvalue
    · obtain ⟨n, hn⟩ := Int.eq_ofNat_of_zero_le (neg_nonneg.2 he)
      obtain rfl : e = -n := by omega
      rw [zpow_neg, zpow_natCast]
      simp only [neg_neg, Int.toNat_natCast] at hvalue
      rw [show ((-(n : ℤ)).toNat) = 0 by omega, pow_zero, mul_one] at hvalue
      rw [hvalue]
      field_simp
  · cases htable

/-! ## Decimals -/

/-- The exact way of reading a decimal. -/
theorem RoundsTo.ofScientific {d : ℕ} {k : ℤ} (hc : Canonical m e) (hd : 0 < d)
    (hx : RoundsTo m e (d * 10 ^ k)) (hlower : -(2048 + d.log2) ≤ k) (hupper : k ≤ 2048) :
    UnpackedFloat.ofScientific .binary64 d k = .finite .positive m e hc.pos := by
  have hhigh : ¬ k > 2 ^ Format.binary64.exponentBits := by
    show ¬ k > 2048
    omega
  have hlow : ¬ k < -((2 ^ Format.binary64.exponentBits : ℤ) + d.log2) := by
    show ¬ k < -(2048 + (d.log2 : ℤ))
    omega
  rw [UnpackedFloat.ofScientific, dif_neg hd.ne', if_neg hhigh, if_neg hlow]
  -- A power of ten is exact as a natural, so it is a factor or a divisor but never a fraction.
  rcases le_or_gt 0 k with hk | hk
  · rw [if_pos hk]
    obtain ⟨n, rfl⟩ := Int.eq_ofNat_of_zero_le hk
    have hmantissa : d <<< Format.binary64.mantissaBits = d * 2 ^ 53 := Nat.shiftLeft_eq d 53
    have hbits : 2 ^ 52 ≤ d <<< Format.binary64.mantissaBits * 10 ^ (n : ℤ).toNat := by
      rw [hmantissa]
      have hten : 0 < 10 ^ (n : ℤ).toNat := Nat.pow_pos (by decide)
      nlinarith
    refine RoundsTo.mul hc hbits ?_
    have hvalue : ((d * 2 ^ 53 : ℕ) * 2 ^ (-53 : ℤ) * ((10 ^ n : ℕ) * 2 ^ (0 : ℤ)) : ℚ) =
        d * 10 ^ (n : ℤ) := by
      rw [zpow_natCast, zpow_zero]
      push_cast
      norm_num
      ring
    show RoundsTo m e ((d <<< Format.binary64.mantissaBits : ℕ) * 2 ^ (-53 : ℤ) *
      ((10 ^ n : ℕ) * 2 ^ (0 : ℤ)))
    rw [hmantissa, hvalue]
    exact hx
  · rw [if_neg (not_le.2 hk)]
    obtain ⟨n, hn⟩ := Int.eq_ofNat_of_zero_le (neg_nonneg.2 hk.le)
    obtain rfl : k = -n := by omega
    refine RoundsTo.div hc ?_
    have hvalue : (d * 2 ^ (0 : ℤ) / ((10 ^ n : ℕ) * 2 ^ (0 : ℤ)) : ℚ) = d * 10 ^ (-(n : ℤ)) := by
      rw [zpow_zero, zpow_neg, zpow_natCast]
      push_cast
      ring
    rw [neg_neg, Int.toNat_natCast, hvalue]
    exact hx

/-- **A decimal is read as the double whose rounding interval it lies in**, whichever way is
    taken. -/
theorem RoundsTo.float_ofScientific {d : ℕ} {k : ℤ} (hc : Canonical m e) (hd : 0 < d)
    (hx : RoundsTo m e (d * 10 ^ k)) (hlower : -(2048 + d.log2) ≤ k) (hupper : k ≤ 2048) :
    Float.ofScientific d (k < 0) k.natAbs = hc.toFloat := by
  rw [Float.ofScientific]
  split
  · -- Both factors are doubles, so one operation on doubles rounds once.
    rename_i hfast
    obtain ⟨m₁, e₁, hm₁, hvalue₁⟩ := exists_holds_natural hd hfast.1
    obtain ⟨m₂, e₂, hm₂, hvalue₂⟩ := exists_holds_power k.natAbs
      (Nat.lt_succ_of_le hfast.2)
    rcases lt_or_ge k 0 with hk | hk
    · obtain ⟨n, hn⟩ := Int.eq_ofNat_of_zero_le (neg_nonneg.2 hk.le)
      obtain rfl : k = -n := by omega
      have hquotient : (m₁ * 2 ^ e₁ / (m₂ * 2 ^ e₂) : ℚ) = d * 10 ^ (-(n : ℤ)) := by
        rw [hvalue₁, hvalue₂, zpow_neg, zpow_natCast]
        simp [div_eq_mul_inv]
      rw [if_pos (by simpa using hk)]
      exact hm₁.div hm₂ hc (hquotient ▸ hx)
    · obtain ⟨n, rfl⟩ := Int.eq_ofNat_of_zero_le hk
      have hproduct : (m₁ * 2 ^ e₁ * (m₂ * 2 ^ e₂) : ℚ) = d * 10 ^ (n : ℤ) := by
        rw [hvalue₁, hvalue₂, zpow_natCast]
        simp
      rw [if_neg (by simp)]
      exact hm₁.mul hm₂ hc (hproduct ▸ hx)
  -- The decimal is worked out exactly and rounded once.
  · have hexponent : (if decide (k < 0) then Int.negOfNat k.natAbs else Int.ofNat k.natAbs) = k := by
      rcases lt_or_ge k 0 with hk | hk
      · rw [if_pos (by simpa using hk), Int.negOfNat_eq, Int.ofNat_eq_natCast]
        omega
      · rw [if_neg (by simpa using hk), Int.ofNat_eq_natCast]
        omega
    rw [hexponent]
    show Float.ofModel (.pack (UnpackedFloat.ofScientific .binary64 d k)) = _
    rw [hx.ofScientific hc hd hlower hupper]
    rfl

end

end SpriteStage
