import SpriteStage.Proofs.Number.Numeral
import SpriteStage.Proofs.Number.Shortest

/-!
# Doubles as numerals

The text of a finite double is a numeral, after a sign if the double is negative.  The numeral reads
back as the magnitude of the double, whichever notation it is written in: the digits are those of a
decimal in the rounding interval, and where the point stands and whether there is an exponent does
not change the decimal.
-/

namespace SpriteStage

/-! ## The range of decimals -/

namespace RoundsTo

variable {m d : ℕ} {e k : ℤ} {x : ℚ}

theorem lt_ten_pow (hc : Canonical m e) (hx : RoundsTo m e x) : x < 10 ^ (309 : ℤ) := by
  -- All doubles are less than two to the power of 1024.
  have hpower : (2 : ℚ) ^ (1024 : ℤ) < 10 ^ (309 : ℤ) := by
    have hnat : 2 ^ 1024 < 10 ^ 309 := by decide +kernel
    exact_mod_cast hnat
  calc x < 2 ^ (e + 53) := hx.lt_two_zpow hc
    _ ≤ 2 ^ (1024 : ℤ) := zpow_le_zpow_right₀ one_le_two (by have := hc.exponent_le; omega)
    _ < 10 ^ (309 : ℤ) := hpower

theorem ten_pow_lt (hc : Canonical m e) (hx : RoundsTo m e x) : (10 : ℚ) ^ (-324 : ℤ) < x := by
  have hpower : (10 : ℚ) ^ (-324 : ℤ) < 2 * 2 ^ (-1076 : ℤ) := by
    have hnat : 2 ^ 1075 < 10 ^ 324 := by decide +kernel
    have hcast : (2 : ℚ) ^ 1075 < 10 ^ 324 := by exact_mod_cast hnat
    rw [← zpow_one_add₀ two_ne_zero, show (1 + -1076 : ℤ) = -(1075 : ℕ) by norm_num,
      show (-324 : ℤ) = -(324 : ℕ) by norm_num, zpow_neg, zpow_neg, zpow_natCast, zpow_natCast]
    exact inv_strictAnti₀ (by positivity) hcast
  -- The interval of the least double starts half a unit below it.
  have hmantissa : (2 : ℚ) ≤ 4 * m - quartersDown m e := by
    have hm := hc.pos
    have hdown := quartersDown_le_two m e
    have hnat : 2 + quartersDown m e ≤ 4 * m := by omega
    have hcast : (2 + quartersDown m e : ℚ) ≤ 4 * m := by exact_mod_cast hnat
    linarith
  calc (10 : ℚ) ^ (-324 : ℤ) < 2 * 2 ^ (-1076 : ℤ) := hpower
    _ ≤ (4 * m - quartersDown m e) * 2 ^ (e - 2) :=
      mul_le_mul hmantissa (zpow_le_zpow_right₀ one_le_two (by have := hc.exponent_ge; omega))
        (by positivity) (by linarith)
    _ ≤ x := hx.lower

/-- **A decimal in the rounding interval of a double is read as that double**, for it is neither
    too large nor too small. -/
theorem scaled (hc : Canonical m e) (hd : 0 < d) (hx : RoundsTo m e (d * 10 ^ k)) :
    Numeral.scaled d k = hc.toFloat := by
  obtain ⟨n, hn⟩ : ∃ n, n = (Nat.toDigits 10 d).length := ⟨_, rfl⟩
  have hlength : 0 < n := hn ▸ Nat.length_toDigits_pos
  have hlt : d < 10 ^ n := (Nat.length_toDigits_le_iff (by decide) hlength).1 hn.ge
  have hge : 10 ^ (n - 1) ≤ d := by
    rcases Nat.eq_or_lt_of_le hlength with h | h
    · rw [← h]
      exact hd
    · by_contra hless
      have := (Nat.length_toDigits_le_iff (b := 10) (by decide) (by omega)).2 (Nat.lt_of_not_le hless)
      omega
  -- The number of digits is at most the number of bits, which bounds how small the exponent may be.
  have hlog : n ≤ d.log2 + 1 := by
    by_contra hless
    have hsmall : d < 10 ^ (n - 1) := by
      calc d < 2 ^ (d.log2 + 1) := Nat.lt_log2_self
        _ ≤ 10 ^ (d.log2 + 1) := Nat.pow_le_pow_left (by decide) _
        _ ≤ 10 ^ (n - 1) := Nat.pow_le_pow_right (by decide) (by omega)
    omega
  have hten : (0 : ℚ) < 10 ^ k := by positivity
  -- Both bounds follow from where the powers of ten lie that enclose the number.
  have hupper : ((n - 1 : ℕ) : ℤ) + k < 309 := by
    refine (zpow_lt_zpow_iff_right₀ (a := (10 : ℚ)) (by norm_num)).1 (lt_of_le_of_lt ?_ (hx.lt_ten_pow hc))
    rw [zpow_add₀ (by norm_num), zpow_natCast]
    exact mul_le_mul_of_nonneg_right (by exact_mod_cast hge) hten.le
  have hlower : -324 < (n : ℤ) + k := by
    refine (zpow_lt_zpow_iff_right₀ (a := (10 : ℚ)) (by norm_num)).1 ((hx.ten_pow_lt hc).trans ?_)
    rw [zpow_add₀ (by norm_num), zpow_natCast]
    exact mul_lt_mul_of_pos_right (by exact_mod_cast hlt) hten
  rw [Numeral.scaled]
  simp only [← hn]
  rw [if_neg (by omega), if_neg (by omega)]
  exact hx.float_ofScientific hc hd (by omega) (by omega)

end RoundsTo

/-! ## Notations of a decimal -/

namespace Numeral.Parts

/-- The number that a numeral writes. -/
def value (p : Parts) : ℚ := p.mantissa * 10 ^ p.scale

/-- A numeral with a point or an exponent is that of a double. -/
def IsDouble (p : Parts) : Prop := p.fraction ≠ none ∨ p.exponent ≠ none

end Numeral.Parts

namespace FloatFormat

open Numeral (Parts IsDigits isDigits_digitsOf ofDigitChars_digitsOf)

theorem isDigits_zeros (n : ℕ) : IsDigits (List.replicate n '0') := fun c hc => by
  rw [List.eq_of_mem_replicate hc]
  decide

theorem IsDigits.append {xs ys : List Char} (hxs : IsDigits xs) (hys : IsDigits ys) :
    IsDigits (xs ++ ys) := fun c hc => (List.mem_append.1 hc).elim (hxs c) (hys c)

/-- Digits before the point shift the mantissa, those after it the scale. -/
theorem value_eq {p : Parts} {d : Decimal} {j : ℕ} (hmantissa : p.mantissa = d.digits * 10 ^ j)
    (hscale : p.scale + j = d.exponent) : p.value = d.value := by
  rw [Parts.value, Decimal.value, hmantissa, ← hscale, zpow_add₀ (by norm_num), zpow_natCast]
  push_cast
  ring

/-- Digits on both sides of a point are a numeral. -/
theorem exists_pointed {whole fraction : List Char} {d : Decimal} {j : ℕ}
    (hwhole : IsDigits whole ∧ whole ≠ []) (hfraction : IsDigits fraction ∧ fraction ≠ [])
    (hmantissa : Nat.ofDigitChars 10 (whole ++ fraction) 0 = d.digits * 10 ^ j)
    (hscale : d.exponent = j - fraction.length) :
    ∃ p : Parts, whole ++ '.' :: fraction = p.chars ∧ p.WellFormed ∧ p.IsDouble ∧
      p.value = d.value := by
  refine ⟨⟨whole, some fraction, none⟩, ?_, ⟨hwhole, ?_, ?_⟩, .inl (by simp), value_eq hmantissa ?_⟩
  · simp [Parts.chars, Parts.fractionChars, Parts.exponentChars]
  · rintro ds ⟨⟩
    exact hfraction
  · rintro x ⟨⟩
  · simp [Parts.scale, Parts.writtenExponent, hscale]
    ring

/-- Positional notation of a decimal is a numeral with a point. -/
theorem exists_positional (d : Decimal) :
    ∃ p : Parts, positional true (Decimal.digitsOf d.digits)
        ((Decimal.digitsOf d.digits).length + d.exponent) = p.chars ∧
      p.WellFormed ∧ p.IsDouble ∧ p.value = d.value := by
  obtain ⟨ds, hds⟩ : ∃ ds, ds = Decimal.digitsOf d.digits := ⟨_, rfl⟩
  have hdigits : IsDigits ds := hds ▸ isDigits_digitsOf d.digits
  have hvalue : Nat.ofDigitChars 10 ds 0 = d.digits := hds ▸ ofDigitChars_digitsOf d.digits
  have hne : ds ≠ [] := hds ▸ Nat.toDigits_ne_nil
  rw [← hds, positional]
  split
  · -- All digits stand after the point, and zeros between.
    rename_i hpoint
    obtain ⟨n, hn⟩ := Int.eq_ofNat_of_zero_le (neg_nonneg.2 hpoint)
    rw [hn, Int.toNat_natCast]
    refine exists_pointed (j := 0) ⟨isDigits_zeros 1, List.cons_ne_nil _ _⟩
      ⟨IsDigits.append (isDigits_zeros n) hdigits, by simp [hne]⟩ ?_ ?_
    · simp [Nat.ofDigitChars_append, Nat.ofDigitChars_cons, hvalue]
    · simp
      omega
  · rename_i hpoint
    split
    · -- All digits stand before the point, and zeros behind them.
      rename_i hlength
      obtain ⟨n, hn⟩ := Int.eq_ofNat_of_zero_le (show 0 ≤ d.exponent by omega)
      have hzeros : ((ds.length : ℤ) + d.exponent).toNat - ds.length = n := by omega
      rw [hzeros]
      refine exists_pointed (j := n + 1) ⟨IsDigits.append hdigits (isDigits_zeros n), by simp [hne]⟩
        ⟨isDigits_zeros 1, List.cons_ne_nil _ _⟩ ?_ ?_
      · simp [Nat.ofDigitChars_append, Nat.ofDigitChars_cons, hvalue]
        ring
      · simp [hn]
    · -- The point stands among the digits.
      rename_i hlength
      obtain ⟨n, hn⟩ := Int.eq_ofNat_of_zero_le (show 0 ≤ (ds.length : ℤ) + d.exponent by omega)
      rw [hn] at hlength ⊢
      simp only [Int.toNat_natCast] at hlength ⊢
      refine exists_pointed (j := 0)
        ⟨fun c hc => hdigits c (List.mem_of_mem_take hc), by simp [hne]; omega⟩
        ⟨fun c hc => hdigits c (List.mem_of_mem_drop hc), by simp; omega⟩ ?_ ?_
      · simp [hvalue]
      · simp
        omega

theorem isDigits_padded (width n : ℕ) : IsDigits (Decimal.padded width n) :=
  IsDigits.append (isDigits_zeros _) (isDigits_digitsOf n)

theorem padded_ne_nil (width n : ℕ) : Decimal.padded width n ≠ [] := by
  have : Decimal.digitsOf n ≠ [] := Nat.toDigits_ne_nil
  simp [Decimal.padded, this]

theorem ofDigitChars_padded (width n : ℕ) :
    Nat.ofDigitChars 10 (Decimal.padded width n) 0 = n := by
  simp [Decimal.padded, Nat.ofDigitChars_append, ofDigitChars_digitsOf]

/-- The exponent that scientific notation writes. -/
theorem exists_exponent (x : ℤ) :
    ∃ y : Bool × List Char, y = (decide (x < 0), Decimal.padded 2 x.natAbs) ∧
      (IsDigits y.2 ∧ y.2 ≠ []) ∧ Exact.signed y.1 (Nat.ofDigitChars 10 y.2 0) = x := by
  refine ⟨_, rfl, ⟨isDigits_padded 2 _, padded_ne_nil 2 _⟩, ?_⟩
  rw [ofDigitChars_padded, Exact.signed]
  by_cases h : x < 0
  · rw [if_pos (by simpa using h)]
    omega
  · rw [if_neg (by simpa using h)]
    omega

/-- Scientific notation of a decimal is a numeral with an exponent. -/
theorem exists_scientific (d : Decimal) :
    ∃ p : Parts, scientific (Decimal.digitsOf d.digits)
        ((Decimal.digitsOf d.digits).length + d.exponent - 1) = p.chars ∧
      p.WellFormed ∧ p.IsDouble ∧ p.value = d.value := by
  obtain ⟨ds, hds⟩ : ∃ ds, ds = Decimal.digitsOf d.digits := ⟨_, rfl⟩
  have hdigits : IsDigits ds := hds ▸ isDigits_digitsOf d.digits
  have hvalue : Nat.ofDigitChars 10 ds 0 = d.digits := hds ▸ ofDigitChars_digitsOf d.digits
  have hne : ds ≠ [] := hds ▸ Nat.toDigits_ne_nil
  rw [← hds]
  obtain ⟨x, hx⟩ : ∃ x, x = (ds.length : ℤ) + d.exponent - 1 := ⟨_, rfl⟩
  obtain ⟨exponent, hexponent, hpadded, hwritten⟩ := exists_exponent x
  have hsome : ∀ y ∈ some exponent, IsDigits y.2 ∧ y.2 ≠ [] := by
    rintro y ⟨⟩
    exact hpadded
  cases ds with
  | nil => exact absurd rfl hne
  | cons c rest =>
    have hc : IsDigits [c] := fun b hb => by
      rw [List.mem_singleton.1 hb]
      exact hdigits c List.mem_cons_self
    rw [← hx]
    -- A single digit has no point after it.
    cases rest with
    | nil =>
      refine ⟨⟨[c], none, some exponent⟩, ?_, ⟨⟨hc, by simp⟩, ?_, hsome⟩, .inr (by simp), ?_⟩
      · simp [scientific, Parts.chars, Parts.fractionChars, Parts.exponentChars, hexponent]
      · rintro fraction ⟨⟩
      · refine value_eq (j := 0) ?_ ?_
        · simp [Parts.mantissa, hvalue]
        · simp only [Parts.scale, Parts.writtenExponent, hwritten]
          simp at hx ⊢
          omega
    | cons c' rest =>
      have hrest : IsDigits (c' :: rest) := fun b hb => hdigits b (List.mem_cons_of_mem c hb)
      refine ⟨⟨[c], some (c' :: rest), some exponent⟩, ?_, ⟨⟨hc, by simp⟩, ?_, hsome⟩,
        .inl (by simp), ?_⟩
      · simp [scientific, Parts.chars, Parts.fractionChars, Parts.exponentChars, hexponent]
      · rintro fraction ⟨⟩
        exact ⟨hrest, by simp⟩
      · refine value_eq (j := 0) ?_ ?_
        · simp [Parts.mantissa, hvalue]
        · simp only [Parts.scale, Parts.writtenExponent, hwritten]
          simp at hx ⊢
          omega

/-- Either notation is a numeral of the same number. -/
theorem exists_renderDecimal {f : FloatFormat} (hf : f.keepsPoint = true) (d : Decimal) :
    ∃ p : Parts, f.renderDecimal d = p.chars ∧ p.WellFormed ∧ p.IsDouble ∧ p.value = d.value := by
  rw [renderDecimal]
  simp only [hf]
  split
  · rw [sub_add_cancel]
    exact exists_positional d
  · exact exists_scientific d

end FloatFormat

/-! ## The text of a double -/

namespace Double

open Numeral (Parts unsigned? unsigned?_chars)

theorem ofModel_pack_unpack (x : Float) : Float.ofModel (.pack x.toModel.unpack) = x := by
  rw [pack_unpack_model]

theorem eq_nan_of_ofFloat {x : Float} (h : Exact.ofFloat x = .nan) : x = nan := by
  have hself := ofModel_pack_unpack x
  rw [Exact.ofFloat] at h
  split at h
  · rename_i hunpack
    rw [hunpack] at hself
    exact hself.symm
  all_goals cases h

theorem eq_infinity_of_ofFloat {x : Float} {isNegative : Bool}
    (h : Exact.ofFloat x = .infinite isNegative) : x = infinity isNegative := by
  have hself := ofModel_pack_unpack x
  rw [Exact.ofFloat] at h
  split at h
  · cases h
  · rename_i s hunpack
    cases h
    rw [hunpack] at hself
    rw [← hself]
    cases s <;> rfl
  all_goals cases h

/-- The negative of a canonical double has the other sign. -/
theorem neg_toFloat {m : ℕ} {e : ℤ} (hc : Canonical m e) :
    -hc.toFloat = .ofModel (.pack (.finite .negative m e hc.pos)) := by
  show Float.ofModel (.pack (Float.Model.pack (.finite .positive m e hc.pos)).unpack.neg) = _
  rw [hc.unpack_pack]
  rfl

/-- **The text of a finite double is a numeral that reads back as the double**, after a sign if the
    double is negative. -/
theorem exists_numeral {x : Float} {isNegative : Bool} {m : ℕ} {e : ℤ}
    (hx : Exact.ofFloat x = .finite isNegative m e) :
    ∃ p : Parts, p.WellFormed ∧ p.IsDouble ∧
      (Double.text x).toList = (if isNegative then '-' :: p.chars else p.chars) ∧
      ∃ y, unsigned? p.chars = some y ∧ (if isNegative then -y else y) = x := by
  rw [Double.text, FloatFormat.render, hx]
  rw [Exact.ofFloat] at hx
  have hself := ofModel_pack_unpack x
  -- Infinities and what is no number are not finite, a zero has its own text.
  split at hx
  · cases hx
  · cases hx
  · rename_i s hunpack
    injection hx with hs hm he
    subst hs hm he
    have hwell : (⟨['0'], some ['0'], none⟩ : Parts).WellFormed := by
      refine ⟨⟨FloatFormat.isDigits_zeros 1, by simp⟩, ?_, ?_⟩
      · rintro fraction ⟨⟩
        exact ⟨FloatFormat.isDigits_zeros 1, by simp⟩
      · rintro y ⟨⟩
    refine ⟨_, hwell, .inl (by simp), ?_, _, unsigned?_chars hwell, ?_⟩
    · cases s <;> simp [Exact.ofSign, Parts.chars, Parts.fractionChars, Parts.exponentChars, format]
    · rw [hunpack] at hself
      rw [← hself]
      cases s <;> decide +kernel
  · rename_i s m' e' hm' hunpack
    injection hx with hs hm he
    subst hs hm he
    have hc := Canonical.of_unpack hunpack
    obtain ⟨p, hchars, hwell, hdouble, hvalue⟩ :=
      FloatFormat.exists_renderDecimal (f := format) rfl (Decimal.shortest m' e')
    have hround : RoundsTo m' e' (p.mantissa * 10 ^ p.scale) := by
      rw [← Parts.value, hvalue]
      exact Decimal.roundsTo_shortest hc
    -- The digits are not all zeros, for zero is not in the rounding interval.
    have hpos : 0 < p.mantissa := by
      rcases Nat.eq_zero_or_pos p.mantissa with hzero | hpos
      · have hsmall := hround.ten_pow_lt hc
        rw [hzero, Nat.cast_zero, zero_mul] at hsmall
        exact absurd hsmall (not_lt.2 (by positivity))
      · exact hpos
    refine ⟨p, hwell, hdouble, ?_, hc.toFloat, ?_, ?_⟩
    · rw [String.toList_ofList, if_neg hm'.ne', hchars]
    · rw [unsigned?_chars hwell, hround.scaled hc hpos]
    · rw [hunpack] at hself
      rw [← hself]
      cases s with
      | positive => rfl
      | negative => exact neg_toFloat hc

end Double

end SpriteStage
