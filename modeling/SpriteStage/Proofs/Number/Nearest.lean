import SpriteStage.Proofs.Number.Rational

/-!
# Rounding keeps the order

A sum of doubles is the double that is nearest to the sum of their rational numbers, or infinite.  Rounding
keeps the order of numbers and keeps doubles as they are.  So a greater double gives no lesser sum, and sums
that are doubles are exact.

## Main definitions

* `Rounded` and `Rounds` relate a rational number to the one that it is rounded to
* `HasLevel` is the place of the parts of a double in the order, with the infinities at its ends

## Main results

* `Double.add_le_add_right` is the monotony of addition
* `Double.standsFor_add` is the exactness of sums that are doubles
-/

namespace SpriteStage

open Float.Model (Format UnpackedFloat totalExponent)
open Float.Model.UnpackedFloat

/-! ## Rounding -/

/-- A greater fraction is not rounded to a lesser natural. -/
theorem Decimal.roundHalfEven_mono {a b a' b' : ℕ} (hb : 0 < b) (hb' : 0 < b') (h : a * b' ≤ a' * b) :
    roundHalfEven a b ≤ roundHalfEven a' b' := by
  have hdiv : b * (a / b) + a % b = a := Nat.div_add_mod a b
  have hdiv' : b' * (a' / b') + a' % b' = a' := Nat.div_add_mod a' b'
  have hrest : a % b < b := Nat.mod_lt a hb
  have hrest' : a' % b' < b' := Nat.mod_lt a' hb'
  have hle : a / b ≤ a' / b' := by
    rw [Nat.le_div_iff_mul_le hb', ← Nat.mul_le_mul_right_iff hb]
    calc a / b * b' * b = a / b * b * b' := by ring
      _ ≤ a * b' := Nat.mul_le_mul_right b' (Nat.div_mul_le_self a b)
      _ ≤ a' * b := h
  rcases hle.lt_or_eq with hlt | heq
  · have hleft : roundHalfEven a b ≤ a / b + 1 := roundHalfEven_le (by rw [Nat.add_mul]; nlinarith)
    have hright : a' / b' ≤ roundHalfEven a' b' := le_roundHalfEven hb' (Nat.div_mul_le_self a' b')
    omega
  · -- With the same whole part, the greater remainder is at least as much of its denominator.
    have hpart : a % b * b' ≤ a' % b' * b := by
      have hwhole : b * (a / b) * b' = b' * (a' / b') * b := by rw [heq]; ring
      rw [← hdiv, ← hdiv', Nat.add_mul, Nat.add_mul, hwhole] at h
      omega
    rcases roundHalfEven_cases a b with ⟨hsmall, hr⟩ | ⟨hhalf, hr⟩ | ⟨hlarge, hr⟩ <;>
      rcases roundHalfEven_cases a' b' with ⟨hsmall', hr'⟩ | ⟨hhalf', hr'⟩ | ⟨hlarge', hr'⟩ <;>
        rw [hr, hr', heq]
    · split <;> omega
    · omega
    · exfalso
      nlinarith
    · split <;> omega
    · exfalso
      nlinarith
    · exfalso
      nlinarith

/-- A number that is at least zero is rounded to 53 bits, or to fewer at the least exponent. -/
def Rounded (v w : ℚ) : Prop :=
  ∃ (a b : ℕ) (t : ℤ), 0 < b ∧ -1074 ≤ t ∧ v = a / b * 2 ^ t ∧ v < 2 ^ (t + 53) ∧
    (-1074 < t → (2 : ℚ) ^ (t + 52) ≤ v) ∧ w = Decimal.roundHalfEven a b * 2 ^ t

namespace Rounded

variable {v w v' w' : ℚ}

theorem nonneg (h : Rounded v w) : 0 ≤ v ∧ 0 ≤ w := by
  obtain ⟨a, b, t, -, -, rfl, -, -, rfl⟩ := h
  constructor <;> positivity

/-- **Rounding keeps the order.** -/
theorem mono (h : Rounded v w) (h' : Rounded v' w') (hle : v ≤ v') : w ≤ w' := by
  obtain ⟨a, b, t, hb, hmin, rfl, hlt, hge, rfl⟩ := h
  obtain ⟨a', b', t', hb', hmin', rfl, hlt', hge', rfl⟩ := h'
  rcases lt_trichotomy t t' with hbelow | rfl | habove
  · -- The next power of two lies in between.
    have hbits := rounded_bits hb hmin hlt hge
    have hbits' := rounded_bits hb' hmin' hlt' hge'
    have hnormal := hbits'.2.resolve_right (by omega)
    calc (Decimal.roundHalfEven a b * 2 ^ t : ℚ) ≤ 2 ^ 53 * 2 ^ t :=
          mul_le_mul_of_nonneg_right (by exact_mod_cast hbits.1) (by positivity)
      _ = 2 ^ 52 * 2 ^ (t + 1) := by rw [zpow_add_one₀ two_ne_zero]; ring
      _ ≤ 2 ^ 52 * 2 ^ t' :=
          mul_le_mul_of_nonneg_left (zpow_le_zpow_right₀ one_le_two (by omega)) (by positivity)
      _ ≤ Decimal.roundHalfEven a' b' * 2 ^ t' :=
          mul_le_mul_of_nonneg_right (by exact_mod_cast hnormal) (by positivity)
  · refine mul_le_mul_of_nonneg_right ?_ (by positivity)
    have hfraction := le_of_mul_le_mul_right hle (by positivity)
    rw [div_le_div_iff₀ (by exact_mod_cast hb) (by exact_mod_cast hb')] at hfraction
    exact_mod_cast Decimal.roundHalfEven_mono hb hb' (by exact_mod_cast hfraction)
  · exfalso
    have hchain : (2 : ℚ) ^ (t + 52) < 2 ^ (t' + 53) := (hge (by omega)).trans_lt (hle.trans_lt hlt')
    have := (zpow_lt_zpow_iff_right₀ one_lt_two).1 hchain
    omega

theorem zero : Rounded 0 0 := by
  have hzero : Decimal.roundHalfEven 0 1 = 0 := rfl
  exact ⟨0, 1, -1074, Nat.one_pos, le_rfl, by simp, by positivity, fun h => absurd h (lt_irrefl _),
    by simp [hzero]⟩

end Rounded

/-- A double is rounded to itself. -/
theorem Canonical.rounded {m : ℕ} {e : ℤ} (hc : Canonical m e) : Rounded (m * 2 ^ e) (m * 2 ^ e) := by
  have hself : Decimal.roundHalfEven m 1 = m :=
    le_antisymm (Decimal.roundHalfEven_le (by omega)) (Decimal.le_roundHalfEven Nat.one_pos (by omega))
  refine ⟨m, 1, e, Nat.one_pos, hc.exponent_ge, by simp, ?_, fun hmin => ?_, by rw [hself]⟩
  · rw [show e + 53 = e + (53 : ℕ) by push_cast; ring, two_zpow_add, zpow_natCast]
    exact mul_lt_mul_of_pos_right (by exact_mod_cast hc.lt) (by positivity)
  · have hnormal := hc.normal.resolve_right (by omega)
    rw [show e + 52 = e + (52 : ℕ) by push_cast; ring, two_zpow_add, zpow_natCast]
    exact mul_le_mul_of_nonneg_right (by exact_mod_cast hnormal) (by positivity)

/-- A number of either sign is rounded. -/
def Rounds (q w : ℚ) : Prop := (0 ≤ q ∧ Rounded q w) ∨ (q ≤ 0 ∧ Rounded (-q) (-w))

namespace Rounds

variable {q w q' w' : ℚ} {u : UnpackedFloat}

theorem mono (h : Rounds q w) (h' : Rounds q' w') (hle : q ≤ q') : w ≤ w' := by
  rcases h with ⟨hq, h⟩ | ⟨hq, h⟩ <;> rcases h' with ⟨hq', h'⟩ | ⟨hq', h'⟩
  · exact h.mono h' hle
  · obtain rfl : q = 0 := by linarith
    obtain rfl : q' = 0 := by linarith
    have hw := h.mono .zero le_rfl
    have hw' := h'.mono .zero (by simp)
    linarith
  · have hw := h.nonneg.2
    have hw' := h'.nonneg.2
    linarith
  · have hw := h'.mono h (by linarith)
    linarith

theorem unique (h : Rounds q w) (h' : Rounds q w') : w = w' :=
  le_antisymm (h.mono h' le_rfl) (h'.mono h le_rfl)

/-- A double is rounded to itself. -/
theorem of_standsFor (h : StandsFor u q) : Rounds q q := by
  cases h with
  | zero s => exact .inl ⟨le_rfl, .zero⟩
  | positive hc => exact .inl ⟨hc.value_pos.le, hc.rounded⟩
  | negative hc => exact .inr ⟨(neg_neg_of_pos hc.value_pos).le, by rw [neg_neg]; exact hc.rounded⟩

end Rounds

/-! ## The order with the infinities -/

/-- The place of the parts of a double in the order. -/
inductive HasLevel : UnpackedFloat → WithBot (WithTop ℚ) → Prop where
  | rational {u : UnpackedFloat} {q : ℚ} (h : StandsFor u q) : HasLevel u ((q : WithTop ℚ) : WithBot (WithTop ℚ))
  | top : HasLevel (.infinity .positive) ⊤
  | bot : HasLevel (.infinity .negative) ⊥

/-- The numbers from here on are past the range of doubles. -/
def rangeEnd : ℚ := 2 ^ (1024 : ℤ)

/-- What is rounded to a number past the range becomes infinite. -/
def bounded (w : ℚ) : WithBot (WithTop ℚ) :=
  if rangeEnd ≤ w then ⊤ else if w ≤ -rangeEnd then ⊥ else ((w : WithTop ℚ) : WithBot (WithTop ℚ))

theorem bounded_mono : Monotone bounded := by
  intro w w' hle
  have hpos : 0 < rangeEnd := by unfold rangeEnd; positivity
  rw [bounded, bounded]
  by_cases hhigh : rangeEnd ≤ w'
  · rw [if_pos hhigh]
    exact le_top
  · rw [if_neg hhigh, if_neg fun h => hhigh (h.trans hle)]
    by_cases hlow : w ≤ -rangeEnd
    · rw [if_pos hlow]
      exact bot_le
    · rw [if_neg hlow, if_neg fun h => hlow (hle.trans h)]
      exact WithBot.coe_le_coe.2 (WithTop.coe_le_coe.2 hle)

theorem Canonical.lt_rangeEnd {m : ℕ} {e : ℤ} (hc : Canonical m e) : (m * 2 ^ e : ℚ) < rangeEnd := by
  have hlarge := hc.exponent_le
  calc (m * 2 ^ e : ℚ) < 2 ^ 53 * 2 ^ e :=
        mul_lt_mul_of_pos_right (by exact_mod_cast hc.lt) (by positivity)
    _ ≤ 2 ^ 53 * 2 ^ (971 : ℤ) :=
        mul_le_mul_of_nonneg_left (zpow_le_zpow_right₀ one_le_two hlarge) (by positivity)
    _ = rangeEnd := by
      rw [rangeEnd, show (1024 : ℤ) = 971 + (53 : ℕ) by norm_num, two_zpow_add, zpow_natCast]

/-- Finite doubles are within the range. -/
theorem StandsFor.bounded_eq {u : UnpackedFloat} {q : ℚ} (h : StandsFor u q) :
    bounded q = ((q : WithTop ℚ) : WithBot (WithTop ℚ)) := by
  have hwithin : -rangeEnd < q ∧ q < rangeEnd := by
    have hpos : 0 < rangeEnd := by unfold rangeEnd; positivity
    cases h with
    | zero s => exact ⟨neg_neg_of_pos hpos, hpos⟩
    | positive hc => exact ⟨(neg_neg_of_pos hpos).trans hc.value_pos, hc.lt_rangeEnd⟩
    | negative hc => exact ⟨neg_lt_neg hc.lt_rangeEnd, (neg_neg_of_pos hc.value_pos).trans hpos⟩
  rw [bounded, if_neg (not_le.2 hwithin.2), if_neg (not_le.2 hwithin.1)]

namespace HasLevel

variable {u v : UnpackedFloat} {a b : WithBot (WithTop ℚ)}

theorem compare (hu : HasLevel u a) (hv : HasLevel v b) : u.compare v = some (Ord.compare a b) := by
  cases hu with
  | rational h =>
    cases hv with
    | rational h' =>
      have hcast : StrictMono fun q : ℚ => ((q : WithTop ℚ) : WithBot (WithTop ℚ)) := fun _ _ h =>
        WithBot.coe_lt_coe.2 (WithTop.coe_lt_coe.2 h)
      rw [h.compare h', compare_map hcast]
    | top =>
      rw [compare_lt_iff_lt.2 (WithBot.coe_lt_coe.2 (WithTop.coe_lt_top _))]
      cases h <;> rfl
    | bot =>
      rw [compare_gt_iff_gt.2 (WithBot.bot_lt_coe _)]
      cases h <;> rfl
  | top =>
    cases hv with
    | rational h' =>
      rw [compare_gt_iff_gt.2 (WithBot.coe_lt_coe.2 (WithTop.coe_lt_top _))]
      cases h' <;> rfl
    | top => rfl
    | bot => rfl
  | bot =>
    cases hv with
    | rational h' =>
      rw [compare_lt_iff_lt.2 (WithBot.bot_lt_coe _)]
      cases h' <;> rfl
    | top => rfl
    | bot => rfl

/-- What is not not-a-number has a place in the order. -/
theorem exists_of_isNaN {x : Float} (hx : x.isNaN = false) : ∃ a, HasLevel x.toModel.unpack a := by
  have hne := Double.unpack_ne_notANumber hx
  cases hu : x.toModel.unpack with
  | notANumber => exact absurd hu hne
  | infinity s =>
    cases s
    · exact ⟨_, .bot⟩
    · exact ⟨_, .top⟩
  | zero s => exact ⟨_, .rational (.zero s)⟩
  | finite s m e hm =>
    have hc := Canonical.of_unpack hu
    cases s
    · exact ⟨_, .rational (.negative hc)⟩
    · exact ⟨_, .rational (.positive hc)⟩

theorem le_iff {x y : Float} (hx : HasLevel x.toModel.unpack a) (hy : HasLevel y.toModel.unpack b) :
    x ≤ y ↔ a ≤ b := by
  rw [Double.le_iff, hx.compare hy]
  rcases lt_trichotomy a b with h | rfl | h
  · simp [compare_lt_iff_lt.2 h, h.le]
  · simp
  · simp [compare_gt_iff_gt.2 h, h]

end HasLevel

/-! ## Rounded parts -/

/-- A magnitude with a sign. -/
def signedBy (s : Sign) (w : ℚ) : ℚ :=
  match s with
  | .negative => -w
  | .positive => w

/-- Parts with 53 bits, or fewer at the least exponent, keep their place in the order when they are packed,
    unless they are past the range. -/
theorem hasLevel_finite {m : ℕ} {e : ℤ} (hm : 0 < m) (hlt : m < 2 ^ 53) (hmin : -1074 ≤ e)
    (hnormal : 2 ^ 52 ≤ m ∨ e = -1074) (s : Sign) :
    HasLevel (Float.Model.pack (.finite s m e hm)).unpack (bounded (signedBy s (m * 2 ^ e))) := by
  by_cases hmax : e ≤ 971
  · -- Within the range the parts are those of a double.
    have hc : Canonical m e := ⟨hm, hlt, hmin, hmax, hnormal⟩
    have hstands : StandsFor (.finite s m e hm) (signedBy s (m * 2 ^ e)) := by
      cases s
      · exact .negative hc
      · exact .positive hc
    rw [hstands.unpack_pack, hstands.bounded_eq]
    exact .rational hstands
  · -- Past the range the exponent is too great for a mantissa with all its bits.
    have hpast : rangeEnd ≤ m * 2 ^ e := by
      have hm' : 2 ^ 52 ≤ m := hnormal.resolve_right (by omega)
      calc rangeEnd = 2 ^ 52 * 2 ^ (972 : ℤ) := by
            rw [rangeEnd, show (1024 : ℤ) = 972 + (52 : ℕ) by norm_num, two_zpow_add, zpow_natCast]
        _ ≤ 2 ^ 52 * 2 ^ e :=
            mul_le_mul_of_nonneg_left (zpow_le_zpow_right₀ one_le_two (by omega)) (by positivity)
        _ ≤ m * 2 ^ e := mul_le_mul_of_nonneg_right (by exact_mod_cast hm') (by positivity)
    rw [pack_of_large (by omega) s hm]
    cases s with
    | negative =>
      have hpos : 0 < rangeEnd := by unfold rangeEnd; positivity
      have hlow : signedBy .negative (m * 2 ^ e : ℚ) ≤ -rangeEnd := neg_le_neg hpast
      have hhigh : ¬ rangeEnd ≤ signedBy .negative (m * 2 ^ e : ℚ) := fun h =>
        absurd (h.trans hlow) (not_le.2 ((neg_neg_of_pos hpos).trans hpos))
      rw [bounded, if_neg hhigh, if_pos hlow]
      exact .bot
    | positive =>
      have hhigh : rangeEnd ≤ signedBy .positive (m * 2 ^ e : ℚ) := hpast
      rw [bounded, if_pos hhigh]
      exact .top

/-- **A positive number is rounded to the nearest double**, or past the range to an infinity. -/
theorem exists_rounded {M : ℕ} (hM : 0 < M) (E : ℤ) :
    ∃ w, Rounded (M * 2 ^ E) w ∧ ∀ s,
      HasLevel (Float.Model.pack (UnpackedFloat.round .binary64 s M E)).unpack (bounded (signedBy s w)) := by
  obtain ⟨a, d, hvalue, htarget, hround⟩ := round_eq hM E
  obtain ⟨t, ht⟩ : ∃ t, t = Format.binary64.targetExponent (totalExponent (a / 1) d) := ⟨_, rfl⟩
  have hmin : -1074 ≤ t := by
    rw [ht, targetExponent_eq]
    exact le_max_right _ _
  rw [← ht] at htarget
  obtain ⟨hfirst, hexponent⟩ := shift_fraction (a := a) Nat.one_pos htarget ht
  obtain ⟨b, hb⟩ : ∃ b, b = 1 * 2 ^ (t - d).toNat := ⟨_, rfl⟩
  have hbpos : 0 < b := hb ▸ Nat.mul_pos Nat.one_pos (Nat.two_pow_pos _)
  have hfraction : (a / b * 2 ^ t : ℚ) = M * 2 ^ E := by
    rw [hb, ← value_at_exponent htarget, Nat.cast_one, div_one, hvalue]
  have hsame : (a / (1 : ℕ) * 2 ^ d : ℚ) = a / b * 2 ^ t := by rw [hfraction, Nat.cast_one, div_one, hvalue]
  have hlt := hsame ▸ value_lt Nat.one_pos ht
  have hge := fun h => hsame ▸ value_ge htarget ht h
  have hbits := rounded_bits hbpos hmin hlt hge
  refine ⟨Decimal.roundHalfEven a b * 2 ^ t, ⟨a, b, t, hbpos, hmin, hfraction.symm, hfraction ▸ hlt,
    fun h => hfraction ▸ hge h, rfl⟩, fun s => ?_⟩
  rw [← hb] at hfirst
  generalize Decimal.roundHalfEven a b = n at hfirst hbits
  rw [hround]
  rcases hbits.1.lt_or_eq with hsmall | rfl
  · obtain ⟨hmantissa, hsecond⟩ := shift_of_lt hsmall hmin
    rcases Nat.eq_zero_or_pos n with rfl | hpos
    · have hzero : UnpackedFloat.roundWithAccuracy .binary64 s (a / 1) d (accuracyOfFraction (a % 1) 1) =
          .zero s := by
        rw [UnpackedFloat.roundWithAccuracy]
        simp only [hfirst, hexponent]
        exact dif_pos hmantissa
      have hstands := StandsFor.zero s
      have hvalue : signedBy s ((0 : ℕ) * 2 ^ t : ℚ) = 0 := by cases s <;> simp [signedBy]
      rw [hzero, hvalue, hstands.unpack_pack, hstands.bounded_eq]
      exact .rational hstands
    · rw [roundWithAccuracy_eq hpos hfirst hexponent hmantissa hsecond]
      exact hasLevel_finite hpos hsmall hmin hbits.2 s
  · -- The next power of two has been reached.
    obtain ⟨hmantissa, hsecond⟩ := shift_two_pow hmin
    have hvalue : ((2 ^ 53 : ℕ) * 2 ^ t : ℚ) = (2 ^ 52 : ℕ) * 2 ^ (t + 1) := by
      rw [zpow_add_one₀ two_ne_zero]
      push_cast
      ring
    rw [roundWithAccuracy_eq (by decide) hfirst hexponent hmantissa hsecond, hvalue]
    exact hasLevel_finite (by decide) (by decide) (by omega) (.inl le_rfl) s

/-- **A number of either sign is rounded to the nearest double.** -/
theorem exists_normalized (N E : ℤ) (zeroSign : Sign) :
    ∃ w, Rounds (N * 2 ^ E) w ∧
      HasLevel (Float.Model.pack (UnpackedFloat.normalize .binary64 N E zeroSign)).unpack (bounded w) := by
  rw [UnpackedFloat.normalize]
  rcases lt_trichotomy N 0 with hN | rfl | hN
  · rw [compare_lt_iff_lt.2 hN]
    -- The sign is taken off and put back after rounding.
    obtain ⟨M, rfl⟩ : ∃ M : ℕ, N = -M := ⟨N.natAbs, by omega⟩
    obtain ⟨w, hw, hlevel⟩ := exists_rounded (M := M) (by omega) E
    refine ⟨-w, .inr ⟨?_, ?_⟩, ?_⟩
    · push_cast
      rw [neg_mul, neg_nonpos]
      positivity
    · push_cast
      rwa [neg_mul, neg_neg, neg_neg]
    · simp only [neg_neg, Int.toNat_natCast]
      exact hlevel .negative
  · have hzero := StandsFor.zero zeroSign
    refine ⟨0, .inl ⟨by simp, by simpa using Rounded.zero⟩, ?_⟩
    rw [compare_eq_iff_eq.2 rfl, hzero.bounded_eq]
    simp only [hzero.unpack_pack]
    exact .rational hzero
  · rw [compare_gt_iff_gt.2 hN]
    obtain ⟨M, rfl⟩ : ∃ M : ℕ, N = M := ⟨N.natAbs, by omega⟩
    obtain ⟨w, hw, hlevel⟩ := exists_rounded (M := M) (by omega) E
    refine ⟨w, .inl ⟨?_, ?_⟩, ?_⟩
    · positivity
    · exact_mod_cast hw
    · simp only [Int.toNat_natCast]
      exact hlevel .positive

/-! ## Sums -/

namespace StandsFor

variable {u v : UnpackedFloat} {p q : ℚ}

theorem cases_on_sign (h : StandsFor u q) :
    (∃ s, u = .zero s ∧ q = 0) ∨
      ∃ (s : Sign) (m : ℕ) (e : ℤ) (hm : 0 < m), u = .finite s m e hm ∧ q = (s.apply m : ℤ) * 2 ^ e := by
  cases h with
  | zero s => exact .inl ⟨s, rfl, rfl⟩
  | positive hc => exact .inr ⟨.positive, _, _, hc.pos, rfl, by simp [Sign.apply]⟩
  | negative hc => exact .inr ⟨.negative, _, _, hc.pos, rfl, by simp [Sign.apply]⟩

/-- A finite double keeps its place. -/
theorem exists_self (h : StandsFor u q) :
    ∃ w, Rounds q w ∧ HasLevel (Float.Model.pack u).unpack (bounded w) :=
  ⟨q, .of_standsFor h, by rw [h.unpack_pack, h.bounded_eq]; exact .rational h⟩

/-- **A sum of finite doubles is the rounded sum of their rational numbers.** -/
theorem exists_add (hu : StandsFor u p) (hv : StandsFor v q) :
    ∃ w, Rounds (p + q) w ∧
      HasLevel (Float.Model.pack (UnpackedFloat.add .binary64 u v)).unpack (bounded w) := by
  have hfinite := hu
  have hfinite' := hv
  rcases hu.cases_on_sign with ⟨s, rfl, rfl⟩ | ⟨s, m, e, hm, rfl, hp⟩ <;>
    rcases hv.cases_on_sign with ⟨s', rfl, rfl⟩ | ⟨s', m', e', hm', rfl, hq⟩
  · -- Two zeros are a zero, whatever their signs are.
    rw [add_zero, UnpackedFloat.add]
    split
    · exact (StandsFor.zero s).exists_self
    · exact (StandsFor.zero .positive).exists_self
  · rw [zero_add]
    exact hfinite'.exists_self
  · rw [add_zero]
    exact hfinite.exists_self
  · rw [UnpackedFloat.add]
    -- On the grid of the lesser exponent the sum is exact; it is rounded once.
    simp only [decreaseExponent, Nat.shiftLeft_eq]
    obtain ⟨d, hd⟩ : ∃ d, d = min e e' := ⟨_, rfl⟩
    have hshift (s : Sign) (n : ℕ) {k : ℤ} (hk : d ≤ k) :
        ((s.apply (n * 2 ^ (k - d).toNat) : ℤ) * 2 ^ d : ℚ) = (s.apply n : ℤ) * 2 ^ k := by
      have hvalue := value_at_lower n hk
      cases s
      · simp only [Sign.apply]
        push_cast at hvalue ⊢
        rw [neg_mul, neg_mul, hvalue]
      · simp only [Sign.apply]
        push_cast at hvalue ⊢
        rw [hvalue]
    rw [← hd, hp, hq, ← hshift s m (hd ▸ min_le_left e e'), ← hshift s' m' (hd ▸ min_le_right e e'), ← add_mul,
      ← Int.cast_add]
    exact exists_normalized _ _ _

end StandsFor

/-- What a sum with a finite double is: an infinite summand stays what it is. -/
inductive SumsTo (r : ℚ) : WithBot (WithTop ℚ) → WithBot (WithTop ℚ) → Prop where
  | rational {q w : ℚ} (h : Rounds (q + r) w) : SumsTo r ((q : WithTop ℚ) : WithBot (WithTop ℚ)) (bounded w)
  | top : SumsTo r ⊤ ⊤
  | bot : SumsTo r ⊥ ⊥

theorem SumsTo.mono {r : ℚ} {a a' b b' : WithBot (WithTop ℚ)} (h : SumsTo r a b) (h' : SumsTo r a' b')
    (hle : a ≤ a') : b ≤ b' := by
  cases h with
  | rational h =>
    cases h' with
    | rational h' =>
      have hq := WithTop.coe_le_coe.1 (WithBot.coe_le_coe.1 hle)
      exact bounded_mono (h.mono h' (add_le_add_left hq r))
    | top => exact le_top
    | bot => exact absurd hle (not_le.2 (WithBot.bot_lt_coe _))
  | top =>
    cases h' with
    | rational h' => exact absurd hle (not_le.2 (WithBot.coe_lt_coe.2 (WithTop.coe_lt_top _)))
    | top => exact le_rfl
    | bot => exact hle
  | bot => exact bot_le

namespace HasLevel

variable {u v : UnpackedFloat} {a : WithBot (WithTop ℚ)} {r : ℚ}

theorem exists_add (hu : HasLevel u a) (hv : StandsFor v r) :
    ∃ b, SumsTo r a b ∧ HasLevel (Float.Model.pack (UnpackedFloat.add .binary64 u v)).unpack b := by
  cases hu with
  | rational h =>
    obtain ⟨w, hw, hlevel⟩ := h.exists_add hv
    exact ⟨_, .rational hw, hlevel⟩
  | top =>
    have hsum : UnpackedFloat.add .binary64 (.infinity .positive) v = .infinity .positive := by cases hv <;> rfl
    exact ⟨⊤, .top, by rw [hsum]; exact .top⟩
  | bot =>
    have hsum : UnpackedFloat.add .binary64 (.infinity .negative) v = .infinity .negative := by cases hv <;> rfl
    exact ⟨⊥, .bot, by rw [hsum]; exact .bot⟩

/-- Only the infinities are at the ends. -/
theorem eq_of_top (h : HasLevel u ⊤) : u = .infinity .positive := by
  generalize ha : (⊤ : WithBot (WithTop ℚ)) = a at h
  cases h with
  | rational h => exact absurd ha (WithBot.coe_lt_coe.2 (WithTop.coe_lt_top _)).ne'
  | top => rfl
  | bot => exact absurd ha top_ne_bot

theorem eq_of_bot (h : HasLevel u ⊥) : u = .infinity .negative := by
  generalize ha : (⊥ : WithBot (WithTop ℚ)) = a at h
  cases h with
  | rational h => exact absurd ha (WithBot.bot_lt_coe _).ne
  | top => exact absurd ha bot_ne_top
  | bot => rfl

/-- Only finite doubles have a rational number as their place. -/
theorem standsFor (h : HasLevel u ((r : WithTop ℚ) : WithBot (WithTop ℚ))) : StandsFor u r := by
  generalize ha : ((r : WithTop ℚ) : WithBot (WithTop ℚ)) = a at h
  cases h with
  | rational h =>
    obtain rfl := WithTop.coe_injective (WithBot.coe_injective ha)
    exact h
  | top => exact absurd ha (WithBot.coe_lt_coe.2 (WithTop.coe_lt_top r)).ne
  | bot => exact absurd ha (WithBot.bot_lt_coe _).ne'

end HasLevel

namespace Double

variable {x y d : Float} {p q : ℚ}

/-- **A sum that is a double is exact.** -/
theorem standsFor_add (hx : StandsFor x.toModel.unpack p) (hy : StandsFor y.toModel.unpack q)
    {u : UnpackedFloat} (hu : StandsFor u (p + q)) : StandsFor (x + y).toModel.unpack (p + q) := by
  obtain ⟨w, hw, hlevel⟩ := hx.exists_add hy
  obtain rfl := hw.unique (.of_standsFor hu)
  rw [hu.bounded_eq] at hlevel
  exact hlevel.standsFor

theorem isNaN_of_le (h : x ≤ y) : x.isNaN = false ∧ y.isNaN = false := by
  constructor <;> rw [← Bool.not_eq_true] <;> intro hnan
  · exact (not_le_of_isNaN hnan).1 h
  · exact (not_le_of_isNaN hnan).2 h

theorem le_trans {z : Float} (h : x ≤ y) (h' : y ≤ z) : x ≤ z := by
  obtain ⟨a, ha⟩ := HasLevel.exists_of_isNaN (isNaN_of_le h).1
  obtain ⟨b, hb⟩ := HasLevel.exists_of_isNaN (isNaN_of_le h).2
  obtain ⟨c, hc⟩ := HasLevel.exists_of_isNaN (isNaN_of_le h').2
  rw [ha.le_iff hb] at h
  rw [hb.le_iff hc] at h'
  exact (ha.le_iff hc).2 (h.trans h')

theorem le_of_lt (h : x < y) : x ≤ y := le_iff.2 (.inl (lt_iff.1 h))

/-- The equality of doubles is that of their places in the order. -/
theorem beq_iff : (x == y) = true ↔ x ≤ y ∧ y ≤ x := by
  have heq : (x == y) = (x.toModel.unpack.compare y.toModel.unpack == some .eq) := rfl
  rw [heq, beq_iff_eq, le_iff, le_iff, compare_parts_swap x.toModel.unpack y.toModel.unpack]
  rcases x.toModel.unpack.compare y.toModel.unpack with _ | _ | _ | _ <;> simp

theorem beq_self (hx : x.isNaN = false) : (x == x) = true :=
  beq_iff.2 ⟨le_self hx, le_self hx⟩

/-- A sum with an infinity is that infinity, if it is a number. -/
theorem unpack_add_infinity {s : Sign} (hd : d.toModel.unpack = .infinity s) (h : (x + d).isNaN = false) :
    (x + d).toModel.unpack = .infinity s := by
  have hsum : (x + d).toModel.unpack =
      (Float.Model.pack (UnpackedFloat.add .binary64 x.toModel.unpack (.infinity s))).unpack := by
    rw [← hd]
    rfl
  have hnan := unpack_ne_notANumber h
  rw [hsum] at hnan ⊢
  generalize x.toModel.unpack = u at hnan ⊢
  have hadd : UnpackedFloat.add .binary64 u (.infinity s) = .infinity s ∨
      UnpackedFloat.add .binary64 u (.infinity s) = .notANumber := by
    cases u with
    | notANumber => exact .inr rfl
    | infinity s' => cases s <;> cases s' <;> first | exact .inl rfl | exact .inr rfl
    | zero s' => exact .inl rfl
    | finite s' m e hm => exact .inl rfl
  rcases hadd with hadd | hadd <;> rw [hadd] at hnan ⊢
  · cases s <;> rfl
  · exact absurd rfl hnan

/-- A sum that is a number is one of numbers. -/
theorem isNaN_of_isNaN_add (h : (x + d).isNaN = false) : x.isNaN = false ∧ d.isNaN = false := by
  have hne : (Float.Model.pack (UnpackedFloat.add .binary64 x.toModel.unpack d.toModel.unpack)).unpack ≠
      .notANumber := unpack_ne_notANumber h
  constructor <;> rw [← Bool.not_eq_true] <;> intro hnan <;> refine hne ?_
  · have hadd : UnpackedFloat.add .binary64 .notANumber d.toModel.unpack = .notANumber := rfl
    rw [unpack_of_isNaN hnan, hadd]
    rfl
  · have hadd : UnpackedFloat.add .binary64 x.toModel.unpack .notANumber = .notANumber := by
      cases x.toModel.unpack <;> rfl
    rw [unpack_of_isNaN hnan, hadd]
    rfl

/-- **Adding the same to a greater double gives no lesser sum**, if both sums are numbers. -/
theorem add_le_add_right (hle : x ≤ y) (hx : (x + d).isNaN = false) (hy : (y + d).isNaN = false) :
    x + d ≤ y + d := by
  obtain ⟨c, hc⟩ := HasLevel.exists_of_isNaN (isNaN_of_isNaN_add hx).2
  have hinfinite {s : Sign} (h : d.toModel.unpack = .infinity s) : x + d ≤ y + d := by
    obtain ⟨b, hb⟩ := HasLevel.exists_of_isNaN hx
    have hsame : HasLevel (y + d).toModel.unpack b := by
      rw [unpack_add_infinity h hy, ← unpack_add_infinity h hx]
      exact hb
    exact (hb.le_iff hsame).2 le_rfl
  generalize hu : d.toModel.unpack = u at hc
  cases hc with
  | rational hr =>
    obtain ⟨a, ha⟩ := HasLevel.exists_of_isNaN (isNaN_of_le hle).1
    obtain ⟨b, hb⟩ := HasLevel.exists_of_isNaN (isNaN_of_le hle).2
    obtain ⟨a', ha', hleft⟩ := ha.exists_add hr
    obtain ⟨b', hb', hright⟩ := hb.exists_add hr
    rw [← hu] at hleft hright
    exact (HasLevel.le_iff hleft hright).2 (ha'.mono hb' ((ha.le_iff hb).1 hle))
  | top | bot => exact hinfinite hu

/-- A sum of numbers is a number, unless they are opposite infinities. -/
theorem exists_infinity_of_isNaN_add (hx : x.isNaN = false) (hd : d.isNaN = false) (h : (x + d).isNaN = true) :
    ∃ s : Sign, x.toModel.unpack = .infinity (-s) ∧ d.toModel.unpack = .infinity s := by
  obtain ⟨a, ha⟩ := HasLevel.exists_of_isNaN hx
  obtain ⟨c, hc⟩ := HasLevel.exists_of_isNaN hd
  have hnan : (Float.Model.pack (UnpackedFloat.add .binary64 x.toModel.unpack d.toModel.unpack)).unpack =
      .notANumber := unpack_of_isNaN h
  generalize x.toModel.unpack = u at ha hnan ⊢
  generalize d.toModel.unpack = v at hc hnan ⊢
  cases hc with
  | rational hr =>
    obtain ⟨b, -, hb⟩ := ha.exists_add hr
    rw [hnan] at hb
    cases hb with
    | rational h => cases h
  | top | bot =>
    cases ha with
    | rational hq =>
      have hsum (s : Sign) : UnpackedFloat.add .binary64 u (.infinity s) = .infinity s := by cases hq <;> rfl
      rw [hsum] at hnan
      cases hnan
    | top | bot => first
        | exact ⟨.positive, rfl, rfl⟩
        | exact ⟨.negative, rfl, rfl⟩
        | cases hnan

end Double

end SpriteStage
