import SpriteStage.Proofs.Number.Nearest
import SpriteStage.Proofs.Number.Range

/-!
# Whole numbers as doubles

Every integer of less than 54 bits is a double, and the sums and the remainders of such doubles are exact as
long as they stay in this range.

## Main results

* `Double.standsFor_saturating` finds the integers among the doubles
* `Double.flooredMod_of_integers` is the exactness of the remainder
-/

namespace SpriteStage

open Float.Model (UnpackedFloat)
open Float.Model.UnpackedFloat

/-! ## Doubles that are rational numbers -/

theorem Rounded.signedBy {v w : ℚ} (h : Rounded v w) (s : Sign) :
    Rounds (signedBy s v) (SpriteStage.signedBy s w) := by
  cases s with
  | negative => exact .inr ⟨neg_nonpos.2 h.nonneg.1, by simpa [SpriteStage.signedBy] using h⟩
  | positive => exact .inl ⟨h.nonneg.1, h⟩

namespace StandsFor

variable {x y : Float} {u : UnpackedFloat} {p q : ℚ}

theorem rational? (h : StandsFor x.toModel.unpack q) : (Exact.ofFloat x).rational? = some q := by
  rw [Exact.ofFloat]
  generalize x.toModel.unpack = u at h
  cases h with
  | zero s => cases s <;> simp [Exact.rational?, Exact.signed, Exact.ofSign]
  | positive hc => simp [Exact.rational?, Exact.signed, Exact.ofSign]
  | negative hc => simp [Exact.rational?, Exact.signed, Exact.ofSign]

theorem lt_iff (hx : StandsFor x.toModel.unpack p) (hy : StandsFor y.toModel.unpack q) : x < y ↔ p < q := by
  rw [Double.lt_iff, hx.compare hy, Option.some.injEq, compare_lt_iff_lt]

theorem le_iff (hx : StandsFor x.toModel.unpack p) (hy : StandsFor y.toModel.unpack q) : x ≤ y ↔ p ≤ q := by
  rw [(HasLevel.rational hx).le_iff (.rational hy), WithBot.coe_le_coe, WithTop.coe_le_coe]

theorem beq_iff (hx : StandsFor x.toModel.unpack p) (hy : StandsFor y.toModel.unpack q) :
    (x == y) = true ↔ p = q := by
  rw [Double.beq_iff, hx.le_iff hy, hy.le_iff hx, le_antisymm_iff]

/-- A positive number is that of one double only. -/
theorem eq_of_pos (hx : StandsFor x.toModel.unpack q) (hy : StandsFor y.toModel.unpack q) (hq : 0 < q) :
    x = y := by
  obtain ⟨m, e, hm, hparts⟩ : ∃ m e hm, y.toModel.unpack = .finite .positive m e hm := by
    generalize y.toModel.unpack = v at hy
    cases hy with
    | zero s => exact absurd hq (lt_irrefl _)
    | positive hc => exact ⟨_, _, _, rfl⟩
    | negative hc => exact absurd hq (not_lt.2 (neg_nonpos.2 hc.value_pos.le))
  exact Double.eq_of_le_of_le hparts ((hx.le_iff hy).2 le_rfl) ((hy.le_iff hx).2 le_rfl)

/-- A value that is that of a double is not rounded. -/
theorem toFloat {isNegative : Bool} {m : ℕ} {e : ℤ} (hu : StandsFor u q)
    (hq : q = Exact.signed isNegative m * 2 ^ e) :
    StandsFor (Exact.finite isNegative m e).toFloat.toModel.unpack q := by
  have hsigned : q = signedBy (Exact.toSign isNegative) (m * 2 ^ e) := by
    rw [hq]
    cases isNegative <;> simp [Exact.signed, Exact.toSign, signedBy]
  rw [Exact.toFloat]
  split
  · rename_i hm
    obtain rfl : q = 0 := by
      rw [hsigned, hm]
      cases isNegative <;> simp [Exact.toSign, signedBy]
    have hzero := StandsFor.zero (Exact.toSign isNegative)
    show StandsFor (Float.Model.pack (.zero (Exact.toSign isNegative))).unpack 0
    rw [hzero.unpack_pack]
    exact hzero
  · rename_i hm
    obtain ⟨w, hw, hlevel⟩ := exists_rounded (Nat.pos_of_ne_zero hm) e
    have hsame := hw.signedBy (Exact.toSign isNegative)
    rw [← hsigned] at hsame
    have hplace := hlevel (Exact.toSign isNegative)
    rw [hsame.unique (.of_standsFor hu), hu.bounded_eq] at hplace
    exact hplace.standsFor

end StandsFor

/-! ## Integers -/

/-- An integer of less than 54 bits is a double. -/
theorem exists_standsFor {n : ℤ} (hn : n.natAbs < 2 ^ 53) : ∃ u, StandsFor u n := by
  obtain ⟨k, hk⟩ := n.eq_nat_or_neg
  rcases Nat.eq_zero_or_pos k with rfl | hpos
  · obtain rfl : n = 0 := by simpa using hk
    exact ⟨.zero .positive, by simpa using StandsFor.zero .positive⟩
  · obtain ⟨m, e, hholds, hvalue⟩ := exists_holds_natural hpos (by omega)
    rcases hk with rfl | rfl
    · exact ⟨_, by rw [Int.cast_natCast, ← hvalue]; exact .positive hholds.canonical⟩
    · exact ⟨_, by rw [Int.cast_neg, Int.cast_natCast, ← hvalue]; exact .negative hholds.canonical⟩

theorem Exact.signed_natAbs (n : ℤ) : signed (decide (n < 0)) n.natAbs = n := by
  rw [signed]
  by_cases hn : n < 0
  · rw [decide_eq_true hn, if_pos rfl]
    omega
  · rw [decide_eq_false hn, if_neg Bool.false_ne_true]
    omega

theorem Exact.signed_scaled {a N : ℕ} {unit : ℚ} (h : (a * unit : ℚ) = N) (s : Bool) :
    (signed s N : ℚ) = signed s a * unit := by
  cases s <;> simp [signed, ← h]

namespace Double

variable {x y : Float} {n : ℤ} {c : ℕ}

theorem standsFor_saturating (hn : n.natAbs < 2 ^ 53) : StandsFor (saturating n).toModel.unpack n := by
  obtain ⟨u, hu⟩ := exists_standsFor hn
  exact hu.toFloat (by rw [Exact.signed_natAbs, zpow_zero, mul_one])

/-- A sum of integers is exact. -/
theorem standsFor_add_integers {k : ℤ} (hx : StandsFor x.toModel.unpack n) (hy : StandsFor y.toModel.unpack k)
    (h : (n + k).natAbs < 2 ^ 53) : StandsFor (x + y).toModel.unpack (n + k : ℤ) := by
  obtain ⟨u, hu⟩ := exists_standsFor h
  rw [Int.cast_add] at hu ⊢
  exact standsFor_add hx hy hu

/-- A double that is an integer is read as that. -/
theorem toInt?_of_standsFor (h : StandsFor x.toModel.unpack n) : toInt? x = some n := by
  have hrational := h.rational?
  have hfloor := Exact.floor?_of_rational hrational
  rw [Int.floor_intCast] at hfloor
  rw [toInt?, hfloor]
  refine if_pos ?_
  cases hv : Exact.ofFloat x with
  | nan | infinite s =>
    rw [hv] at hrational
    cases hrational
  | finite s m e =>
    rw [hv] at hrational
    have hvalue : (Exact.signed s m * 2 ^ e : ℚ) = n := Option.some.inj hrational
    rw [Exact.isInteger, Bool.or_eq_true, decide_eq_true_eq, beq_iff_eq]
    by_cases he : 0 ≤ e
    · exact .inl he
    · -- The mantissa of an integer is a multiple of the power of two that it is divided by.
      right
      obtain ⟨k, hk⟩ : ∃ k, k = Nat.pow 2 (-e).toNat := ⟨_, rfl⟩
      have hpower : (k : ℚ) ≠ 0 := by
        rw [hk]
        exact_mod_cast (Nat.two_pow_pos _).ne'
      rw [Exact.signed_mul_zpow (not_le.1 he), ← hk, div_eq_iff hpower] at hvalue
      have hproduct : Exact.signed s m = n * k := by exact_mod_cast hvalue
      have hmantissa : m = n.natAbs * k := by
        rw [← natAbs_signed s m, hproduct, Int.natAbs_mul, Int.natAbs_natCast]
      rw [← hk, hmantissa, Nat.mul_mod_left]

/-! ## Remainders -/

/-- A remainder of multiples of a unit is that of the wholes. -/
theorem mod_of_unit {a b N C : ℕ} {unit : ℚ} (hC : 0 < C) (ha : a * unit = N) (hb : b * unit = C) :
    ((a % b : ℕ) * unit : ℚ) = (N % C : ℕ) := by
  have hbpos : 0 < b := by
    refine Nat.pos_of_ne_zero fun hzero => hC.ne' ?_
    rw [hzero, Nat.cast_zero, zero_mul] at hb
    exact_mod_cast hb.symm
  have hcross : a * C = N * b := by
    have hcast : (a * C : ℚ) = N * b := by
      rw [← ha, ← hb]
      ring
    exact_mod_cast hcast
  have hquotient : a / b = N / C := by
    rw [← Nat.mul_div_mul_right a b hC, hcross, Nat.mul_comm b C, Nat.mul_div_mul_right N C hbpos]
  have hdiv : (b * (a / b : ℕ) + (a % b : ℕ) : ℚ) = a := by exact_mod_cast Nat.div_add_mod a b
  have hdiv' : (C * (N / C : ℕ) + (N % C : ℕ) : ℚ) = N := by exact_mod_cast Nat.div_add_mod N C
  rw [hquotient] at hdiv
  linear_combination unit * hdiv - hdiv' + ha - (N / C : ℕ) * hb

/-- A finite value with its magnitude. -/
theorem exists_finite {q : ℚ} (hx : StandsFor x.toModel.unpack q) :
    ∃ s m e, Exact.ofFloat x = .finite s m e ∧ q = Exact.signed s m * 2 ^ e := by
  have hrational := hx.rational?
  cases hv : Exact.ofFloat x with
  | nan | infinite s =>
    rw [hv] at hrational
    cases hrational
  | finite s m e =>
    rw [hv] at hrational
    exact ⟨s, m, e, rfl, (Option.some.inj hrational).symm⟩

/-- The sign and the magnitude of an integer. -/
theorem natAbs_of_signed {s : Bool} {m : ℕ} {e : ℤ} (h : (n : ℚ) = Exact.signed s m * 2 ^ e) :
    (m * 2 ^ e : ℚ) = n.natAbs ∧ n = Exact.signed s n.natAbs := by
  have hmagnitude : (0 : ℚ) ≤ m * 2 ^ e := by positivity
  cases s with
  | false =>
    have hvalue : (n : ℚ) = m * 2 ^ e := h
    have hn : 0 ≤ n := by exact_mod_cast hvalue ▸ hmagnitude
    obtain ⟨k, rfl⟩ := Int.eq_ofNat_of_zero_le hn
    exact ⟨by rw [← hvalue]; simp, rfl⟩
  | true =>
    have hvalue : (n : ℚ) = -(m * 2 ^ e) := by rw [h, Exact.signed]; simp
    have hn : n ≤ 0 := by exact_mod_cast hvalue.le.trans (neg_nonpos.2 hmagnitude)
    obtain ⟨k, rfl⟩ := Int.exists_eq_neg_ofNat hn
    refine ⟨?_, by rw [Int.natAbs_neg]; rfl⟩
    rw [Int.natAbs_neg, Int.natAbs_natCast]
    push_cast at hvalue
    linarith

theorem tmod_signed (s : Bool) (N : ℕ) : (Exact.signed s N).tmod c = Exact.signed s (N % c) := by
  cases s with
  | false => exact (Int.ofNat_tmod N c).symm
  | true => exact (Int.neg_tmod N c).trans (congrArg (- ·) (Int.ofNat_tmod N c).symm)

/-- **The remainder of integers is exact.** -/
theorem truncatedMod_of_integers (hx : StandsFor x.toModel.unpack n) (hy : StandsFor y.toModel.unpack (c : ℤ))
    (hpos : 0 < c) (hc : c < 2 ^ 53) : StandsFor (truncatedMod x y).toModel.unpack (n.tmod c : ℤ) := by
  obtain ⟨s, m, e, hv, hvalue⟩ := exists_finite hx
  obtain ⟨s', m', e', hv', hvalue'⟩ := exists_finite hy
  obtain ⟨hmagnitude, hsign⟩ := natAbs_of_signed hvalue
  obtain ⟨hmagnitude', -⟩ := natAbs_of_signed hvalue'
  have hm' : m' ≠ 0 := by
    rintro rfl
    rw [Nat.cast_zero, zero_mul, Int.natAbs_natCast] at hmagnitude'
    exact hpos.ne (by exact_mod_cast hmagnitude')
  -- Both numbers are multiples of one power of two, and so is the remainder.
  obtain ⟨d, hd⟩ : ∃ d, d = min e e' := ⟨_, rfl⟩
  have hleft := value_at_lower m (hd ▸ min_le_left e e')
  have hright := value_at_lower m' (hd ▸ min_le_right e e')
  rw [hmagnitude] at hleft
  rw [hmagnitude', Int.natAbs_natCast] at hright
  have hmod := mod_of_unit hpos hleft hright
  have hrest : n.tmod c = Exact.signed s (n.natAbs % c) := by
    nth_rewrite 1 [hsign]
    exact tmod_signed s _
  obtain ⟨u, hu⟩ := exists_standsFor (n := n.tmod c) <| by
    rw [hrest, natAbs_signed]
    exact (Nat.mod_lt _ hpos).trans hc
  rw [truncatedMod, hv, hv']
  simp only [if_neg hm', ← hd]
  refine hu.toFloat ?_
  rw [hrest]
  exact Exact.signed_scaled hmod s

/-- **So is the floored one.** -/
theorem flooredMod_of_integers (hx : StandsFor x.toModel.unpack n) (hy : StandsFor y.toModel.unpack (c : ℤ))
    (hpos : 0 < c) (hc : c < 2 ^ 53) : flooredMod x y = saturating (n % c) := by
  have hzero : StandsFor (0 : Float).toModel.unpack (0 : ℤ) := by
    rw [Int.cast_zero]
    exact StandsFor.zero .positive
  have hr := truncatedMod_of_integers hx hy hpos hc
  have hdivisor : ¬ y < 0 := by
    rw [hy.lt_iff hzero]
    simp
  obtain ⟨s, m, e, hv, hvalue⟩ := exists_finite hy
  have hsign : isNegative y = false := by
    have hs := (natAbs_of_signed hvalue).2
    rw [isNegative, hv]
    cases s with
    | false => rfl
    | true =>
      rw [Exact.signed, if_pos rfl, Int.natAbs_natCast] at hs
      omega
  have hemod := Int.emod_nonneg n (by omega : (c : ℤ) ≠ 0)
  have hlt := Int.emod_lt_of_pos n (by omega : (0 : ℤ) < c)
  have hexact := standsFor_saturating (n := n % c) (by omega)
  have hcases : n.tmod c = n % c ∨ n.tmod c = n % c - c := by
    rw [Int.tmod_eq_emod, Int.natAbs_natCast]
    split
    · exact .inl (sub_zero _)
    · exact .inr rfl
  have hlower := Int.lt_tmod_of_pos n (by omega : (0 : ℤ) < c)
  rw [flooredMod]
  generalize truncatedMod x y = r at hr ⊢
  simp only [decide_eq_false hdivisor]
  by_cases hnone : n.tmod c = 0
  · have heq : (r == 0) = true := (hr.beq_iff hzero).2 (by rw [hnone])
    have hemod' : n % c = 0 := Int.emod_eq_zero_of_dvd (Int.dvd_of_tmod_eq_zero hnone)
    rw [if_pos heq, hsign, hemod']
    rfl
  · have hne : ¬ (r == 0) = true := fun h => hnone (by exact_mod_cast (hr.beq_iff hzero).1 h)
    rw [if_neg hne]
    by_cases hnegative : r < 0
    · -- A negative remainder is counted from the divisor.
      have hless : n.tmod c < 0 := by exact_mod_cast (hr.lt_iff hzero).1 hnegative
      have hsum := standsFor_add_integers hr hy (by omega)
      rw [show n.tmod c + c = n % c by omega] at hsum
      rw [decide_eq_true hnegative, if_pos (by decide)]
      exact hsum.eq_of_pos hexact (by exact_mod_cast (by omega : 0 < n % c))
    · have hge : ¬ n.tmod c < 0 := fun h => hnegative ((hr.lt_iff hzero).2 (by exact_mod_cast h))
      rw [show n.tmod c = n % c by omega] at hr
      rw [decide_eq_false hnegative, if_neg (by decide)]
      exact hr.eq_of_pos hexact (by exact_mod_cast (by omega : 0 < n % c))

end Double

end SpriteStage
