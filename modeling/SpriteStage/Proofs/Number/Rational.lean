import SpriteStage.Proofs.Number.Remainder
import SpriteStage.Value.Arithmetic

/-!
# Numbers as rational numbers

Every integer and every finite double is a rational number.  Numbers are compared as these, whichever kinds
they are of, and the ceiling of a double is that of its rational number.

## Main definitions

* `Exact.rational?` and `Number.rational?` give the rational number that a finite value is

## Main results

* `Number.compare?_of_rational` compares numbers
* `Exact.ceil?_of_rational` is the ceiling
-/

namespace SpriteStage

open Float.Model (UnpackedFloat)
open Float.Model.UnpackedFloat

/-- The rational number that a value is, unless it is infinite or not-a-number. -/
def Exact.rational? : Exact → Option ℚ
  | .finite n m e => some (signed n m * 2 ^ e)
  | _ => none

/-- The rational number that a number is, unless it is infinite or not-a-number. -/
def Number.rational? : Number → Option ℚ
  | .int n => some n
  | .float x => (Exact.ofFloat x).rational?

/-! ## Comparisons -/

/-- What keeps the order keeps comparisons. -/
theorem compare_map {α β : Type} [LinearOrder α] [LinearOrder β] {f : α → β} (hf : StrictMono f) (a b : α) :
    compare (f a) (f b) = compare a b := by
  rw [← cmp_eq_compare, hf.cmp_map_eq, cmp_eq_compare]

theorem compare_mul_right {x y unit : ℚ} (hunit : 0 < unit) : compare (x * unit) (y * unit) = compare x y :=
  compare_map (strictMono_mul_right_of_pos hunit) x y

theorem compare_neg (x y : ℚ) : compare (-x) (-y) = (compare x y).swap := by
  have hneg : StrictAnti fun x : ℚ => -x := fun _ _ h => neg_lt_neg h
  rw [← Std.OrientedOrd.eq_swap, ← cmp_eq_compare, hneg.cmp_map_eq, cmp_eq_compare]

/-! ## Doubles and integers -/

namespace Exact

variable {v : Exact} {q : ℚ}

/-- A value with a negative exponent is a quotient. -/
theorem signed_mul_zpow {e : ℤ} (he : e < 0) (k : ℤ) :
    (k * 2 ^ e : ℚ) = k / (Nat.pow 2 (-e).toNat : ℕ) := by
  obtain ⟨j, hj⟩ := Int.eq_ofNat_of_zero_le (neg_nonneg.2 he.le)
  obtain rfl : e = -(j : ℤ) := by omega
  rw [neg_neg, Int.toNat_natCast, zpow_neg, zpow_natCast, ← div_eq_mul_inv]
  norm_num

theorem signed_mul (isNegative : Bool) (m k : ℕ) : signed isNegative (m * k) = signed isNegative m * k := by
  cases isNegative <;> simp [signed]

theorem signed_zpow {e : ℤ} (he : 0 ≤ e) (isNegative : Bool) (m : ℕ) :
    (signed isNegative m * 2 ^ e : ℚ) = (signed isNegative (m * Nat.pow 2 e.toNat) : ℤ) := by
  obtain ⟨j, rfl⟩ := Int.eq_ofNat_of_zero_le he
  rw [signed_mul, Int.toNat_natCast, zpow_natCast]
  push_cast [Nat.pow_eq]
  rfl

/-- A value is compared with an integer as the rational number that it is. -/
theorem compareInt_of_rational (h : v.rational? = some q) (k : ℤ) : v.compareInt k = some (compare q k) := by
  cases v with
  | nan | infinite s => cases h
  | finite s m e =>
    cases h
    rw [compareInt]
    by_cases he : 0 ≤ e
    · rw [if_pos he, signed_zpow he, compare_map Int.cast_strictMono]
    · have hpower : (0 : ℚ) < (Nat.pow 2 (-e).toNat : ℕ) := Nat.cast_pos.2 (Nat.two_pow_pos _)
      have hscaled : ((k * (Nat.pow 2 (-e).toNat : ℕ) : ℤ) : ℚ) = k * (Nat.pow 2 (-e).toNat : ℕ) := by
        push_cast
        rfl
      rw [if_neg he, signed_mul_zpow (not_le.1 he), ← compare_map (Int.cast_strictMono (R := ℚ)), hscaled]
      nth_rewrite 1 [← div_mul_cancel₀ (signed s m : ℚ) hpower.ne']
      rw [compare_mul_right hpower]

theorem floor?_of_rational (h : v.rational? = some q) : v.floor? = some ⌊q⌋ := by
  cases v with
  | nan | infinite s => cases h
  | finite s m e =>
    cases h
    rw [floor?]
    by_cases he : 0 ≤ e
    · rw [if_pos he, signed_zpow he, Int.floor_intCast]
    · rw [if_neg he, signed_mul_zpow (not_le.1 he), Rat.floor_intCast_div_natCast,
        Int.fdiv_eq_ediv_of_nonneg _ (Int.natCast_nonneg _)]

theorem signed_not (isNegative : Bool) (m : ℕ) : signed (!isNegative) m = -signed isNegative m := by
  cases isNegative <;> simp [signed]

/-- **The ceiling of a value** is that of the rational number that it is. -/
theorem ceil?_of_rational (h : v.rational? = some q) : v.ceil? = some ⌈q⌉ := by
  cases v with
  | nan | infinite s => cases h
  | finite s m e =>
    cases h
    have hneg : (Exact.finite (!s) m e).rational? = some (-(signed s m * 2 ^ e : ℚ)) := by
      rw [rational?, signed_not]
      push_cast
      rw [neg_mul]
    rw [ceil?, floor?_of_rational hneg, Option.map_some, Int.floor_neg, neg_neg]

end Exact

/-! ## Doubles -/

theorem Canonical.value_pos {m : ℕ} {e : ℤ} (hc : Canonical m e) : (0 : ℚ) < m * 2 ^ e := by
  have hm := hc.pos
  positivity

/-- Canonical mantissas and exponents are compared as the numbers that they stand for. -/
theorem Canonical.compare_value {m m' : ℕ} {e e' : ℤ} (hc : Canonical m e) (hc' : Canonical m' e') :
    compare (m * 2 ^ e : ℚ) (m' * 2 ^ e') = (compare e e').then (compare m m') := by
  rcases lt_trichotomy e e' with h | rfl | h
  · have hlt : (m * 2 ^ e : ℚ) < m' * 2 ^ e' := by
      by_contra hle
      rcases hc.le_cases hc' (not_lt.1 hle) with h' | ⟨h', -⟩ <;> omega
    rw [compare_lt_iff_lt.2 hlt, compare_lt_iff_lt.2 h]
    rfl
  · rw [compare_mul_right (by positivity), compare_map Nat.strictMono_cast, compare_eq_iff_eq.2 rfl]
    rfl
  · have hlt : (m' * 2 ^ e' : ℚ) < m * 2 ^ e := by
      by_contra hle
      rcases hc'.le_cases hc (not_lt.1 hle) with h' | ⟨h', -⟩ <;> omega
    rw [compare_gt_iff_gt.2 hlt, compare_gt_iff_gt.2 h]
    rfl

/-- The parts of a finite double stand for a rational number. -/
inductive StandsFor : UnpackedFloat → ℚ → Prop where
  | zero (s : Sign) : StandsFor (.zero s) 0
  | positive {m : ℕ} {e : ℤ} (hc : Canonical m e) : StandsFor (.finite .positive m e hc.pos) (m * 2 ^ e)
  | negative {m : ℕ} {e : ℤ} (hc : Canonical m e) : StandsFor (.finite .negative m e hc.pos) (-(m * 2 ^ e))

namespace StandsFor

variable {u v : UnpackedFloat} {p q : ℚ}

/-- Packing loses nothing of them. -/
theorem unpack_pack (h : StandsFor u q) : (Float.Model.pack u).unpack = u := by
  cases h with
  | zero s => cases s <;> rfl
  | positive hc => exact hc.unpack_pack .positive
  | negative hc => exact hc.unpack_pack .negative

theorem of_rational {x : Float} (h : (Exact.ofFloat x).rational? = some q) : StandsFor x.toModel.unpack q := by
  rw [Exact.ofFloat] at h
  cases hx : x.toModel.unpack with
  | notANumber | infinity s =>
    rw [hx] at h
    cases h
  | zero s =>
    rw [hx] at h
    obtain rfl : q = 0 := by cases s <;> simpa [Exact.rational?, Exact.signed, Exact.ofSign] using h.symm
    exact .zero s
  | finite s m e hm =>
    have hc := Canonical.of_unpack hx
    rw [hx] at h
    cases s with
    | negative =>
      obtain rfl : q = -(m * 2 ^ e) := by simpa [Exact.rational?, Exact.signed, Exact.ofSign] using h.symm
      exact .negative hc
    | positive =>
      obtain rfl : q = m * 2 ^ e := by simpa [Exact.rational?, Exact.signed, Exact.ofSign] using h.symm
      exact .positive hc

/-- **Finite doubles are compared as the rational numbers that they are.** -/
theorem compare (hu : StandsFor u p) (hv : StandsFor v q) :
    u.compare v = some (Ord.compare p q) := by
  cases hu with
  | zero s =>
    cases hv with
    | zero s' => rfl
    | positive hc' =>
      rw [compare_lt_iff_lt.2 hc'.value_pos]
      rfl
    | negative hc' =>
      rw [compare_gt_iff_gt.2 (neg_neg_of_pos hc'.value_pos)]
      rfl
  | positive hc =>
    cases hv with
    | zero s' =>
      rw [compare_gt_iff_gt.2 hc.value_pos]
      rfl
    | positive hc' =>
      rw [hc.compare_value hc']
      rfl
    | negative hc' =>
      rw [compare_gt_iff_gt.2 ((neg_neg_of_pos hc'.value_pos).trans hc.value_pos)]
      rfl
  | negative hc =>
    cases hv with
    | zero s' =>
      rw [compare_lt_iff_lt.2 (neg_neg_of_pos hc.value_pos)]
      rfl
    | positive hc' =>
      rw [compare_lt_iff_lt.2 ((neg_neg_of_pos hc.value_pos).trans hc'.value_pos)]
      rfl
    | negative hc' =>
      rw [compare_neg, hc.compare_value hc']
      rfl

end StandsFor

/-! ## Numbers -/

/-- **Numbers are compared as the rational numbers that they are**, whatever kinds they are of. -/
theorem Number.compare?_of_rational {a b : Number} {p q : ℚ} (ha : a.rational? = some p)
    (hb : b.rational? = some q) : compare? a b = some (compare p q) := by
  cases a with
  | int n =>
    cases ha
    cases b with
    | int k =>
      cases hb
      rw [compare?, compare_map Int.cast_strictMono]
    | float y =>
      rw [compare?, Exact.compareInt_of_rational hb, Option.map_some, ← Std.OrientedOrd.eq_swap]
  | float x =>
    cases b with
    | int k =>
      cases hb
      exact Exact.compareInt_of_rational ha k
    | float y =>
      rw [compare?_float]
      exact (StandsFor.of_rational ha).compare (.of_rational hb)

end SpriteStage
