import SpriteStage.Proofs.Number.Packing
import SpriteStage.Value.Arithmetic

/-!
# The order of doubles

Doubles other than not-a-number are in a total order in which the two zeros are equal; not-a-number
is in no relation to any double.  The order compares the parts of doubles, so it is described on them.

## Main results

* `Double.le_of_not_lt` is the totality of the order
* `Double.nonneg_iff` describes the doubles that are at least zero
* `Number.compare?_zero` compares with zero across the kinds of numbers
-/

namespace SpriteStage

open Float.Model (Format UnpackedFloat)
open Float.Model.UnpackedFloat

/-! ## Comparing parts -/

/-- Turning a comparison round swaps its outcome. -/
theorem compare_parts_swap (u v : UnpackedFloat) : v.compare u = (u.compare v).map Ordering.swap := by
  have hlex : ∀ (e e' : ℤ) (m m' : ℕ),
      (compare e' e).then (compare m' m) = ((compare e e').then (compare m m')).swap := by
    intro e e' m m'
    rw [Ordering.swap_then, Int.compare_swap, Nat.compare_swap]
  rcases u with s | _ | s | ⟨s, m, e, hm⟩ <;> rcases v with s' | _ | s' | ⟨s', m', e', hm'⟩
  case finite.finite =>
    cases s <;> cases s' <;>
      simp [UnpackedFloat.compare, hlex e e' m m']
  all_goals first
    | rfl
    | cases s <;> rfl
    | cases s' <;> rfl
    | cases s <;> cases s' <;> rfl

/-- Only not-a-number cannot be compared. -/
theorem exists_compare_parts {u v : UnpackedFloat} (hu : u ≠ .notANumber) (hv : v ≠ .notANumber) :
    ∃ o, u.compare v = some o := by
  rcases u with s | _ | s | ⟨s, m, e, hm⟩ <;> rcases v with s' | _ | s' | ⟨s', m', e', hm'⟩
  all_goals first
    | exact absurd rfl hu
    | exact absurd rfl hv
    | exact ⟨_, rfl⟩
    | cases s <;> exact ⟨_, rfl⟩
    | cases s' <;> exact ⟨_, rfl⟩
    | cases s <;> cases s' <;> exact ⟨_, rfl⟩

namespace Double

variable {x y : Float}

theorem lt_iff : x < y ↔ x.toModel.unpack.compare y.toModel.unpack = some .lt := by
  show decide ((x.toModel.unpack.compare y.toModel.unpack == some .lt) = true) = true ↔ _
  rw [decide_eq_true_iff, beq_iff_eq]

theorem le_iff : x ≤ y ↔ x.toModel.unpack.compare y.toModel.unpack = some .lt ∨
    x.toModel.unpack.compare y.toModel.unpack = some .eq := by
  show decide ((x.toModel.unpack.compare y.toModel.unpack).any (·.isLE) = true) = true ↔ _
  rw [decide_eq_true_iff]
  rcases x.toModel.unpack.compare y.toModel.unpack with _ | _ | _ | _ <;> simp

/-! ## The order -/

theorem unpack_ne_notANumber (hx : x.isNaN = false) : x.toModel.unpack ≠ .notANumber := by
  intro h
  rw [Float.isNaN, Float.Model.isNaN, h] at hx
  cases hx

theorem unpack_of_isNaN (hx : x.isNaN = true) : x.toModel.unpack = .notANumber :=
  UnpackedFloat.isNaN_iff.1 hx

/-- Of two doubles that are numbers, one is at most the other. -/
theorem le_of_not_lt (hx : x.isNaN = false) (hy : y.isNaN = false) (h : ¬ y < x) : x ≤ y := by
  obtain ⟨o, ho⟩ := exists_compare_parts (unpack_ne_notANumber hx) (unpack_ne_notANumber hy)
  rw [lt_iff, compare_parts_swap x.toModel.unpack y.toModel.unpack, ho] at h
  rw [le_iff, ho]
  cases o <;> simp_all

theorem lt_of_not_le (hx : x.isNaN = false) (hy : y.isNaN = false) (h : ¬ y ≤ x) : x < y := by
  by_contra hlt
  exact h (le_of_not_lt hy hx hlt)

theorem not_lt_of_le (h : x ≤ y) : ¬ y < x := by
  rw [lt_iff, compare_parts_swap x.toModel.unpack y.toModel.unpack]
  rcases le_iff.1 h with h | h <;> simp [h]

theorem not_lt_self (x : Float) : ¬ x < x := by
  intro h
  have hswap := compare_parts_swap x.toModel.unpack x.toModel.unpack
  rw [lt_iff.1 h] at hswap
  cases hswap

theorem le_self (hx : x.isNaN = false) : x ≤ x := le_of_not_lt hx hx (not_lt_self x)

theorem not_lt_of_isNaN (hx : x.isNaN = true) : ¬ x < y ∧ ¬ y < x := by
  constructor <;> intro h
  · rw [lt_iff, unpack_of_isNaN hx] at h
    cases h
  · rw [lt_iff, compare_parts_swap x.toModel.unpack y.toModel.unpack, unpack_of_isNaN hx] at h
    cases h

theorem not_le_of_isNaN (hx : x.isNaN = true) : ¬ x ≤ y ∧ ¬ y ≤ x := by
  constructor <;> intro h
  · rw [le_iff, unpack_of_isNaN hx] at h
    rcases h with h | h <;> cases h
  · have hswap := compare_parts_swap x.toModel.unpack y.toModel.unpack
    rw [unpack_of_isNaN hx] at hswap
    rw [le_iff, unpack_of_isNaN hx, hswap] at h
    rcases h with h | h <;> cases h

/-- A double between a positive one and itself is that double. -/
theorem eq_of_le_of_le {m : ℕ} {e : ℤ} {hm : 0 < m} (hy : y.toModel.unpack = .finite .positive m e hm)
    (h : x ≤ y) (h' : y ≤ x) : x = y := by
  have hswap := compare_parts_swap x.toModel.unpack y.toModel.unpack
  have heq : x.toModel.unpack.compare y.toModel.unpack = some .eq := by
    rw [le_iff] at h h'
    rw [hswap] at h'
    rcases h with h | h
    · rw [h] at h'
      simp at h'
    · exact h
  -- Only the two zeros compare alike with different parts, and the one side is no zero.
  have hparts : x.toModel.unpack = y.toModel.unpack := by
    rw [hy] at heq ⊢
    cases hx : x.toModel.unpack with
    | infinity s => cases s <;> rw [hx] at heq <;> cases heq
    | notANumber =>
      rw [hx] at heq
      cases heq
    | zero s =>
      rw [hx] at heq
      cases heq
    | finite s m' e' hm' =>
      rw [hx] at heq
      cases s with
      | negative => cases heq
      | positive =>
        have hlex : (compare e' e).then (compare m' m) = .eq := Option.some.inj heq
        obtain ⟨he, hm''⟩ : e' = e ∧ m' = m := by simpa using hlex
        subst he hm''
        rfl
  have hmodel : x.toModel = y.toModel := by
    rw [← pack_unpack_model x.toModel, hparts, pack_unpack_model]
  exact congrArg Float.ofModel hmodel

/-! ## The sign of a double -/

/-- The parts of a double that is at least zero. -/
theorem nonneg_iff : 0 ≤ x ↔ (∃ s, x.toModel.unpack = .zero s) ∨
    x.toModel.unpack = .infinity .positive ∨
      ∃ m e hm, x.toModel.unpack = .finite .positive m e hm := by
  have hzero : (0 : Float).toModel.unpack = .zero .positive := rfl
  rw [le_iff, hzero]
  cases x.toModel.unpack with
  | infinity s => cases s <;> simp [UnpackedFloat.compare]
  | notANumber => simp [UnpackedFloat.compare]
  | zero s => simp [UnpackedFloat.compare]
  | finite s m e hm => cases s <;> simp [UnpackedFloat.compare, hm]

theorem isNaN_of_nonneg (hx : 0 ≤ x) : x.isNaN = false := by
  rw [Float.isNaN, Float.Model.isNaN]
  rcases nonneg_iff.1 hx with ⟨s, h⟩ | h | ⟨m, e, hm, h⟩ <;> rw [h] <;> rfl

/-- Packing parts with the positive sign gives a double that is at least zero. -/
theorem nonneg_pack {m : ℕ} {e : ℤ} (hm : 0 < m) :
    0 ≤ Float.ofModel (.pack (.finite .positive m e hm)) := by
  have hbias : ((Format.binary64.exponentBias : ℕ) : ℤ) = 1023 := rfl
  -- Whatever is stored beside the sign, only a full exponent could stand for not-a-number.
  have hcomponents : ∀ (E : BitVec 11) (M : BitVec 52), E ≠ -1#11 →
      (UnpackedFloat.zero .positive).compare
          (UnpackedFloat.unpack .binary64 (packComponents .binary64 .positive E M)) = some .lt ∨
        (UnpackedFloat.zero .positive).compare
          (UnpackedFloat.unpack .binary64 (packComponents .binary64 .positive E M)) = some .eq := by
    intro E M hE
    simp only [UnpackedFloat.unpack, unpackMantissa_packComponents, unpackExponent_packComponents,
      unpackSign_packComponents, Sign.ofBitVec_toBitVec, if_neg hE]
    split
    · split
      · exact .inr rfl
      · exact .inl rfl
    · exact .inl rfl
  have hfull : ∀ k : ℕ, ¬ 2 ^ 11 ≤ k + 1 → BitVec.ofNat 11 k ≠ -1#11 := fun k hk h => by
    have hnat : k % 2 ^ 11 = 2047 := congrArg BitVec.toNat h
    rw [Nat.mod_eq_of_lt (by omega)] at hnat
    omega
  rw [le_iff]
  show (UnpackedFloat.zero .positive).compare (UnpackedFloat.unpack .binary64
      (UnpackedFloat.pack .binary64 (.finite .positive m e hm))) = _ ∨
    (UnpackedFloat.zero .positive).compare (UnpackedFloat.unpack .binary64
      (UnpackedFloat.pack .binary64 (.finite .positive m e hm))) = _
  simp only [UnpackedFloat.pack, hbias, Nat.cast_ofNat]
  split
  · exact .inl rfl
  · split
    · exact hcomponents _ _ (hfull _ ‹_›)
    · exact hcomponents _ _ (by decide)

/-- Negating a double negates its parts. -/
theorem unpack_neg (x : Float) : (-x).toModel.unpack = x.toModel.unpack.neg := by
  show (Float.Model.pack x.toModel.unpack.neg).unpack = _
  cases h : x.toModel.unpack with
  | infinity s => cases s <;> rfl
  | notANumber => rfl
  | zero s => cases s <;> rfl
  | finite s m e hm => exact (Canonical.of_unpack h).unpack_pack (-s)

theorem isNaN_neg (hx : x.isNaN = false) : (-x).isNaN = false := by
  have hne := unpack_ne_notANumber hx
  rw [Float.isNaN, Float.Model.isNaN, unpack_neg]
  cases h : x.toModel.unpack with
  | notANumber => exact absurd h hne
  | _ => rfl

theorem neg_le_self (hx : 0 ≤ x) : -x ≤ x := by
  rw [le_iff, unpack_neg]
  rcases nonneg_iff.1 hx with ⟨s, h⟩ | h | ⟨m, e, hm, h⟩ <;> rw [h]
  · exact .inr rfl
  · exact .inl rfl
  · exact .inl rfl

theorem neg_le_zero (hx : 0 ≤ x) : -x ≤ 0 := by
  have hzero : (0 : Float).toModel.unpack = .zero .positive := rfl
  rw [le_iff, unpack_neg, hzero]
  rcases nonneg_iff.1 hx with ⟨s, h⟩ | h | ⟨m, e, hm, h⟩ <;> rw [h]
  · exact .inr rfl
  · exact .inl rfl
  · exact .inl rfl

end Double

/-! ## Comparing with zero -/

namespace Number

/-- Two doubles compare as their parts. -/
theorem compare?_float (x y : Float) :
    compare? (.float x) (.float y) = x.toModel.unpack.compare y.toModel.unpack := by
  have heq : (x == y) = (x.toModel.unpack.compare y.toModel.unpack == some .eq) := rfl
  rw [compare?, heq]
  simp only [Double.lt_iff, compare_parts_swap x.toModel.unpack y.toModel.unpack]
  rcases x.toModel.unpack.compare y.toModel.unpack with _ | _ | _ | _ <;> rfl

/-- The integer zero compares as a double zero. -/
theorem compare?_zero (x : Float) : compare? (.float x) (.int 0) = compare? (.float x) (.float 0) := by
  rw [compare?_float]
  show (Exact.ofFloat x).compareInt 0 = x.toModel.unpack.compare (.zero .positive)
  rw [Exact.ofFloat]
  cases x.toModel.unpack with
  | infinity s => cases s <;> rfl
  | notANumber => rfl
  | zero s => cases s <;> rfl
  | finite s m e hm =>
    have hscaled : 0 < m * Nat.pow 2 e.toNat := Nat.mul_pos hm (Nat.two_pow_pos _)
    cases s with
    | negative =>
      have hlt : ∀ k : ℕ, 0 < k → compare (Exact.signed true k) 0 = .lt := fun k hk =>
        compare_lt_iff_lt.2 (by simp [Exact.signed, hk])
      simp only [Exact.ofSign, Exact.compareInt, zero_mul, hlt _ hm, hlt _ hscaled, ite_self]
      rfl
    | positive =>
      have hgt : ∀ k : ℕ, 0 < k → compare (Exact.signed false k) 0 = .gt := fun k hk =>
        compare_gt_iff_gt.2 (by simp [Exact.signed, hk])
      simp only [Exact.ofSign, Exact.compareInt, zero_mul, hgt _ hm, hgt _ hscaled, ite_self]
      rfl

theorem compare?_zero_gt {x : Float} : compare? (.float x) (.int 0) = some .gt ↔ 0 < x := by
  rw [compare?_zero, compare?_float, Double.lt_iff, compare_parts_swap x.toModel.unpack]
  rcases x.toModel.unpack.compare (0 : Float).toModel.unpack with _ | _ | _ | _ <;> simp

theorem compare?_zero_isGE {x : Float} : (compare? (.float x) (.int 0)).any (·.isGE) = true ↔ 0 ≤ x := by
  rw [compare?_zero, compare?_float, Double.le_iff, compare_parts_swap x.toModel.unpack]
  rcases x.toModel.unpack.compare (0 : Float).toModel.unpack with _ | _ | _ | _ <;> simp

end Number

end SpriteStage
