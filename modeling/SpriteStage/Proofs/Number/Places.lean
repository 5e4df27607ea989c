import SpriteStage.Proofs.Number.Whole
import SpriteStage.Proofs.Number.Notation
import SpriteStage.Value.Display

/-!
# Doubles with a fixed number of places

Only the negative zero itself is folded into zero before a double is written.  A negative double that is
rounded to zero keeps its sign, and is written as a minus sign before nothing but zeros.

## Main definitions

* `isNegativeZero` holds of the texts that are a minus sign before nothing but zeros
* `Double.IsSmallNegative` holds of the negative doubles that are rounded to zero

## Main results

* `Double.isNegativeZero_loggedFixed` says which doubles have such a text
-/

namespace SpriteStage

open Float.Model (UnpackedFloat)
open Float.Model.UnpackedFloat
open Numeral (IsDigits isDigits_digitsOf ofDigitChars_digitsOf)

/-- Whether a text is a minus sign followed only by zeros and at most one point. -/
def isNegativeZero (text : String) : Bool :=
  match text.toList with
  | '-' :: rest => rest.all (fun c => c == '0' || c == '.') && rest.count '.' ≤ 1
  | _ => false

/-- A double below zero, and by no more than a half of the last of some places. -/
def Double.IsSmallNegative (places : ℕ) (x : Float) : Prop :=
  ∃ q, (Exact.ofFloat x).rational? = some q ∧ q < 0 ∧ -q * 10 ^ places ≤ 1 / 2

/-! ## Digits -/

/-- Digits of zero are zeros, and only those are. -/
theorem forall_zero_digitsOf {n : ℕ} : (∀ c ∈ Decimal.digitsOf n, c = '0') ↔ n = 0 := by
  constructor
  · intro h
    rw [← ofDigitChars_digitsOf n, List.eq_replicate_of_mem h, Nat.ofDigitChars_replicate_zero, Nat.mul_zero]
  · rintro rfl c hc
    exact List.mem_singleton.1 hc

theorem forall_zero_padded {width n : ℕ} : (∀ c ∈ Decimal.padded width n, c = '0') ↔ n = 0 := by
  rw [← forall_zero_digitsOf, Decimal.padded]
  constructor
  · exact fun h c hc => h c (List.mem_append_right _ hc)
  · intro h c hc
    rcases List.mem_append.1 hc with hc | hc
    · exact List.eq_of_mem_replicate hc
    · exact h c hc

/-! ## Rounding to places -/

/-- Only a fraction of at most a half is rounded to zero. -/
theorem Decimal.roundHalfEven_eq_zero {a b : ℕ} (hb : 0 < b) : roundHalfEven a b = 0 ↔ 2 * a ≤ b := by
  constructor
  · intro h
    have hsmall : a / b = 0 := by
      rcases roundHalfEven_cases a b with ⟨-, hr⟩ | ⟨-, hr⟩ | ⟨-, hr⟩ <;> rw [hr] at h
      · exact h
      · split at h
        · exact h
        · exact absurd h (Nat.succ_ne_zero _)
      · exact absurd h (Nat.succ_ne_zero _)
    have hrest : a % b = a := Nat.mod_eq_of_lt ((Nat.div_eq_zero_iff_lt hb).1 hsmall)
    rcases roundHalfEven_cases a b with ⟨hlt, -⟩ | ⟨heq, -⟩ | ⟨-, hr⟩ <;> omega
  · intro h
    have hsmall : a / b = 0 := Nat.div_eq_of_lt (by omega)
    have hrest : a % b = a := Nat.mod_eq_of_lt (by omega)
    rcases roundHalfEven_cases a b with ⟨-, hr⟩ | ⟨-, hr⟩ | ⟨hgt, -⟩
    · rw [hr, hsmall]
    · rw [hr, hsmall]
      rfl
    · omega

/-- A magnitude with a fixed number of places is written with the digits of the nearest natural. -/
theorem Decimal.exists_fixed (places m : ℕ) (e : ℤ) :
    ∃ n : ℕ, (n = 0 ↔ (m * 2 ^ e * 10 ^ places : ℚ) ≤ 1 / 2) ∧
      fixed places m e = if places = 0 then digitsOf (n / 10 ^ places)
        else digitsOf (n / 10 ^ places) ++ '.' :: padded places (n % 10 ^ places) := by
  refine ⟨_, ?_, rfl⟩
  by_cases he : 0 ≤ e
  · -- An integer is written exactly.
    obtain ⟨k, rfl⟩ := Int.eq_ofNat_of_zero_le he
    rw [if_pos he, Int.toNat_natCast, zpow_natCast]
    obtain ⟨n, hn⟩ : ∃ n, n = m * 10 ^ places * 2 ^ k := ⟨_, rfl⟩
    have hcast : (m * 2 ^ k * 10 ^ places : ℚ) = n := by
      rw [hn]
      push_cast
      ring
    rw [hcast]
    show m * 10 ^ places * 2 ^ k = 0 ↔ _
    rw [← hn]
    constructor
    · rintro rfl
      norm_num
    · intro h
      have hlt : (n : ℚ) < 1 := by linarith
      exact Nat.lt_one_iff.1 (by exact_mod_cast hlt)
  · -- Any other number is rounded to a multiple of the last place.
    obtain ⟨k, hk⟩ := Int.eq_ofNat_of_zero_le (neg_nonneg.2 (not_le.1 he).le)
    obtain rfl : e = -(k : ℤ) := by omega
    have hunit : (0 : ℚ) < 2 ^ k := by positivity
    have hcast : (m * 2 ^ (-(k : ℤ)) * 10 ^ places : ℚ) = (m * 10 ^ places : ℕ) / 2 ^ k := by
      rw [zpow_neg, zpow_natCast]
      push_cast
      ring
    rw [if_neg he, neg_neg, Int.toNat_natCast, hcast, div_le_div_iff₀ hunit two_pos]
    show roundHalfEven (m * 10 ^ places) (2 ^ k) = 0 ↔ _
    rw [Decimal.roundHalfEven_eq_zero (Nat.two_pow_pos k), one_mul, mul_comm]
    norm_cast

/-- A magnitude that is rounded to zero is written with zeros only, and no other one is. -/
theorem Decimal.zeros_fixed (places m : ℕ) (e : ℤ) :
    ((fixed places m e).all (fun c => c == '0' || c == '.') && (fixed places m e).count '.' ≤ 1) = true ↔
      (m * 2 ^ e * 10 ^ places : ℚ) ≤ 1 / 2 := by
  obtain ⟨n, hn, htext⟩ := exists_fixed places m e
  rw [← hn, htext]
  have hpower : 0 < 10 ^ places := by positivity
  -- Among digits there is no point.
  have hplain {cs : List Char} (hcs : IsDigits cs) :
      cs.all (fun c => c == '0' || c == '.') = true ↔ ∀ c ∈ cs, c = '0' := by
    rw [List.all_eq_true]
    refine forall₂_congr fun c hc => ?_
    have hpoint : c ≠ '.' := fun h => by simpa [h] using hcs c hc
    simp [hpoint]
  have hcount {cs : List Char} (hcs : IsDigits cs) : cs.count '.' = 0 :=
    List.count_eq_zero.2 fun h => by simpa using hcs _ h
  have hwhole := isDigits_digitsOf (n / 10 ^ places)
  by_cases hplaces : places = 0
  · rw [if_pos hplaces, hcount hwhole, Bool.and_eq_true, hplain hwhole, forall_zero_digitsOf, hplaces]
    simp
  · have hrest := FloatFormat.isDigits_padded places (n % 10 ^ places)
    rw [if_neg hplaces, List.all_append, List.all_cons, List.count_append, List.count_cons, hcount hwhole,
      hcount hrest]
    simp only [Bool.and_eq_true, hplain hwhole, hplain hrest, forall_zero_digitsOf, forall_zero_padded]
    have hsplit : n / 10 ^ places = 0 ∧ n % 10 ^ places = 0 ↔ n = 0 := by
      constructor
      · rintro ⟨hdiv, hmod⟩
        rw [← Nat.div_add_mod n (10 ^ places), hdiv, hmod, Nat.mul_zero]
      · rintro rfl
        exact ⟨Nat.zero_div _, Nat.zero_mod _⟩
    simpa using hsplit

/-- Nothing is written before the digits of a magnitude. -/
theorem Decimal.head?_fixed (places m : ℕ) (e : ℤ) : ∃ c rest, fixed places m e = c :: rest ∧ c ≠ '-' := by
  obtain ⟨n, -, htext⟩ := exists_fixed places m e
  obtain ⟨c, rest, hdigits⟩ := List.exists_cons_of_ne_nil (Nat.toDigits_ne_nil (b := 10) (n := n / 10 ^ places))
  have hsign : c ≠ '-' := by
    rintro rfl
    have := isDigits_digitsOf (n / 10 ^ places) '-' (by rw [Decimal.digitsOf, hdigits]; exact List.mem_cons_self)
    simp at this
  rw [htext, Decimal.digitsOf, hdigits]
  split
  · exact ⟨c, _, rfl, hsign⟩
  · exact ⟨c, _, rfl, hsign⟩

/-! ## Doubles -/

namespace Double

variable {x : Float} {q : ℚ}

/-- Adding zero makes the negative zero the other one, and nothing else of a finite double. -/
theorem exists_add_zero (hx : StandsFor x.toModel.unpack q) :
    ∃ s m e, Exact.ofFloat (x + 0) = .finite s m e ∧ q = Exact.signed s m * 2 ^ e ∧ (s = true ↔ q < 0) := by
  have hsum : (x + 0).toModel.unpack =
      (Float.Model.pack (UnpackedFloat.add .binary64 x.toModel.unpack (.zero .positive))).unpack := rfl
  rw [Exact.ofFloat, hsum]
  generalize x.toModel.unpack = u at hx
  cases hx with
  | zero s =>
    have hadd : UnpackedFloat.add .binary64 (.zero s) (.zero .positive) = .zero .positive := by cases s <;> rfl
    rw [hadd]
    exact ⟨false, 0, 0, rfl, by simp [Exact.signed], by simp⟩
  | @positive m e hc =>
    have hadd : UnpackedFloat.add .binary64 (.finite .positive m e hc.pos) (.zero .positive) =
        .finite .positive m e hc.pos := rfl
    rw [hadd, hc.unpack_pack]
    exact ⟨false, m, e, rfl, by simp [Exact.signed], by simpa using hc.value_pos.le⟩
  | @negative m e hc =>
    have hadd : UnpackedFloat.add .binary64 (.finite .negative m e hc.pos) (.zero .positive) =
        .finite .negative m e hc.pos := rfl
    rw [hadd, hc.unpack_pack]
    exact ⟨true, m, e, rfl, by simp [Exact.signed], by simpa using hc.value_pos⟩

/-- Not-a-number and the infinities have names. -/
theorem isNegativeZero_of_rational?_eq_none (places : ℕ) (hx : (Exact.ofFloat x).rational? = none) :
    isNegativeZero (loggedFixed places x) = false := by
  have hsum : (x + 0).toModel.unpack =
      (Float.Model.pack (UnpackedFloat.add .binary64 x.toModel.unpack (.zero .positive))).unpack := rfl
  rw [loggedFixed, fixed?, Exact.ofFloat, hsum, logged]
  rw [Exact.ofFloat] at hx ⊢
  generalize x.toModel.unpack = u at hx ⊢
  cases u with
  | zero s | finite s m e hm => cases hx
  | notANumber =>
    have hadd : UnpackedFloat.add .binary64 .notANumber (.zero .positive) = .notANumber := rfl
    have hname : isNegativeZero "NaN" = false := by decide +kernel
    rw [hadd]
    exact hname
  | infinity s =>
    have hadd : UnpackedFloat.add .binary64 (.infinity s) (.zero .positive) = .infinity s := rfl
    have hnames : isNegativeZero "-Infinity" = false ∧ isNegativeZero "Infinity" = false := by decide +kernel
    rw [hadd]
    cases s
    · exact hnames.1
    · exact hnames.2

/-- **A text of zeros with a minus sign is that of a small negative double**, and only that. -/
theorem isNegativeZero_loggedFixed (places : ℕ) (x : Float) :
    isNegativeZero (loggedFixed places x) = true ↔ IsSmallNegative places x := by
  cases hq : (Exact.ofFloat x).rational? with
  | none =>
    rw [isNegativeZero_of_rational?_eq_none places hq, IsSmallNegative, hq]
    simp
  | some q =>
    obtain ⟨s, m, e, hsum, hvalue, hsign⟩ := exists_add_zero (.of_rational hq)
    have htext : loggedFixed places x =
        String.ofList (if s then '-' :: Decimal.fixed places m e else Decimal.fixed places m e) := by
      rw [loggedFixed, fixed?, hsum]
      rfl
    have hsmall : IsSmallNegative places x ↔ q < 0 ∧ -q * 10 ^ places ≤ 1 / 2 := by
      rw [IsSmallNegative, hq]
      simp
    rw [hsmall, htext, isNegativeZero, String.toList_ofList, ← hsign]
    cases s with
    | false =>
      obtain ⟨c, rest, hfixed, hc⟩ := Decimal.head?_fixed places m e
      rw [if_neg Bool.false_ne_true, hfixed]
      split
      · rename_i hhead
        exact absurd (List.cons.inj hhead).1 hc
      · simp
    | true =>
      have hmagnitude : -q = m * 2 ^ e := by
        rw [hvalue, Exact.signed]
        simp
      rw [if_pos rfl, hmagnitude]
      simp only [Decimal.zeros_fixed, true_and]

end Double

end SpriteStage
