import SpriteStage.Proofs.Number.Rounding

/-!
# The shortest decimal of a double

The search for the fewest digits tries one grid of decimals after the other.  It always ends with a
decimal of the rounding interval: the grid with 17 digits is finer than the interval is wide.

## Main definitions

* `Decimal.value` is the number that a decimal stands for
* `Within` tells whether a number lies in an interval with or without its ends
-/

namespace SpriteStage

/-- The number that a decimal stands for. -/
def Decimal.value (d : Decimal) : ℚ := d.digits * 10 ^ d.exponent

/-- Whether a number lies between two others, which belong to the interval if it is closed. -/
def Within (closed : Bool) (lo hi x : ℚ) : Prop :=
  if closed then lo ≤ x ∧ x ≤ hi else lo < x ∧ x < hi

theorem within_mul_iff {closed : Bool} {lo hi x r : ℚ} (hr : 0 < r) :
    Within closed (lo * r) (hi * r) (x * r) ↔ Within closed lo hi x := by
  cases closed <;> simp [Within, hr]

namespace Decimal

/-! ## Neighbours on a grid -/

section

variable {closed : Bool} {lo a hi b c : ℕ}

/-- The choice between two neighbours of which those may be chosen that lie in the interval. -/
private theorem choice_cases {below above : Prop} [Decidable below] [Decidable above]
    (order : Ordering) (q : ℕ) {choice : Option ℕ}
    (h : choice = if decide below && decide above then
        match order with
        | .lt => some q
        | .gt => some (q + 1)
        | .eq => some (if q % 2 = 0 then q else q + 1)
      else if below then some q else if above then some (q + 1) else none) :
    (choice = some q ∧ below) ∨ (choice = some (q + 1) ∧ above) ∨
      (choice = none ∧ ¬ below ∧ ¬ above) := by
  subst h
  -- Only if both neighbours may be chosen does it matter which is nearer.
  by_cases hbelow : below <;> by_cases habove : above <;> simp only [hbelow, habove]
  · cases order with
    | lt => exact .inl ⟨rfl, trivial⟩
    | gt => exact .inr (.inl ⟨rfl, trivial⟩)
    | eq =>
      by_cases heven : q % 2 = 0
      · exact .inl ⟨by simp [heven], trivial⟩
      · exact .inr (.inl ⟨by simp [heven], trivial⟩)
  · exact .inl ⟨rfl, trivial⟩
  · exact .inr (.inl ⟨rfl, trivial⟩)
  · exact .inr (.inr ⟨rfl, not_false, not_false⟩)

/-- What is found is one of the two neighbours, within the end of the interval on its side. -/
theorem neighbour?_cases (closed : Bool) (lo a hi b : ℕ) :
    (neighbour? closed lo a hi b = some (a / b) ∧
      if closed then lo ≤ a / b * b else lo < a / b * b) ∨
    (neighbour? closed lo a hi b = some (a / b + 1) ∧
      if closed then (a / b + 1) * b ≤ hi else (a / b + 1) * b < hi) ∨
    (neighbour? closed lo a hi b = none ∧
      ¬ (if closed then lo ≤ a / b * b else lo < a / b * b) ∧
      ¬ if closed then (a / b + 1) * b ≤ hi else (a / b + 1) * b < hi) :=
  choice_cases (compare (2 * (a - a / b * b)) b) (a / b) rfl

/-- A neighbour that is found lies in the interval. -/
theorem within_neighbour? (hb : 0 < b) (hlo : lo < a) (hhi : a < hi)
    (h : neighbour? closed lo a hi b = some c) : Within closed lo hi (c * b : ℕ) := by
  have hbelow : a / b * b ≤ a := Nat.div_mul_le_self a b
  have habove : a < (a / b + 1) * b := by
    rw [Nat.mul_comm]
    exact Nat.lt_mul_div_succ a hb
  rcases neighbour?_cases closed lo a hi b with ⟨hfound, hend⟩ | ⟨hfound, hend⟩ | ⟨hfound, -⟩
  · obtain rfl : a / b = c := Option.some.inj (hfound.symm.trans h)
    cases closed
    · exact ⟨by exact_mod_cast hend, by exact_mod_cast hbelow.trans_lt hhi⟩
    · exact ⟨by exact_mod_cast hend, by exact_mod_cast hbelow.trans hhi.le⟩
  · obtain rfl : a / b + 1 = c := Option.some.inj (hfound.symm.trans h)
    cases closed
    · exact ⟨by exact_mod_cast hlo.trans habove, by exact_mod_cast hend⟩
    · exact ⟨by exact_mod_cast hlo.le.trans habove.le, by exact_mod_cast hend⟩
  · cases hfound.symm.trans h

theorem exists_neighbour? (hwide : lo + b < hi) (closed : Bool) :
    ∃ c, neighbour? closed lo a hi b = some c := by
  have hnext : (a / b + 1) * b = a / b * b + b := Nat.succ_mul _ _
  rcases neighbour?_cases closed lo a hi b with ⟨hfound, -⟩ | ⟨hfound, -⟩ | ⟨-, hbelow, habove⟩
  · exact ⟨_, hfound⟩
  · exact ⟨_, hfound⟩
  · -- Otherwise the interval would lie between the neighbours.
    cases closed <;>
      simp only [Bool.false_eq_true, if_false, if_true, not_lt, not_le] at hbelow habove <;> omega

end

/-! ## The first grid -/

/-- The scale of a grid with a decimal unit: a fraction `t / s` for `10 ^ unit`. -/
def scale (unit : ℤ) : ℕ × ℕ :=
  if 0 ≤ unit then (1, 10 ^ unit.toNat) else (10 ^ (-unit).toNat, 1)

theorem scale_eq (unit : ℤ) :
    0 < (scale unit).1 ∧ 0 < (scale unit).2 ∧ ((scale unit).2 / (scale unit).1 : ℚ) = 10 ^ unit := by
  rw [scale]
  split
  · rename_i h
    obtain ⟨n, rfl⟩ := Int.eq_ofNat_of_zero_le h
    simp
  · rename_i h
    obtain ⟨n, hn⟩ := Int.eq_ofNat_of_zero_le (neg_nonneg.2 (not_le.1 h).le)
    obtain rfl : unit = -n := by omega
    simp

/-- The neighbour of a fraction on the grid with a decimal unit. -/
def gridNeighbour? (closed : Bool) (lo a hi b : ℕ) (unit : ℤ) : Option ℕ :=
  neighbour? closed (lo * (scale unit).1) (a * (scale unit).1) (hi * (scale unit).1)
    (b * (scale unit).2)

theorem firstGrid_succ (closed : Bool) (lo a hi b : ℕ) (k : ℤ) (fuel n : ℕ) :
    firstGrid closed lo a hi b k (fuel + 1) n =
      match gridNeighbour? closed lo a hi b (k - n) with
      | some c => ⟨c, k - n⟩
      | none => firstGrid closed lo a hi b k fuel (n + 1) := rfl

section

variable {closed : Bool} {lo a hi b c : ℕ} {unit : ℤ}

/-- Fractions and multiples of the unit, both over the denominator that they have in common. -/
theorem scaled_cast (hb : 0 < b) (unit : ℤ) :
    ∃ r : ℚ, 0 < r ∧ (∀ x : ℕ, ((x * (scale unit).1 : ℕ) : ℚ) = x / b * r) ∧
      ∀ y : ℕ, ((y * (b * (scale unit).2) : ℕ) : ℚ) = y * 10 ^ unit * r := by
  obtain ⟨hs, ht, hvalue⟩ := scale_eq unit
  have hb' : (0 : ℚ) < b := by exact_mod_cast hb
  have hs' : (0 : ℚ) < (scale unit).1 := by exact_mod_cast hs
  refine ⟨b * (scale unit).1, mul_pos hb' hs', fun x => ?_, fun y => ?_⟩
  · push_cast
    field_simp
  · rw [← hvalue]
    push_cast
    field_simp

theorem within_gridNeighbour? (hb : 0 < b) (hlo : lo < a) (hhi : a < hi)
    (h : gridNeighbour? closed lo a hi b unit = some c) :
    Within closed (lo / b) (hi / b) (c * 10 ^ unit) := by
  obtain ⟨hs, ht, -⟩ := scale_eq unit
  obtain ⟨r, hr, hfraction, hmultiple⟩ := scaled_cast hb unit
  have hwithin := within_neighbour? (Nat.mul_pos hb ht) (Nat.mul_lt_mul_of_pos_right hlo hs)
    (Nat.mul_lt_mul_of_pos_right hhi hs) h
  rw [hfraction, hfraction, hmultiple] at hwithin
  exact (within_mul_iff hr).1 hwithin

theorem exists_gridNeighbour? (hb : 0 < b) (hwide : (lo / b + 10 ^ unit : ℚ) < hi / b)
    (closed : Bool) : ∃ c, gridNeighbour? closed lo a hi b unit = some c := by
  obtain ⟨r, hr, hfraction, hmultiple⟩ := scaled_cast hb unit
  refine exists_neighbour? ?_ closed
  have hone := hmultiple 1
  rw [Nat.one_mul] at hone
  have hcast : ((lo * (scale unit).1 + b * (scale unit).2 : ℕ) : ℚ) < (hi * (scale unit).1 : ℕ) := by
    rw [Nat.cast_add, hone, hfraction, hfraction, ← add_mul]
    refine mul_lt_mul_of_pos_right ?_ hr
    push_cast
    linarith
  exact_mod_cast hcast

/-- The grids up to the 17th end with a decimal in the interval, if the 17th is finer than the
    interval is wide. -/
theorem within_firstGrid (closed : Bool) {k : ℤ} (hb : 0 < b) (hlo : lo < a) (hhi : a < hi)
    (hwide : (lo / b + 10 ^ (k - 17) : ℚ) < hi / b) (fuel n : ℕ) (hlast : n + fuel = 17) :
    Within closed (lo / b) (hi / b) (firstGrid closed lo a hi b k (fuel + 1) n).value := by
  -- By induction on the grids that are left: the last of them is fine enough.
  induction fuel generalizing n with
  | zero =>
    obtain rfl : n = 17 := hlast
    obtain ⟨c, hc⟩ := exists_gridNeighbour? (a := a) hb hwide closed
    rw [firstGrid_succ]
    simp only [Nat.cast_ofNat, hc]
    exact within_gridNeighbour? hb hlo hhi hc
  | succ fuel ih =>
    rw [firstGrid_succ]
    cases hc : gridNeighbour? closed lo a hi b (k - n) with
    | none => exact ih (n + 1) (by omega)
    | some c => exact within_gridNeighbour? hb hlo hhi hc

end

/-! ## The magnitude -/

theorem powerAtMost_iff {k : ℤ} {a b : ℕ} (hb : 0 < b) :
    powerAtMost k a b = true ↔ (10 : ℚ) ^ k ≤ a / b := by
  have hb' : (0 : ℚ) < b := by exact_mod_cast hb
  -- Naturals are compared, with the power of ten on the side where it is one.
  rw [powerAtMost, le_div_iff₀ hb']
  split
  · rename_i h
    obtain ⟨n, rfl⟩ := Int.eq_ofNat_of_zero_le h
    rw [decide_eq_true_eq, zpow_natCast, Int.toNat_natCast]
    exact_mod_cast Iff.rfl
  · rename_i h
    obtain ⟨n, hn⟩ := Int.eq_ofNat_of_zero_le (neg_nonneg.2 (not_le.1 h).le)
    obtain rfl : k = -n := by omega
    rw [decide_eq_true_eq, neg_neg, Int.toNat_natCast, zpow_neg, zpow_natCast,
      inv_mul_le_iff₀ (by positivity), mul_comm]
    exact_mod_cast Iff.rfl

/-- Raising a power keeps the power below it at most the fraction. -/
theorem power_le_raisePower {a b : ℕ} (hb : 0 < b) (fuel : ℕ) (k : ℤ)
    (hk : (10 : ℚ) ^ (k - 1) ≤ a / b) : (10 : ℚ) ^ (raisePower a b fuel k - 1) ≤ a / b := by
  induction fuel generalizing k with
  | zero => exact hk
  | succ fuel ih =>
    rw [raisePower]
    split
    · rename_i hpower
      refine ih (k + 1) ?_
      rw [add_sub_cancel_right]
      exact (powerAtMost_iff hb).1 hpower
    · exact hk

theorem powerAtMost_guess (n : ℕ) (hn : n < 2098) :
    powerAtMost (Int.fdiv (((n : ℤ) - 1074) * 30103) 100000 - 2) (2 ^ ((n : ℤ) - 1074).toNat)
      (2 ^ (1074 - (n : ℤ)).toNat) = true := by
  revert n
  decide +kernel

/-- The magnitude of a double does not exceed its number of digits. -/
theorem power_magnitude_le {m a b : ℕ} {e : ℤ} (hc : Canonical m e) (hb : 0 < b)
    (hvalue : (a / b : ℚ) = m * 2 ^ e) : (10 : ℚ) ^ (magnitude m e a b - 1) ≤ a / b := by
  have hlog : m.log2 < 53 := (Nat.log2_lt hc.pos.ne').2 hc.lt
  have hmin := hc.exponent_ge
  have hmax := hc.exponent_le
  obtain ⟨n, hn⟩ := Int.eq_ofNat_of_zero_le (show 0 ≤ (m.log2 + e : ℤ) + 1074 by omega)
  have hbits : (m.log2 + e : ℤ) = n - 1074 := by omega
  -- The magnitude is the first guess, raised as long as it may be.
  refine power_le_raisePower hb 4 _ ?_
  have hguess := (powerAtMost_iff (Nat.two_pow_pos _)).1 (powerAtMost_guess n (by omega))
  have hpower : ((2 ^ ((n : ℤ) - 1074).toNat : ℕ) / (2 ^ (1074 - (n : ℤ)).toNat : ℕ) : ℚ) =
      2 ^ ((n : ℤ) - 1074) := by
    rcases le_total 1074 (n : ℤ) with h | h
    · obtain ⟨j, hj⟩ := Int.eq_ofNat_of_zero_le (sub_nonneg.2 h)
      rw [hj, show (1074 - (n : ℤ)).toNat = 0 by omega]
      simp
    · obtain ⟨j, hj⟩ := Int.eq_ofNat_of_zero_le (sub_nonneg.2 h)
      rw [hj, show ((n : ℤ) - 1074).toNat = 0 by omega, show (n : ℤ) - 1074 = -j by omega]
      simp
  rw [hpower] at hguess
  rw [hbits, sub_sub]
  refine hguess.trans ?_
  rw [hvalue, ← hbits, zpow_add₀ two_ne_zero, zpow_natCast]
  refine mul_le_mul_of_nonneg_right ?_ (by positivity)
  exact_mod_cast Nat.log2_self_le hc.pos.ne'

/-! ## Trailing zeros -/

theorem value_trimGo (fuel digits : ℕ) (e : ℤ) :
    (trim.go fuel digits e).value = (⟨digits, e⟩ : Decimal).value := by
  induction fuel generalizing digits e with
  | zero => rfl
  | succ fuel ih =>
    rw [trim.go]
    split
    · rename_i h
      rw [ih]
      have hdigits : (digits : ℚ) = (digits / 10 : ℕ) * 10 := by
        have : digits = digits / 10 * 10 := by omega
        exact_mod_cast this
      show ((digits / 10 : ℕ) * 10 ^ (e + 1) : ℚ) = digits * 10 ^ e
      rw [hdigits, zpow_add_one₀ (by norm_num)]
      ring
    · rfl

theorem value_trim (d : Decimal) : d.trim.value = d.value := value_trimGo _ _ _

/-! ## The shortest decimal -/

/-- The search of the shortest decimal works on fractions over the denominator of a quarter of a
    unit. -/
theorem shortest_eq (m : ℕ) (e : ℤ) :
    ∃ up b : ℕ, 0 < up ∧ 0 < b ∧ (up / b : ℚ) = 2 ^ (e - 2) ∧
      shortest m e = trim (firstGrid (m % 2 = 0) ((4 * m - quartersDown m e) * up) (4 * m * up)
        ((4 * m + 2) * up) b (magnitude m e (4 * m * up) b) 17 1) := by
  -- A quarter of a unit is a natural or one over a natural.
  by_cases h : 0 ≤ e - 2
  · obtain ⟨n, hn⟩ := Int.eq_ofNat_of_zero_le h
    refine ⟨2 ^ n, 1, Nat.two_pow_pos n, Nat.one_pos, by simp [hn], ?_⟩
    rw [shortest, quartersDown]
    simp only [if_pos h]
    simp only [hn, Int.toNat_natCast, Nat.pow_eq]
  · obtain ⟨n, hn⟩ := Int.eq_ofNat_of_zero_le (neg_nonneg.2 (not_le.1 h).le)
    have hquarter : e - 2 = -n := by omega
    refine ⟨1, 2 ^ n, Nat.one_pos, Nat.two_pow_pos n, by simp [hquarter], ?_⟩
    rw [shortest, quartersDown]
    simp only [if_neg h]
    simp only [hn, Int.toNat_natCast, Nat.pow_eq]

/-- The rounding interval of a double is wider than the last of 17 digits. -/
theorem four_mul_lt {m : ℕ} {e : ℤ} (hc : Canonical m e) : 4 * m < (quartersDown m e + 2) * 10 ^ 16 := by
  have := hc.lt
  rw [quartersDown]
  split <;> omega

/-- **The shortest decimal of a double lies in its rounding interval.** -/
theorem roundsTo_shortest {m : ℕ} {e : ℤ} (hc : Canonical m e) :
    RoundsTo m e (shortest m e).value := by
  obtain ⟨up, b, hup, hb, hquarter, hshortest⟩ := shortest_eq m e
  have hm := hc.pos
  have hdown := quartersDown_le_two m e
  have hunit : (0 : ℚ) < 2 ^ (e - 2) := by positivity
  have hfraction : ∀ x : ℕ, ((x * up : ℕ) / b : ℚ) = x * 2 ^ (e - 2) := fun x => by
    rw [← hquarter]
    push_cast
    ring
  have hcast : ((4 * m - quartersDown m e : ℕ) : ℚ) = 4 * m - quartersDown m e := by
    rw [Nat.cast_sub (by omega)]
    push_cast
    rfl
  have hpositive : 0 < quartersDown m e := by
    rw [quartersDown]
    split <;> omega
  have hlo : (4 * m - quartersDown m e) * up < 4 * m * up :=
    Nat.mul_lt_mul_of_pos_right (by omega) hup
  have hhi : 4 * m * up < (4 * m + 2) * up := Nat.mul_lt_mul_of_pos_right (by omega) hup
  obtain ⟨k, hk⟩ : ∃ k, k = magnitude m e (4 * m * up) b := ⟨_, rfl⟩
  have hmagnitude : (10 : ℚ) ^ (k - 1) ≤ 4 * m * 2 ^ (e - 2) := by
    have hvalue : ((4 * m * up : ℕ) / b : ℚ) = m * 2 ^ e := by
      rw [hfraction, show e = e - 2 + (2 : ℕ) by push_cast; ring, two_zpow_add, zpow_natCast]
      push_cast
      ring_nf
    have := power_magnitude_le hc hb hvalue
    rw [hfraction, ← hk] at this
    exact_mod_cast this
  -- A unit of the 17th digit is at most the magnitude over 10 ^ 16, and the mantissa is less than
  -- that in half units.
  have hwide : (((4 * m - quartersDown m e) * up : ℕ) / b + 10 ^ (k - 17) : ℚ) <
      ((4 * m + 2) * up : ℕ) / b := by
    have hpower : (10 : ℚ) ^ (k - 17) = 10 ^ (k - 1) / 10 ^ 16 := by
      rw [show k - 17 = k - 1 - (16 : ℕ) by push_cast; ring, zpow_sub₀ (by norm_num), zpow_natCast]
    have hbits : (4 * m : ℚ) < (quartersDown m e + 2) * 10 ^ 16 := by
      exact_mod_cast four_mul_lt hc
    have hlast : (10 : ℚ) ^ (k - 17) < (quartersDown m e + 2) * 2 ^ (e - 2) := by
      rw [hpower, div_lt_iff₀ (by positivity)]
      calc (10 : ℚ) ^ (k - 1) ≤ 4 * m * 2 ^ (e - 2) := hmagnitude
        _ < (quartersDown m e + 2) * 10 ^ 16 * 2 ^ (e - 2) := mul_lt_mul_of_pos_right hbits hunit
        _ = (quartersDown m e + 2) * 2 ^ (e - 2) * 10 ^ 16 := by ring
    rw [hfraction, hfraction, hcast]
    push_cast
    linarith
  have hwithin := within_firstGrid (m % 2 = 0) hb hlo hhi hwide 16 1 rfl
  rw [hfraction, hfraction, hcast, hk, ← value_trim, ← hshortest] at hwithin
  push_cast at hwithin
  -- The search takes the ends of the interval exactly if the mantissa is even.
  rcases Nat.mod_two_eq_zero_or_one m with heven | hodd
  · simp only [heven, decide_true, Within, if_true] at hwithin
    exact ⟨hwithin.1, hwithin.2, fun h => by omega⟩
  · simp only [hodd, one_ne_zero, decide_false, Within, Bool.false_eq_true, if_false] at hwithin
    exact ⟨hwithin.1.le, hwithin.2.le, fun _ => hwithin⟩

end Decimal

end SpriteStage
