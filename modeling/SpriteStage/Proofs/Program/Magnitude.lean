import SpriteStage.Proofs.Program.Compiled

/-!
# How large constants become

Constants are worked out when a program is compiled, so a short text must not write a huge value.  What
would be too large is refused before it is worked out, but only products, powers and repetitions are
looked at.  The other operations of integers lengthen them by a bit at most, and only sums do even that.

## Main definitions

* `Value.bits` is the number of bits of a value that counts as an integer
* `Script.Expr.literalBits` and `Script.Expr.sums` are what the bound for an expression is made of
* `Script.Expr.folded` are the expressions that are worked out for an expression
* `StaysSmall` says what is known of the size of a constant

## Main results

* `staysSmall_of_constant` is the bound for one expression
* `folded_constants_stay_small` is the bound for all expressions worked out on the way
-/

namespace SpriteStage

open Script (Expr)

/-! ## Bits -/

/-- The number of bits of the integer that a value counts as. -/
def Value.bits : Value → ℕ
  | .int n => bitLength n
  | .bool b => bitLength (if b then 1 else 0)
  | _ => 0

theorem bitLength_le_iff {n : ℤ} {k : ℕ} : bitLength n ≤ k ↔ n.natAbs < 2 ^ k := by
  rw [bitLength]
  split
  · rename_i hn
    subst hn
    simp
  · rename_i hn
    rw [Nat.succ_le_iff, Nat.log2_lt (Int.natAbs_ne_zero.2 hn)]

theorem natAbs_lt_two_pow (n : ℤ) : n.natAbs < 2 ^ bitLength n := bitLength_le_iff.1 le_rfl

/-- Integers of a smaller magnitude have no more bits. -/
theorem bitLength_mono {m n : ℤ} (h : m.natAbs ≤ n.natAbs) : bitLength m ≤ bitLength n :=
  bitLength_le_iff.2 (h.trans_lt (natAbs_lt_two_pow n))

/-- The sum of two magnitudes has a bit more than the larger one, at most. -/
theorem bitLength_le_of_natAbs_le_add {a b n : ℤ} (h : n.natAbs ≤ a.natAbs + b.natAbs) :
    bitLength n ≤ max (bitLength a) (bitLength b) + 1 := by
  have ha : a.natAbs < 2 ^ max (bitLength a) (bitLength b) := bitLength_le_iff.1 (le_max_left _ _)
  have hb : b.natAbs < 2 ^ max (bitLength a) (bitLength b) := bitLength_le_iff.1 (le_max_right _ _)
  rw [bitLength_le_iff, pow_succ]
  omega

theorem bitLength_mul_le (a b : ℤ) : bitLength (a * b) ≤ bitLength a + bitLength b := by
  rw [bitLength_le_iff, Int.natAbs_mul, pow_add]
  exact Nat.mul_lt_mul'' (natAbs_lt_two_pow a) (natAbs_lt_two_pow b)

theorem bitLength_pow_le (a : ℤ) {n : ℕ} (hn : n ≠ 0) : bitLength (a ^ n) ≤ bitLength a * n := by
  rw [bitLength_le_iff, Int.natAbs_pow, pow_mul]
  exact Nat.pow_lt_pow_left (natAbs_lt_two_pow a) hn

/-- A remainder is no longer than the divisor. -/
theorem natAbs_fmod_le {a b : ℤ} (hb : b ≠ 0) : (a.fmod b).natAbs ≤ b.natAbs := by
  have hpositive : ∀ a : ℤ, ∀ {b : ℤ}, 0 < b → (a.fmod b).natAbs ≤ b.natAbs := by
    intro a b hb
    have hge := Int.fmod_nonneg_of_pos a hb
    have hlt := Int.fmod_lt_of_pos a hb
    omega
  rcases lt_or_gt_of_ne hb with hneg | hpos
  · -- The signs of both are changed.
    have h := hpositive (-a) (Int.neg_pos_of_neg hneg)
    rwa [Int.neg_fmod_neg, Int.natAbs_neg, Int.natAbs_neg] at h
  · exact hpositive a hpos

/-! ## Operations of integers -/

/-- What an operation of integers other than a product and a power gives is no longer than the longer
    operand, and a bit more for a sum. -/
theorem bitLength_applyInt {op : BinaryOp} {a b n : ℤ} (hmul : op ≠ .mul) (hpow : op ≠ .pow)
    (h : Number.applyInt op a b = .ok (.int n)) :
    bitLength n ≤ max (bitLength a) (bitLength b) + if op = .add ∨ op = .sub then 1 else 0 := by
  cases op with
  | add =>
    cases h
    exact bitLength_le_of_natAbs_le_add (Int.natAbs_add_le a b)
  | sub =>
    cases h
    exact bitLength_le_of_natAbs_le_add (Int.natAbs_sub_le a b)
  | floorDiv =>
    simp only [Number.applyInt] at h
    split at h <;> cases h
    exact (bitLength_mono (Int.natAbs_fdiv_le_natAbs a b)).trans (le_max_left _ _)
  | mod =>
    simp only [Number.applyInt] at h
    split at h
    · cases h
    · rename_i hb
      cases h
      exact (bitLength_mono (natAbs_fmod_le hb)).trans (le_max_right _ _)
  | div =>
    simp only [Number.applyInt] at h
    split at h
    · cases h
    · split at h <;> cases h
  | mul => exact absurd rfl hmul
  | pow => exact absurd rfl hpow

/-- A power of integers that is an integer has no negative exponent. -/
theorem eq_pow_of_applyInt {a b n : ℤ} (h : Number.applyInt .pow a b = .ok (.int n)) :
    0 ≤ b ∧ n = a ^ b.toNat := by
  simp only [Number.applyInt] at h
  split at h
  · rename_i hb
    cases h
    exact ⟨hb, rfl⟩
  · -- Otherwise the power is one of doubles.
    obtain ⟨x, -, h⟩ := exists_of_bind_eq_ok h
    obtain ⟨y, -, h⟩ := exists_of_bind_eq_ok h
    rw [Number.floatPower] at h
    split at h <;> cases h

/-- A product with a truth value is zero or the other factor. -/
theorem bitLength_mul_le_max {a b : ℤ} (h : a.natAbs ≤ 1 ∨ b.natAbs ≤ 1) :
    bitLength (a * b) ≤ max (bitLength a) (bitLength b) := by
  rcases h with ha | hb
  · refine le_trans (bitLength_mono ?_) (le_max_right _ _)
    rw [Int.natAbs_mul]
    exact (Nat.mul_le_mul_right _ ha).trans (Nat.one_mul _).le
  · refine le_trans (bitLength_mono ?_) (le_max_left _ _)
    rw [Int.natAbs_mul]
    exact (Nat.mul_le_mul_left _ hb).trans (Nat.mul_one _).le

/-- A power of a truth value, or with one as its exponent, is zero, one or the base. -/
theorem bitLength_pow_le_max {a : ℤ} {n : ℕ} (h : a.natAbs ≤ 1 ∨ n ≤ 1) :
    bitLength (a ^ n) ≤ max (bitLength a) 1 := by
  rcases h with ha | hn
  · refine le_trans (bitLength_le_iff.2 ?_) (le_max_right _ _)
    rw [Int.natAbs_pow]
    exact (Nat.pow_le_pow_left ha n).trans_lt (by rw [one_pow]; exact one_lt_two)
  · obtain rfl | rfl : n = 0 ∨ n = 1 := by omega
    · rw [pow_zero]
      exact le_max_right _ _
    · rw [pow_one]
      exact le_max_left _ _

/-- A product or a power with a truth value is no longer than an operand or than one bit. -/
theorem bitLength_applyInt_of_truth {op : BinaryOp} (hop : op = .mul ∨ op = .pow) {a b n : ℤ}
    (htruth : a.natAbs ≤ 1 ∨ b.natAbs ≤ 1) (h : Number.applyInt op a b = .ok (.int n)) :
    bitLength n ≤ max 1 (max (bitLength a) (bitLength b)) := by
  rcases hop with rfl | rfl
  · cases h
    exact (bitLength_mul_le_max htruth).trans (le_max_right _ _)
  · obtain ⟨-, rfl⟩ := eq_pow_of_applyInt h
    have hle := bitLength_pow_le_max (htruth.imp_right fun hb : b.natAbs ≤ 1 =>
      (by omega : b.toNat ≤ 1))
    omega

/-! ## Operations of values -/

/-- A double on one side makes a double of the result. -/
theorem Number.apply_ne_int {op : BinaryOp} {x y : Number} {n : ℤ}
    (h : (∃ z, x = .float z) ∨ ∃ z, y = .float z) : Number.apply op x y ≠ .ok (.int n) := by
  have hfloat : ∀ x y : Float, Number.applyFloat op x y ≠ .ok (.int n) := by
    intro x y h
    cases op <;> simp only [Number.applyFloat, Number.floatPower] at h <;> (try split at h) <;> cases h
  intro heq
  unfold Number.apply at heq
  split at heq
  · obtain ⟨z, hz⟩ | ⟨z, hz⟩ := h <;> cases hz
  · obtain ⟨x', -, heq⟩ := exists_of_bind_eq_ok heq
    obtain ⟨y', -, heq⟩ := exists_of_bind_eq_ok heq
    exact hfloat x' y' heq

namespace Value

theorem bits_of_number? {v : Value} {a : ℤ} (h : v.number? = some (.int a)) : v.bits = bitLength a := by
  cases v with
  | int n | bool b =>
    cases h
    rfl
  | null | float x | text s | list items | object fields => cases h

/-- An integer comes of an operation on two values that count as integers. -/
theorem exists_of_apply_eq_int {op : BinaryOp} {l r : Value} {n : ℤ} (h : apply op l r = .ok (.int n)) :
    ∃ a b, l.number? = some (.int a) ∧ r.number? = some (.int b) ∧
      Number.applyInt op a b = .ok (.int n) := by
  rw [apply] at h
  split at h
  · rename_i x y hx hy
    obtain ⟨z, hz, hvalue⟩ := exists_of_map_eq_ok h
    cases z with
    | float z => cases hvalue
    | int z =>
      cases hvalue
      cases x with
      | int a =>
        cases y with
        | int b => exact ⟨a, b, hx, hy, hz⟩
        | float y => exact absurd hz (Number.apply_ne_int (.inr ⟨y, rfl⟩))
      | float x => exact absurd hz (Number.apply_ne_int (.inl ⟨x, rfl⟩))
  · -- Otherwise a text or a list has come of it.
    unfold applyOther at h
    split at h
    case h_1 | h_2 | h_3 | h_4 =>
      obtain ⟨k, -, hk⟩ := exists_of_map_eq_ok h
      cases hk
    all_goals cases h

end Value

/-! ## Folding -/

/-- What is folded has passed the checks of its size. -/
theorem apply_of_foldBinary {op : BinaryOp} {l r v : Value} (h : foldBinary op l r = .ok v) :
    oversized? op l r = none ∧ Value.apply op l r = .ok v ∧ ∀ s, v = .text s → s.length ≤ textLimit := by
  rw [foldBinary] at h
  split at h
  · cases h
  · rename_i hsize
    refine ⟨hsize, ?_⟩
    split at h
    · cases h
    · rename_i s happly
      split at h <;> cases h
      exact ⟨happly, by rintro _ ⟨⟩; omega⟩
    · rename_i w hne happly
      cases h
      exact ⟨happly, fun s hs => absurd hs (hne s)⟩

/-- **A product or a power of integers has no more bits than the limit**, as far as it is an integer. -/
theorem bitLength_le_of_foldBinary {op : BinaryOp} (hop : op = .mul ∨ op = .pow) {a b n : ℤ}
    (h : foldBinary op (.int a) (.int b) = .ok (.int n)) : bitLength n ≤ bitLimit := by
  obtain ⟨hsize, happly, -⟩ := apply_of_foldBinary h
  obtain ⟨a', b', ha, hb, hresult⟩ := Value.exists_of_apply_eq_int happly
  cases ha
  cases hb
  rcases hop with rfl | rfl
  · cases hresult
    -- A product that would be too large is refused before it is worked out.
    have hle : ¬ bitLength a + bitLength b > bitLimit := by
      intro hlarge
      rw [oversized?, oversizedProduct?, if_pos hlarge] at hsize
      cases hsize
    exact (bitLength_mul_le a b).trans (not_lt.1 hle)
  · obtain ⟨hb, rfl⟩ := eq_pow_of_applyInt hresult
    -- So is a power, unless its exponent is zero.
    rcases hb.eq_or_lt with rfl | hpos
    · rw [Int.toNat_zero, pow_zero]
      decide
    · have hle : ¬ (0 < b ∧ bitLength a * b.toNat > bitLimit) := by
        intro hlarge
        rw [oversized?, oversizedPower?, if_pos hlarge] at hsize
        split at hsize <;> cases hsize
      have hexponent : b.toNat ≠ 0 := by omega
      exact (bitLength_pow_le a hexponent).trans (not_lt.1 fun hlarge => hle ⟨hpos, hlarge⟩)

/-- A value that counts as an integer is one, or a truth value. -/
theorem Value.eq_int_or_natAbs_le {v : Value} {a : ℤ} (h : v.number? = some (.int a)) :
    v = .int a ∨ a.natAbs ≤ 1 := by
  cases v with
  | int n =>
    cases h
    exact .inl rfl
  | bool b =>
    cases h
    exact .inr (by cases b <;> decide)
  | null | float x | text s | list items | object fields => cases h

/-- **Folding adds a bit for a sum**, and nothing for other operations, beyond the limit. -/
theorem bits_of_foldBinary {op : BinaryOp} {l r v : Value} (h : foldBinary op l r = .ok v) :
    v.bits ≤ max bitLimit (max l.bits r.bits) + if op = .add ∨ op = .sub then 1 else 0 := by
  obtain ⟨-, happly, -⟩ := apply_of_foldBinary h
  cases v with
  | int n =>
    obtain ⟨a, b, ha, hb, hresult⟩ := Value.exists_of_apply_eq_int happly
    rw [Value.bits_of_number? ha, Value.bits_of_number? hb, Value.bits]
    by_cases hop : op = .mul ∨ op = .pow
    · -- Truth values pass the checks, but they add nothing.
      rcases Value.eq_int_or_natAbs_le ha with rfl | ha'
      · rcases Value.eq_int_or_natAbs_le hb with rfl | hb'
        · have := bitLength_le_of_foldBinary hop h
          omega
        · have := bitLength_applyInt_of_truth hop (.inr hb') hresult
          have : 1 ≤ bitLimit := by decide
          omega
      · have := bitLength_applyInt_of_truth hop (.inl ha') hresult
        have : 1 ≤ bitLimit := by decide
        omega
    · have hle := bitLength_applyInt (fun h => hop (.inl h)) (fun h => hop (.inr h)) hresult
      omega
  | bool b =>
    have hbit : Value.bits (.bool b) ≤ bitLimit := by cases b <;> decide
    omega
  | null | float x | text s | list items | object fields => exact Nat.zero_le _

/-! ## Constants -/

namespace Script.Expr

/-- The most bits of an integer that stands in an expression as a constant. -/
def literalBits : Expr → ℕ
  | .literal (.value v) _ => v.bits
  | .sign _ operand _ => operand.literalBits
  | .binary _ left right _ => max left.literalBits right.literalBits
  | _ => 0

/-- The number of sums and differences in an expression. -/
def sums : Expr → ℕ
  | .sign _ operand _ => operand.sums
  | .binary op left right _ =>
    left.sums + right.sums + if op = .arithmetic .add ∨ op = .arithmetic .sub then 1 else 0
  | _ => 0

/-- The expressions that are worked out for an expression, itself among them. -/
def folded : Expr → List Expr
  | .sign op operand span => .sign op operand span :: operand.folded
  | .binary op left right span => .binary op left right span :: (left.folded ++ right.folded)
  | e => [e]

end Script.Expr

/-- What is known of the size of the value of a constant expression. -/
structure StaysSmall (scope : List String) (e : Expr) (v : Value) : Prop where
  scalar : v.isScalar = true
  bits : v.bits ≤ max bitLimit e.literalBits + e.sums
  /-- Only a text that is written out may be longer than the limit. -/
  text : ∀ s, v = .text s → (∃ span, e = .literal (.value v) span) ∨ s.length ≤ textLimit
  /-- Products and powers of integers keep to the limit whatever their operands are. -/
  product : ∀ op left right span a b n, op = .mul ∨ op = .pow →
    e = .binary (.arithmetic op) left right span → constant scope left = .ok (.int a) →
    constant scope right = .ok (.int b) → v = .int n → bitLength n ≤ bitLimit

/-- An operation on one value does not lengthen it, and gives no text. -/
theorem bits_applyUnary {op : UnaryOp} {v w : Value} (h : v.applyUnary op = .ok w) :
    w.bits ≤ v.bits ∧ ∀ s, w ≠ .text s := by
  cases hv : v.number? with
  | none =>
    simp only [Value.applyUnary, hv, reduceCtorEq] at h
  | some a =>
    simp only [Value.applyUnary, hv] at h
    cases a with
    | float x => cases op <;> cases h <;> exact ⟨Nat.zero_le _, fun _ hs => by cases hs⟩
    | int n =>
      rw [Value.bits_of_number? hv]
      cases op with
      | plus =>
        cases h
        exact ⟨le_rfl, fun _ hs => by cases hs⟩
      | minus =>
        cases h
        exact ⟨bitLength_mono (Int.natAbs_neg n).le, fun _ hs => by cases hs⟩

/-- **A constant stays small**. -/
theorem staysSmall_of_constant {scope : List String} {e : Expr} (he : e.isPlain = true) {v : Value}
    (h : constant scope e = .ok v) : StaysSmall scope e v := by
  have hscalar := isScalar_constant he h
  fun_induction constant scope e generalizing v with
  | case2 v span hv =>
    cases h
    exact ⟨hscalar, le_max_right _ _, fun s hs => .inl ⟨span, rfl⟩,
      fun op left right span a b n _ he => by cases he⟩
  | case4 op operand span ih =>
    obtain ⟨w, hw, hsign⟩ := exists_of_bind_eq_ok h
    have hplain : operand.isPlain = true := he
    have hoperand := ih hplain hw (isScalar_constant hplain hw)
    obtain ⟨hbits, htext⟩ := bits_applyUnary (eq_ok_of_mapError (eq_ok_of_mapError hsign))
    exact ⟨hscalar, hbits.trans hoperand.bits, fun s hs => absurd hs (htext s),
      fun op left right span a b n _ he => by cases he⟩
  | case6 op left right span ihl ihr =>
    rw [Expr.isPlain, Bool.and_eq_true] at he
    obtain ⟨l, hl, h⟩ := exists_of_bind_eq_ok h
    obtain ⟨r, hr, h⟩ := exists_of_bind_eq_ok h
    have hfold := eq_ok_of_mapError h
    have hleft := (ihl he.1 hl (isScalar_constant he.1 hl)).bits
    have hright := (ihr he.2 hr (isScalar_constant he.2 hr)).bits
    refine ⟨hscalar, ?_, fun s hs => .inr ((apply_of_foldBinary hfold).2.2 s hs), ?_⟩
    · have hbits := bits_of_foldBinary hfold
      simp only [Expr.literalBits, Expr.sums, Script.Infix.arithmetic.injEq]
      omega
    · intro op' left' right' span' a b n hop heq ha hb hn
      cases heq
      cases ha.symm.trans hl
      cases hb.symm.trans hr
      subst hn
      exact bitLength_le_of_foldBinary hop hfold
  | case8 function arguments keywords span =>
    -- The word of a double gives one.
    obtain ⟨x, rfl⟩ : ∃ x, v = .float x := by
      unfold floatLiteral at h
      split at h
      · split at h
        · split at h <;> cases h
          exact ⟨_, rfl⟩
        · cases h
      · cases h
    exact ⟨hscalar, Nat.zero_le _, fun s hs => (by cases hs),
      fun op left right span a b n _ he => by cases he⟩
  | _ => cases h

/-- What is worked out for a constant is a constant itself. -/
theorem exists_constant_of_mem_folded {scope : List String} {e d : Expr} (he : e.isPlain = true)
    {v : Value} (h : constant scope e = .ok v) (hd : d ∈ e.folded) :
    d.isPlain = true ∧ ∃ w, constant scope d = .ok w := by
  fun_induction Expr.folded e generalizing v with
  | case1 op operand span ih =>
    rcases List.mem_cons.1 hd with rfl | hmem
    · exact ⟨he, v, h⟩
    · cases op with
      | arithmetic op =>
        -- The operand has a value, for the whole has one.
        obtain ⟨w, hw, -⟩ := exists_of_bind_eq_ok h
        exact ih he hw hmem
      | _ => cases h
  | case2 op left right span ihl ihr =>
    rcases List.mem_cons.1 hd with rfl | hmem
    · exact ⟨he, v, h⟩
    · rw [Expr.isPlain, Bool.and_eq_true] at he
      cases op with
      | arithmetic op =>
        obtain ⟨l, hl, h⟩ := exists_of_bind_eq_ok h
        obtain ⟨r, hr, -⟩ := exists_of_bind_eq_ok h
        rcases List.mem_append.1 hmem with hmem | hmem
        · exact ihl he.1 hl hmem
        · exact ihr he.2 hr hmem
      | _ => cases h
  | case3 e =>
    cases List.mem_singleton.1 hd
    exact ⟨he, v, h⟩

/-- **Constants stay small and scalar**, and so do all that are worked out on the way. -/
theorem folded_constants_stay_small {scope : List String} {e : Expr} (he : e.isPlain = true)
    {v : Value} (h : constant scope e = .ok v) :
    StaysSmall scope e v ∧ ∀ d ∈ e.folded, ∃ w, constant scope d = .ok w ∧ StaysSmall scope d w := by
  refine ⟨staysSmall_of_constant he h, fun d hd => ?_⟩
  obtain ⟨hd, w, hw⟩ := exists_constant_of_mem_folded he h hd
  exact ⟨w, hw, staysSmall_of_constant hd hw⟩

/-- A power that just passes, and a sum of it with a truth value. -/
theorem power_with_sum_stays_small :
    let span : Script.Span := ⟨⟨1, 0⟩, ⟨1, 1⟩⟩
    let power : Expr := .binary (.arithmetic .pow) (.literal (.value (.int 15)) span)
      (.literal (.value (.int 1024)) span) span
    let sum : Expr := .binary (.arithmetic .add) power (.literal (.value (.bool true)) span) span
    power ∈ sum.folded ∧ StaysSmall [] sum (.int (15 ^ 1024 + 1)) ∧
      ∃ w, constant [] power = .ok w ∧ StaysSmall [] power w := by
  intro span power sum
  have hconstant : constant [] sum = .ok (.int (15 ^ 1024 + 1)) := by rfl
  have hmem : power ∈ sum.folded := List.mem_cons_of_mem _ List.mem_cons_self
  obtain ⟨hsum, hfolded⟩ := folded_constants_stay_small (by rfl) hconstant
  exact ⟨hmem, hsum, hfolded power hmem⟩

end SpriteStage
