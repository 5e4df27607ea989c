import SpriteStage.Proofs.Number.Notation
import SpriteStage.Proofs.Number.Rational

/-!
# The rounds of a counting loop

A loop goes round as often as one that counts up from zero while the count is less than a number.  The count
is exact, whatever kind the number is of: a fraction above a whole number is one more round, and a double is
compared with integers of any size.

## Main definitions

* `CountsTo` says where a counting loop stops

## Main results

* `repeatCount_of_rational` is the number of rounds
* `rounds_of_counting_loop` says what it is for all numbers
-/

namespace SpriteStage

/-- A loop that goes on while its count is less than `times` stops at `n`. -/
structure CountsTo (times : Value) (n : ℕ) : Prop where
  goesOn : ∀ k < n, Value.holds .less (.int k) times = .ok true
  stops : Value.holds .less (.int n) times = .ok false

section

variable {times later : Value} {t l : Number} {q r : ℚ} {n : ℕ}

/-- Numbers are compared whichever kinds they are of. -/
theorem Value.holds_of_number {v w : Value} {a b : Number} (hv : v.number? = some a) (hw : w.number? = some b)
    (c : Comparison) : holds c v w = .ok (Number.compare? a b == some c.ordering) := by
  cases v with
  | bool _ | int _ | float _ =>
    cases hv
    cases w with
    | bool _ | int _ | float _ =>
      cases hw
      rfl
    | null | text _ | list _ | object _ => cases hw
  | null | text _ | list _ | object _ => cases hv

/-- **A loop goes round as often as the ceiling of its number says.** -/
theorem repeatCount_of_rational (h : times.number? = some t) (hq : t.rational? = some q) :
    repeatCount times = .ok ⌈q⌉₊ := by
  have hzero : Number.rational? (.int 0) = some 0 := by simp [Number.rational?]
  have hholds := Value.holds_of_number h (w := .int 0) rfl .greater
  rw [Number.compare?_of_rational hq hzero] at hholds
  rw [repeatCount, hholds]
  by_cases hpos : 0 < q
  · rw [compare_gt_iff_gt.2 hpos]
    cases t with
    | int n =>
      cases hq
      rw [h, Nat.ceil_intCast]
      rfl
    | float x =>
      rw [h]
      simp only [Exact.ceil?_of_rational hq]
      rw [← Int.ceil_toNat]
      rfl
  · have hne : (some (compare q 0) == some Value.Comparison.greater.ordering) = false :=
      beq_eq_false_iff_ne.2 fun h => hpos (compare_gt_iff_gt.1 (Option.some.inj h))
    rw [hne, Nat.ceil_eq_zero.2 (not_lt.1 hpos)]
    rfl

/-- A count is compared with a number exactly. -/
theorem holds_less_natCast (h : times.number? = some t) (hq : t.rational? = some q) (k : ℕ) :
    Value.holds .less (.int k) times = .ok (decide ((k : ℚ) < q)) := by
  have hk : Number.rational? (.int k) = some (k : ℚ) := by simp [Number.rational?]
  rw [Value.holds_of_number rfl h, Number.compare?_of_rational hk hq]
  congr 1
  rw [Bool.eq_iff_iff, beq_iff_eq, decide_eq_true_iff, ← compare_lt_iff_lt]
  exact Option.some_inj

/-- The counting loop stops at the ceiling. -/
theorem countsTo_ceil (h : times.number? = some t) (hq : t.rational? = some q) : CountsTo times ⌈q⌉₊ where
  goesOn k hk := by rw [holds_less_natCast h hq, decide_eq_true (Nat.lt_ceil.1 hk)]
  stops := by rw [holds_less_natCast h hq, decide_eq_false (not_lt.2 (Nat.le_ceil q))]

/-! ## Numbers that are not finite -/

/-- A number is rational, infinite or not-a-number. -/
theorem Number.rational?_cases (t : Number) :
    (∃ q, t.rational? = some q) ∨ t = .float Double.nan ∨ ∃ s, t = .float (Double.infinity s) := by
  cases t with
  | int n => exact .inl ⟨n, rfl⟩
  | float x =>
    cases hx : Exact.ofFloat x with
    | nan => exact .inr (.inl (congrArg Number.float (Double.eq_nan_of_ofFloat hx)))
    | infinite s => exact .inr (.inr ⟨s, congrArg Number.float (Double.eq_infinity_of_ofFloat hx)⟩)
    | finite s m e => exact .inl ⟨_, by rw [rational?, hx, Exact.rational?]⟩

theorem Value.eq_float_of_number {x : Float} (h : times.number? = some (.float x)) : times = .float x := by
  cases times with
  | float y =>
    cases h
    rfl
  | bool _ | int _ | null | text _ | list _ | object _ => cases h

/-- Not-a-number is in no order with any number. -/
theorem Number.compare?_nan (t : Number) : compare? (.float Double.nan) t = none ∧
    compare? t (.float Double.nan) = none := by
  cases t with
  | int n => exact ⟨rfl, rfl⟩
  | float x =>
    have hnan : Double.nan.toModel.unpack = .notANumber := rfl
    rw [compare?_float, compare?_float, hnan]
    exact ⟨rfl, by cases x.toModel.unpack <;> rfl⟩

/-- What is rational is greater than minus infinity. -/
theorem Number.compare?_infinity_of_rational (hq : t.rational? = some q) :
    compare? t (.float (Double.infinity true)) = some .gt := by
  cases t with
  | int n => rfl
  | float x =>
    have hinfinite : (Double.infinity true).toModel.unpack = .infinity .negative := rfl
    rw [compare?_float, hinfinite]
    generalize x.toModel.unpack = u, StandsFor.of_rational hq = hu
    cases hu <;> rfl

/-- **More to count up to gives no fewer rounds.** -/
theorem repeatCount_mono {m n : ℕ} (ht : times.number? = some t) (hl : later.number? = some l)
    (hle : (Number.compare? t l).any (·.isLE) = true) (hm : repeatCount times = .ok m)
    (hn : repeatCount later = .ok n) : m ≤ n := by
  rcases t.rational?_cases with ⟨q, hq⟩ | rfl | ⟨s, rfl⟩
  · obtain rfl := Except.ok.inj ((repeatCount_of_rational ht hq).symm.trans hm)
    rcases l.rational?_cases with ⟨r, hr⟩ | rfl | ⟨s, rfl⟩
    · obtain rfl := Except.ok.inj ((repeatCount_of_rational hl hr).symm.trans hn)
      rw [Number.compare?_of_rational hq hr, Option.any_some, Ordering.isLE_iff_ne_gt] at hle
      exact Nat.ceil_mono (not_lt.1 fun h => hle (compare_gt_iff_gt.2 h))
    · rw [(Number.compare?_nan t).2] at hle
      cases hle
    · cases s with
      | true =>
        rw [Number.compare?_infinity_of_rational hq] at hle
        cases hle
      | false =>
        obtain rfl := Value.eq_float_of_number hl
        cases hn
  · rw [(Number.compare?_nan l).1] at hle
    cases hle
  · obtain rfl := Value.eq_float_of_number ht
    cases s with
    | true =>
      cases hm
      exact Nat.zero_le n
    | false => cases hm

/-! ## All numbers -/

/-- **The rounds of a loop.**  A loop that counts up to a finite number stops after finitely many rounds, at
    the least count that is not less than the number; there is none up to minus infinity or not-a-number, and
    no end up to infinity.  A greater number gives no fewer rounds, and the number of rounds is its own
    number of rounds. -/
theorem rounds_of_counting_loop (ht : times.number? = some t) :
    (∀ q, t.rational? = some q → ∃ n, repeatCount times = .ok n ∧ CountsTo times n ∧
      q ≤ n ∧ (n = 0 ∨ (n - 1 : ℚ) < q)) ∧
    (t = .float Double.nan ∨ t = .float (Double.infinity true) → repeatCount times = .ok 0) ∧
    (t = .float (Double.infinity false) → repeatCount times = .error .infiniteCount) ∧
    ∀ n, repeatCount times = .ok n → repeatCount (.int n) = .ok n ∧
      ∀ later l m, later.number? = some l → (Number.compare? t l).any (·.isLE) = true →
        repeatCount later = .ok m → n ≤ m := by
  refine ⟨fun q hq => ⟨⌈q⌉₊, repeatCount_of_rational ht hq, countsTo_ceil ht hq, Nat.le_ceil q, ?_⟩, ?_, ?_,
    fun n hn => ⟨?_, fun later l m hl hle hm => repeatCount_mono ht hl hle hn hm⟩⟩
  · rcases Nat.eq_zero_or_pos ⌈q⌉₊ with hzero | hpos
    · exact .inl hzero
    · right
      have hlt := Nat.ceil_lt_add_one (Nat.ceil_pos.1 hpos).le
      linarith
  · rintro (rfl | rfl) <;> obtain rfl := Value.eq_float_of_number ht <;> rfl
  · rintro rfl
    obtain rfl := Value.eq_float_of_number ht
    rfl
  · have hrational : Number.rational? (.int n) = some (n : ℚ) := by simp [Number.rational?]
    rw [repeatCount_of_rational rfl hrational, Nat.ceil_natCast]

/-- A double past two to the power of 53, and the integer after it, which is no double. -/
theorem rounds_of_counting_loop_past_doubles :
    CountsTo (.float 9007199254740994) 9007199254740994 ∧
      repeatCount (.int 9007199254740994) = .ok 9007199254740994 ∧
      ∀ m, repeatCount (.int 9007199254740995) = .ok m → 9007199254740994 ≤ m := by
  have hrounds : repeatCount (.float 9007199254740994) = .ok 9007199254740994 := by decide +kernel
  have hle : (Number.compare? (.float 9007199254740994) (.int 9007199254740995)).any (·.isLE) = true := by
    decide +kernel
  have hnumber : Value.number? (.float 9007199254740994) = some (.float 9007199254740994) := rfl
  obtain ⟨hfinite, -, -, hmore⟩ := rounds_of_counting_loop hnumber
  obtain ⟨n, hn, hcounts, -⟩ := hfinite _ rfl
  obtain rfl := Except.ok.inj (hrounds.symm.trans hn)
  obtain ⟨hself, hmono⟩ := hmore _ hn
  exact ⟨hcounts, hself, fun m hm => hmono _ _ m rfl hle hm⟩

end

end SpriteStage
