import SpriteStage.Proofs.Number.Scientific
import SpriteStage.Script.Literal

/-!
# Numerals of digits

A numeral that is written without underscores is made of digits, a point, and an exponent with a
sign.  This module says what such a numeral stands for and how the lexer cuts it out of a text.

## Main definitions

* `Numeral.Parts` are the parts of an unsigned numeral
* `Numeral.Parts.WellFormed` tells which parts make a numeral
-/

namespace SpriteStage

namespace Numeral

/-- Whether all characters are digits. -/
def IsDigits (cs : List Char) : Prop := ∀ c ∈ cs, c.isDigit = true

/-! ## Values of digits -/

theorem digitValue?_of_isDigit {c : Char} (hc : c.isDigit = true) :
    digitValue? 10 c = some (c.toNat - '0'.toNat) := by
  simp only [Char.isDigit, ge_iff_le, Bool.and_eq_true, decide_eq_true_eq] at hc
  have hle : '0' ≤ c ∧ c ≤ '9' := hc
  have hlt : c.toNat - '0'.toNat < 10 := by
    have hnat : c.toNat ≤ 57 := UInt32.le_iff_toNat_le.1 hc.2
    show c.toNat - 48 < 10
    omega
  rw [digitValue?, if_pos hle]
  simp only [Option.filter_some, hlt, decide_true, if_true]

theorem not_isDigit_underscore : '_'.isDigit = false := by decide

/-- Digits stand for a natural as they do in the library. -/
theorem valueOf_eq_ofDigitChars {cs : List Char} (hcs : IsDigits cs) :
    valueOf 10 cs = Nat.ofDigitChars 10 cs 0 := by
  rw [valueOf, Nat.ofDigitChars_eq_foldl]
  refine List.foldl_ext _ _ _ fun n c hc => ?_
  rw [digitValue?_of_isDigit (hcs c hc)]
  show n * 10 + _ = 10 * n + _
  rw [Nat.mul_comm]

theorem isGroupedGo_of_isDigits {cs : List Char} (hcs : IsDigits cs) : isGrouped.go 10 cs = true := by
  induction cs with
  | nil => rfl
  | cons c rest ih =>
    have hc := hcs c List.mem_cons_self
    -- The only other way to go on is an underscore before a digit.
    have hne : c ≠ '_' := by
      rintro rfl
      exact absurd hc (by decide)
    rw [isGrouped.go]
    · rw [ih fun d hd => hcs d (List.mem_cons_of_mem c hd), isDigit, digitValue?_of_isDigit hc]
      rfl
    · intro d rest' heq
      exact absurd heq hne

/-- Digits without underscores are grouped. -/
theorem isGrouped_of_isDigits {cs : List Char} (hcs : IsDigits cs) (hne : cs ≠ []) :
    isGrouped 10 cs = true := by
  cases cs with
  | nil => exact absurd rfl hne
  | cons c rest =>
    rw [isGrouped, isDigit, digitValue?_of_isDigit (hcs c List.mem_cons_self),
      isGroupedGo_of_isDigits fun d hd => hcs d (List.mem_cons_of_mem c hd)]
    rfl

theorem isDigits_digitsOf (n : ℕ) : IsDigits (Decimal.digitsOf n) := fun _ hc =>
  Nat.isDigit_of_mem_toDigits (by decide) (by decide) hc

theorem ofDigitChars_digitsOf (n : ℕ) : Nat.ofDigitChars 10 (Decimal.digitsOf n) 0 = n :=
  Nat.ofDigitChars_toDigits (by decide) (by decide)

/-! ## Parts -/

/-- The parts of an unsigned numeral: the digits before the point, those after it, and the exponent
    with its sign, which is set if the exponent is negative. -/
structure Parts where
  whole : List Char
  fraction : Option (List Char) := none
  exponent : Option (Bool × List Char) := none

namespace Parts

def fractionChars (p : Parts) : List Char :=
  match p.fraction with
  | none => []
  | some ds => '.' :: ds

def exponentChars (p : Parts) : List Char :=
  match p.exponent with
  | none => []
  | some (isNegative, ds) => 'e' :: (if isNegative then '-' else '+') :: ds

/-- A numeral as it is written. -/
def chars (p : Parts) : List Char := p.whole ++ p.fractionChars ++ p.exponentChars

/-- The parts are digits, and none of those that are there is empty. -/
structure WellFormed (p : Parts) : Prop where
  whole : IsDigits p.whole ∧ p.whole ≠ []
  fraction : ∀ ds ∈ p.fraction, IsDigits ds ∧ ds ≠ []
  exponent : ∀ x ∈ p.exponent, IsDigits x.2 ∧ x.2 ≠ []

/-- The digits before and after the point as a natural. -/
def mantissa (p : Parts) : ℕ := Nat.ofDigitChars 10 (p.whole ++ p.fraction.getD []) 0

/-- The exponent that is written. -/
def writtenExponent (p : Parts) : ℤ :=
  match p.exponent with
  | none => 0
  | some (isNegative, ds) => Exact.signed isNegative (Nat.ofDigitChars 10 ds 0)

/-- The exponent that goes with the mantissa. -/
def scale (p : Parts) : ℤ := p.writtenExponent - (p.fraction.getD []).length

end Parts

/-! ## Reading -/

theorem cut_eq_none {p : Char → Bool} {cs : List Char} (hcs : ∀ c ∈ cs, p c = false) :
    cut p cs = (cs, none) := by
  have hall : ∀ c ∈ cs, (!p c) = true := fun c hc => by simp [hcs c hc]
  have hdrop := @List.dropWhile_append_of_pos _ (!p ·) cs [] hall
  rw [List.append_nil, List.dropWhile_nil] at hdrop
  rw [cut, hdrop]

theorem cut_append_cons {p : Char → Bool} {cs rest : List Char} {d : Char}
    (hcs : ∀ c ∈ cs, p c = false) (hd : p d = true) :
    cut p (cs ++ d :: rest) = (cs, some rest) := by
  have hall : ∀ c ∈ cs, (!p c) = true := fun c hc => by simp [hcs c hc]
  rw [cut, List.dropWhile_append_of_pos hall, List.takeWhile_append_of_pos hall]
  simp [hd]

theorem isDigit_ne {c d : Char} (hc : c.isDigit = true) (hd : d.isDigit = false) : c ≠ d := by
  rintro rfl
  exact absurd (hc.symm.trans hd) (by decide)

section

variable {p : Parts}

/-- An exponent is read as an integer. -/
theorem integer?_exponent {isNegative : Bool} {ds : List Char} (hds : IsDigits ds ∧ ds ≠ []) :
    integer? ((if isNegative then '-' else '+') :: ds) =
      some (Exact.signed isNegative (Nat.ofDigitChars 10 ds 0)) := by
  have hgrouped := isGrouped_of_isDigits hds.1 hds.2
  cases isNegative <;>
    simp [integer?, sign, natural?, hgrouped, valueOf_eq_ofDigitChars hds.1]

/-- A numeral is cut before its exponent. -/
theorem cut_exponent (hp : p.WellFormed) :
    cut (fun c => decide (c = 'e' ∨ c = 'E')) p.chars =
      (p.whole ++ p.fractionChars,
        p.exponent.map fun x => (if x.1 then '-' else '+') :: x.2) := by
  -- Only digits and the point stand before the exponent.
  have hmantissa : ∀ c ∈ p.whole ++ p.fractionChars, decide (c = 'e' ∨ c = 'E') = false := by
    intro c hc
    have hnot : c = '.' ∨ c.isDigit = true := by
      rcases List.mem_append.1 hc with hc | hc
      · exact .inr (hp.whole.1 c hc)
      · rw [Parts.fractionChars] at hc
        split at hc
        · cases hc
        · rename_i ds hds
          rcases List.mem_cons.1 hc with rfl | hc
          · exact .inl rfl
          · exact .inr ((hp.fraction ds hds).1 c hc)
    rcases hnot with rfl | hdigit
    · decide
    · simp [isDigit_ne hdigit (by decide : 'e'.isDigit = false),
        isDigit_ne hdigit (by decide : 'E'.isDigit = false)]
  rw [Parts.chars, Parts.exponentChars]
  cases p.exponent with
  | none => rw [List.append_nil, cut_eq_none hmantissa]; rfl
  | some x => rw [cut_append_cons hmantissa (by decide)]; rfl

/-- A numeral is cut at its point. -/
theorem cut_point (hp : p.WellFormed) :
    cut (fun c => decide (c = '.')) (p.whole ++ p.fractionChars) = (p.whole, p.fraction) := by
  have hwhole : ∀ c ∈ p.whole, decide (c = '.') = false := fun c hc => by
    simp [isDigit_ne (hp.whole.1 c hc) (by decide : '.'.isDigit = false)]
  rw [Parts.fractionChars]
  cases p.fraction with
  | none => rw [List.append_nil, cut_eq_none hwhole]
  | some ds => rw [cut_append_cons hwhole (by decide)]

/-- **A well-formed numeral is read as its mantissa at its scale.** -/
theorem unsigned?_chars (hp : p.WellFormed) : unsigned? p.chars = some (scaled p.mantissa p.scale) := by
  have hfraction : IsDigits (p.fraction.getD []) := by
    cases h : p.fraction with
    | none => exact fun c hc => absurd hc (List.not_mem_nil)
    | some ds => exact (hp.fraction ds h).1
  have hall : IsDigits (p.whole ++ p.fraction.getD []) := fun c hc =>
    (List.mem_append.1 hc).elim (hp.whole.1 c) (hfraction c)
  -- Without underscores every digit after the point is a place.
  have hplaces : (p.fraction.getD []).filter (· ≠ '_') = p.fraction.getD [] :=
    List.filter_eq_self.2 fun c hc => by
      simpa using isDigit_ne (hfraction c hc) not_isDigit_underscore
  have hgrouped : (p.fraction.getD []).isEmpty = true ∨ isGrouped 10 (p.fraction.getD []) = true := by
    by_cases hempty : p.fraction.getD [] = []
    · exact .inl (by simp [hempty])
    · exact .inr (isGrouped_of_isDigits hfraction hempty)
  have hwhole := isGrouped_of_isDigits hp.whole.1 hp.whole.2
  have hne : p.whole.isEmpty = false := by simpa using hp.whole.2
  -- The exponent decides only about the scale of what is read from the other digits.
  have hread : ∀ e : ℤ, (do
      guard (!(p.whole.isEmpty && (p.fraction.getD []).isEmpty))
      guard (p.whole.isEmpty || isGrouped 10 p.whole)
      guard ((p.fraction.getD []).isEmpty || isGrouped 10 (p.fraction.getD []))
      let places := ((p.fraction.getD []).filter (· ≠ '_')).length
      some (scaled (valueOf 10 (p.whole ++ p.fraction.getD [])) (e - places))) =
      some (scaled p.mantissa (e - (p.fraction.getD []).length)) := by
    intro e
    simp only [hplaces, hne, hwhole, valueOf_eq_ofDigitChars hall]
    rcases hgrouped with h | h <;> rw [h] <;> simp [Parts.mantissa]
  rw [unsigned?, cut_exponent hp, Parts.scale, Parts.writtenExponent]
  simp only [cut_point hp]
  cases h : p.exponent with
  | none => exact hread 0
  | some x =>
    simp only [Option.map_some]
    rw [integer?_exponent (hp.exponent x h)]
    exact hread _

end

end Numeral

end SpriteStage
