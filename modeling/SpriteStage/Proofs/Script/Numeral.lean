import SpriteStage.Proofs.Number.Notation
import SpriteStage.Script.Literal

/-!
# Numerals of scripts

A numeral of digits that stands before a closing parenthesis is cut out of a script as a whole, and it
stands for what its parts say.

## Main definitions

* `Numeral.Parts.Unpadded` tells which numerals do not start with a needless zero
-/

namespace SpriteStage

namespace Numeral

/-- The numeral is a double, or it does not start with a zero before another digit. -/
def Parts.Unpadded (p : Parts) : Prop :=
  p.IsDouble ∨ (p.whole.head? = some '0' → p.whole = ['0'])

end Numeral

open Numeral (IsDigits Parts isDigit_ne)

namespace Script

namespace Numeral

/-! ## Lengths -/

/-- All digits that come first are read. -/
theorem digits_append {ds rest : List Char} (hds : IsDigits ds)
    (hrest : ∀ c ∈ rest.head?, c.isDigit = false ∧ c ≠ '_') (n : ℕ) :
    digits .decimal n (ds ++ rest) = .ok (n + ds.length, rest) := by
  induction ds generalizing n with
  | nil =>
    cases rest with
    | nil => rfl
    | cons c rest =>
      obtain ⟨hdigit, hne⟩ := hrest c rfl
      rw [List.nil_append, digits]
      · simp [isDigitOf, hdigit]
      · intro d r heq
        exact absurd heq hne
  | cons d ds ih =>
    have hd := hds d List.mem_cons_self
    rw [List.cons_append, digits]
    · rw [if_pos (by simpa [isDigitOf] using hd), ih fun c hc => hds c (List.mem_cons_of_mem d hc),
        List.length_cons, Nat.add_assoc, Nat.add_comm 1]
    · intro c r heq
      exact absurd heq (isDigit_ne hd (by decide))

theorem finish_closing (radix : Radix) (n : ℕ) (rest : List Char) :
    finish radix n (')' :: rest) = .ok n := by
  rw [finish, mayEnd]
  · rfl
  · intro c r heq
    cases heq

section

variable {p : Parts} (hp : p.WellFormed) (rest : List Char)

include hp in
theorem exponent_exponentChars (n : ℕ) :
    exponent n (p.exponentChars ++ ')' :: rest) = .ok (n + p.exponentChars.length) := by
  have hclosing : ∀ m, mark m (')' :: rest) = .ok m := fun m => finish_closing .decimal m rest
  rw [Parts.exponentChars]
  cases h : p.exponent with
  | none => exact hclosing n
  | some x =>
    obtain ⟨isNegative, ds⟩ := x
    obtain ⟨hds, hne⟩ := hp.exponent _ h
    have hend : ∀ c ∈ (')' :: rest).head?, c.isDigit = false ∧ c ≠ '_' := by
      rintro c ⟨⟩
      decide
    have hread := digits_append hds hend (n + 2)
    have hhead : (ds ++ ')' :: rest).head?.any Char.isDigit = true := by
      cases ds with
      | nil => exact absurd rfl hne
      | cons d ds => simpa using hds d List.mem_cons_self
    have hsign : ∀ s : Char, (s == '+' || s == '-') = true →
        exponent n ('e' :: s :: (ds ++ ')' :: rest)) = .ok (n + 2 + ds.length) := by
      intro s hs
      rw [exponent, if_pos (by decide)]
      simp only [hs, hhead, if_true, hread]
      exact hclosing _
    cases isNegative
    · exact (hsign '+' rfl).trans (by simp; omega)
    · exact (hsign '-' rfl).trans (by simp; omega)

/-- The first character of an exponent and of what follows it is no digit. -/
theorem head_exponentChars :
    ∀ c ∈ (p.exponentChars ++ ')' :: rest).head?, c.isDigit = false ∧ c ≠ '_' := by
  rw [Parts.exponentChars]
  split
  · rintro c ⟨⟩
    decide
  · rintro c ⟨⟩
    decide

/-- Digits alone are read by the rule of decimal numerals, unless they start with a needless zero. -/
theorem decimal_digits {ds : List Char} (hds : IsDigits ds ∧ ds ≠ [])
    (hzero : ds.head? = some '0' → ds = ['0']) (rest : List Char) :
    decimal (ds ++ ')' :: rest) = .ok ds.length := by
  have hend : ∀ c ∈ (')' :: rest).head?, c.isDigit = false ∧ c ≠ '_' := by
    rintro c ⟨⟩
    decide
  have hunpadded : (ds.head? == some '0' && ds.any (fun c => c != '0' && c != '_')) = false := by
    by_cases h : ds.head? = some '0'
    · rw [hzero h]
      decide
    · simp [h]
  have hfirst : (ds ++ ')' :: rest).head? = ds.head? := by
    cases hcs : ds with
    | nil => exact absurd hcs hds.2
    | cons c cs => rfl
  rw [decimal, digits_append hds.1 hend 0]
  simp only [bind, Except.bind, Nat.zero_add, List.take_left' rfl, hfirst, hunpadded]
  simp [finish_closing]

include hp in
/-- A numeral is read by the rule of decimal numerals as a whole. -/
theorem decimal_chars (hpad : p.Unpadded) :
    decimal (p.chars ++ ')' :: rest) = .ok p.chars.length := by
  by_cases hplain : p.fraction = none ∧ p.exponent = none
  · have hchars : p.chars = p.whole := by
      simp [Parts.chars, Parts.fractionChars, Parts.exponentChars, hplain]
    have hzero : p.whole.head? = some '0' → p.whole = ['0'] := by
      rcases hpad with (h | h) | h
      · exact absurd hplain.1 h
      · exact absurd hplain.2 h
      · exact h
    rw [hchars]
    exact decimal_digits hp.whole hzero rest
  have hexponent := exponent_exponentChars hp rest
  have htail : ∀ c ∈ (p.fractionChars ++ (p.exponentChars ++ ')' :: rest)).head?,
      c.isDigit = false ∧ c ≠ '_' := by
    rw [Parts.fractionChars]
    split
    · exact head_exponentChars rest
    · rintro c ⟨⟩
      decide
  rw [Parts.chars, List.append_assoc, List.append_assoc, decimal, digits_append hp.whole.1 htail 0]
  simp only [bind, Except.bind, Nat.zero_add, List.length_append]
  -- The character after the first digits decides how the numeral goes on.
  cases hfraction : p.fraction with
  | some ds =>
    obtain ⟨hds, hne⟩ := hp.fraction ds hfraction
    have hchars : p.fractionChars = '.' :: ds := by rw [Parts.fractionChars, hfraction]
    have hhead : (ds ++ (p.exponentChars ++ ')' :: rest)).head?.any Char.isDigit = true := by
      cases ds with
      | nil => exact absurd rfl hne
      | cons d ds => simpa using hds d List.mem_cons_self
    simp only [hchars, List.cons_append, fraction, hhead, if_true,
      digits_append hds (head_exponentChars rest), bind, Except.bind, hexponent]
    simp only [List.length_cons]
    congr 1
    omega
  | none =>
    obtain ⟨x, hexp⟩ := Option.ne_none_iff_exists'.1 fun h => hplain ⟨hfraction, h⟩
    have hchars : p.fractionChars = [] := by rw [Parts.fractionChars, hfraction]
    have hchars' : p.exponentChars = 'e' :: (if x.1 then '-' else '+') :: x.2 := by
      rw [Parts.exponentChars, hexp]
    rw [hchars'] at hexponent ⊢
    simp only [hchars, List.nil_append, List.cons_append] at hexponent ⊢
    simp [hexponent]

include hp in
/-- A numeral starts with a digit, and a second character is a digit, the point or the mark of an
    exponent. -/
theorem exists_chars_cons :
    ∃ c cs, p.chars = c :: cs ∧ c.isDigit = true ∧
      ∀ d ∈ cs.head?, d.isDigit = true ∨ d = '.' ∨ d = 'e' := by
  obtain ⟨c, cs, hwhole⟩ := List.exists_cons_of_ne_nil hp.whole.2
  have hc : c.isDigit = true := hp.whole.1 c (by simp [hwhole])
  refine ⟨c, cs ++ p.fractionChars ++ p.exponentChars, by simp [Parts.chars, hwhole], hc, ?_⟩
  intro d hd
  cases hcs : cs with
  | cons b bs =>
    rw [hcs] at hd
    cases hd
    exact .inl (hp.whole.1 d (by simp [hwhole, hcs]))
  | nil =>
    rw [hcs, List.nil_append, Parts.fractionChars, Parts.exponentChars] at hd
    cases hfraction : p.fraction with
    | some ds =>
      rw [hfraction] at hd
      cases hd
      exact .inr (.inl rfl)
    | none =>
      cases hexp : p.exponent with
      | some x =>
        rw [hfraction, hexp] at hd
        cases hd
        exact .inr (.inr rfl)
      | none =>
        rw [hfraction, hexp] at hd
        cases hd

/-- What may come second in a numeral, or after it, is no mark of a base. -/
theorem not_radix {d : Char} (hd : (d.isDigit = true ∨ d = '.' ∨ d = 'e') ∨ d = ')') :
    (d == 'x' || d == 'X') = false ∧ (d == 'o' || d == 'O') = false ∧
      (d == 'b' || d == 'B') = false := by
  rcases hd with (hd | rfl | rfl) | rfl
  · have hne : ∀ x : Char, x.isDigit = false → d ≠ x := fun x hx => isDigit_ne hd hx
    simp [hne 'x' (by decide), hne 'X' (by decide), hne 'o' (by decide), hne 'O' (by decide),
      hne 'b' (by decide), hne 'B' (by decide)]
  · decide
  · decide
  · decide

include hp in
/-- **A well-formed numeral before a closing parenthesis is cut out as a whole.** -/
theorem length_chars (hpad : p.Unpadded) :
    length (p.chars ++ ')' :: rest) = .ok p.chars.length := by
  have hdecimal := decimal_chars hp rest hpad
  obtain ⟨c, cs, hchars, hc, hsecond⟩ := exists_chars_cons hp
  obtain ⟨d, r, htail, hd⟩ : ∃ d r, cs ++ ')' :: rest = d :: r ∧
      ((d.isDigit = true ∨ d = '.' ∨ d = 'e') ∨ d = ')') := by
    cases cs with
    | nil => exact ⟨')', rest, rfl, .inr rfl⟩
    | cons d r => exact ⟨d, _, rfl, .inl (hsecond d rfl)⟩
  have hcons : p.chars ++ ')' :: rest = c :: d :: r := by rw [hchars, ← htail]; rfl
  obtain ⟨hx, ho, hb⟩ := not_radix hd
  rw [hcons] at hdecimal ⊢
  -- A mark of a base would stand second.
  unfold length
  split
  · rename_i heq
    simp only [List.cons.injEq] at heq
    exact absurd heq.1 (isDigit_ne hc (by decide))
  · rename_i heq
    simp only [List.cons.injEq] at heq
    obtain ⟨rfl, rfl, rfl⟩ := heq
    simpa [hx, ho, hb] using hdecimal
  · exact hdecimal

end

end Numeral

/-! ## Values -/

section

variable {p : Parts} (hp : p.WellFormed)

include hp

/-- A character of a numeral is a digit, or it belongs to the point or the exponent. -/
theorem mem_chars {c : Char} (hc : c ∈ p.chars) :
    c.isDigit = true ∨ c = '.' ∨ c = 'e' ∨ c = '-' ∨ c = '+' := by
  rw [Parts.chars, List.append_assoc, List.mem_append, List.mem_append] at hc
  rcases hc with hc | hc | hc
  · exact .inl (hp.whole.1 c hc)
  · rw [Parts.fractionChars] at hc
    split at hc
    · cases hc
    · rename_i ds hds
      rcases List.mem_cons.1 hc with rfl | hc
      · exact .inr (.inl rfl)
      · exact .inl ((hp.fraction ds hds).1 c hc)
  · rw [Parts.exponentChars] at hc
    split at hc
    · cases hc
    · rename_i isNegative ds hds
      rcases List.mem_cons.1 hc with rfl | hc
      · exact .inr (.inr (.inl rfl))
      · rcases List.mem_cons.1 hc with rfl | hc
        · cases isNegative <;> simp
        · exact .inl ((hp.exponent _ hds).1 c hc)

theorem filter_chars : p.chars.filter (· != '_') = p.chars :=
  List.filter_eq_self.2 fun c hc => by
    rcases mem_chars hp hc with h | rfl | rfl | rfl | rfl
    · simpa using isDigit_ne h (by decide)
    all_goals decide

/-- A numeral without a mark of a base is decimal. -/
theorem radixOf_chars : radixOf p.chars = (10, p.chars) := by
  obtain ⟨c, cs, hchars, hc, hsecond⟩ := Numeral.exists_chars_cons hp
  rw [hchars]
  cases cs with
  | nil =>
    unfold radixOf
    split
    · rename_i heq
      cases heq
    · rfl
  | cons d r =>
    obtain ⟨hx, ho, hb⟩ := Numeral.not_radix (.inl (hsecond d rfl))
    unfold radixOf
    split
    · rename_i heq
      simp only [List.cons.injEq] at heq
      obtain ⟨rfl, rfl, rfl⟩ := heq
      rw [hx, ho, hb]
      rfl
    · rfl

/-- The last character of a numeral is a digit. -/
theorem isDigit_getLast_chars {c : Char} {cs : List Char} (h : p.chars.reverse = c :: cs) :
    c.isDigit = true := by
  have hlast : ∀ ds, IsDigits ds ∧ ds ≠ [] → ds <:+ p.chars → c.isDigit = true := by
    rintro ds ⟨hds, hne⟩ ⟨front, hfront⟩
    obtain ⟨d, es, hrev⟩ := List.exists_cons_of_ne_nil (List.reverse_ne_nil_iff.2 hne)
    rw [← hfront, List.reverse_append, hrev, List.cons_append] at h
    have hmem : c ∈ ds.reverse := by
      rw [hrev, (List.cons.inj h).1]
      exact List.mem_cons_self
    exact hds c (List.mem_reverse.1 hmem)
  -- The exponent, the fraction or the whole part ends the numeral, and none of them is empty.
  cases hexp : p.exponent with
  | some x =>
    refine hlast x.2 (hp.exponent x hexp) ⟨p.whole ++ p.fractionChars ++
      ['e', if x.1 then '-' else '+'], ?_⟩
    simp [Parts.chars, Parts.exponentChars, hexp]
  | none =>
    cases hfraction : p.fraction with
    | some ds =>
      refine hlast ds (hp.fraction ds hfraction) ⟨p.whole ++ ['.'], ?_⟩
      simp [Parts.chars, Parts.exponentChars, Parts.fractionChars, hexp, hfraction]
    | none =>
      refine hlast p.whole hp.whole ⟨[], ?_⟩
      simp [Parts.chars, Parts.exponentChars, Parts.fractionChars, hexp, hfraction]

/-- **The numeral of a double stands for what it is read as.** -/
theorem ofNumeral_double (hdouble : p.IsDouble) {x : Float}
    (hx : SpriteStage.Numeral.unsigned? p.chars = some x) :
    Literal.ofNumeral p.chars = .ok (.value (.float x)) := by
  have hmark : p.chars.all Char.isDigit = false := by
    rw [List.all_eq_false]
    rcases hdouble with h | h
    · obtain ⟨ds, hds⟩ := Option.ne_none_iff_exists'.1 h
      exact ⟨'.', by simp [Parts.chars, Parts.fractionChars, hds], by decide⟩
    · obtain ⟨y, hy⟩ := Option.ne_none_iff_exists'.1 h
      exact ⟨'e', by simp [Parts.chars, Parts.exponentChars, hy], by decide⟩
  have hlast : ∀ c cs, p.chars.reverse = c :: cs → c.isDigit = true := fun _ _ =>
    isDigit_getLast_chars hp
  rw [Literal.ofNumeral, filter_chars hp, radixOf_chars hp]
  simp only [hmark, hx, Option.getD_some, bne_self_eq_false, Bool.false_eq_true, if_false]
  -- A numeral that ends in the unit of imaginary numbers is no double.
  split
  · rename_i heq
    exact absurd (hlast _ _ heq) (by decide)
  · rename_i heq
    exact absurd (hlast _ _ heq) (by decide)
  · rfl

end

theorem wellFormed_digitsOf (n : ℕ) : ({ whole := Decimal.digitsOf n } : Parts).WellFormed where
  whole := ⟨SpriteStage.Numeral.isDigits_digitsOf n, Nat.toDigits_ne_nil⟩
  fraction := by rintro ds ⟨⟩
  exponent := by rintro x ⟨⟩

/-- Only zero starts with a zero. -/
theorem head_digitsOf {n : ℕ} (h : (Decimal.digitsOf n).head? = some '0') : n = 0 := by
  -- By induction on the number without its last digit, which has the same first digit.
  induction n using Nat.strong_induction_on with
  | h n ih =>
    rw [Decimal.digitsOf] at h
    by_cases hsmall : n < 10
    · have hall : ∀ n < 10, (some n.digitChar) = some '0' → n = 0 := by decide
      rw [Nat.toDigits_of_lt_base hsmall] at h
      exact hall n hsmall h
    · have hlarge : 10 ≤ n := not_lt.1 hsmall
      rw [Nat.toDigits_of_base_le (by decide) hlarge, List.head?_append_of_ne_nil _
        Nat.toDigits_ne_nil] at h
      have hzero := ih (n / 10) (by omega) h
      omega

theorem unpadded_digitsOf (n : ℕ) : ({ whole := Decimal.digitsOf n } : Parts).Unpadded := by
  refine .inr fun h => ?_
  rw [head_digitsOf h]
  rfl

/-- **The digits of a natural stand for it** if they are not too many. -/
theorem ofNumeral_digitsOf {n : ℕ} (hn : (Decimal.digitsOf n).length ≤ digitLimit) :
    Literal.ofNumeral (Decimal.digitsOf n) = .ok (.value (.int n)) := by
  have hp := wellFormed_digitsOf n
  have hchars : ({ whole := Decimal.digitsOf n } : Parts).chars = Decimal.digitsOf n := by
    simp [Parts.chars, Parts.fractionChars, Parts.exponentChars]
  have hfilter := filter_chars hp
  have hradix := radixOf_chars hp
  rw [hchars] at hfilter hradix
  have hdigits := SpriteStage.Numeral.isDigits_digitsOf n
  have hlimit : ¬ (Decimal.digitsOf n).length > digitLimit := not_lt.2 hn
  rw [Literal.ofNumeral, hfilter, hradix]
  simp [List.all_eq_true.2 hdigits, hlimit, SpriteStage.Numeral.valueOf_eq_ofDigitChars hdigits,
    SpriteStage.Numeral.ofDigitChars_digitsOf]

end Script

end SpriteStage
