import SpriteStage.Proofs.Json.Writing
import SpriteStage.Proofs.Program.Codec
import SpriteStage.Proofs.Script.Numeral
import SpriteStage.Json.Reader

/-!
# Numbers in JSON

The text of an integer and that of a finite double are numbers of JSON that read back as what they were
written for, whatever follows that ends a value.  Unlike a script, JSON takes a zero before another
digit for a number of its own, so that it matters that no text starts with a needless zero.

## Main definitions

* `Json.EndsValue` tells what may follow a value
* `Json.IsUnpadded` tells which digits do not start with a needless zero
-/

namespace SpriteStage

open Numeral (IsDigits Parts isDigit_ne)

namespace Json

/-- What follows a value: nothing, space, or what separates or closes. -/
def EndsValue (rest : List Char) : Prop :=
  ∀ c ∈ rest.head?, isSpace c = true ∨ c = ',' ∨ c = ']' ∨ c = '\x7d'

/-- The digits do not start with a zero before another digit. -/
def IsUnpadded (ds : List Char) : Prop := ds.head? = some '0' → ds = ['0']

/-- No part of a number follows a value. -/
theorem EndsValue.head {rest : List Char} (h : EndsValue rest) {c : Char} (hc : c ∈ rest.head?) :
    c.isDigit = false ∧ c ≠ '.' ∧ c ≠ 'e' ∧ c ≠ 'E' := by
  have hcases := h c hc
  simp only [isSpace, Bool.or_eq_true, beq_iff_eq] at hcases
  rcases hcases with (((rfl | rfl) | rfl) | rfl) | rfl | rfl | rfl <;> decide

/-! ## Parts of numbers -/

/-- Digits are taken up to what is none. -/
theorem takeWhile_isDigit_append {ds rest : List Char} (hds : IsDigits ds)
    (hrest : ∀ c ∈ rest.head?, c.isDigit = false) : (ds ++ rest).takeWhile Char.isDigit = ds := by
  rw [List.takeWhile_append_of_pos hds]
  cases rest with
  | nil => simp
  | cons c rest => simp [hrest c rfl]

theorem integerDigits_append {ds rest : List Char} (hds : IsDigits ds) (hpad : IsUnpadded ds)
    (hne : ds ≠ []) (hrest : ∀ c ∈ rest.head?, c.isDigit = false) :
    integerDigits (ds ++ rest) = ds := by
  cases ds with
  | nil => exact absurd rfl hne
  | cons d ds =>
    by_cases hzero : d = '0'
    · subst hzero
      rw [hpad rfl]
      rfl
    · rw [List.cons_append, integerDigits, ← List.cons_append]
      · exact takeWhile_isDigit_append hds hrest
      · exact fun _ heq => absurd (List.cons.inj heq).1 hzero

section

variable {p : Parts} (hp : p.WellFormed) {rest : List Char}

include hp in
theorem fraction?_append (hdigit : ∀ c ∈ rest.head?, c.isDigit = false)
    (hpoint : p.fraction = none → ∀ c ∈ rest.head?, c ≠ '.') :
    fraction? (p.fractionChars ++ rest) = p.fraction.map (·, rest) := by
  rw [Parts.fractionChars]
  cases h : p.fraction with
  | none =>
    cases rest with
    | nil => rfl
    | cons c rest =>
      rw [List.nil_append, fraction?]
      · rfl
      · rintro r ⟨⟩
        exact hpoint h '.' rfl rfl
  | some ds =>
    obtain ⟨hds, hne⟩ := hp.fraction ds h
    simp only [List.cons_append, fraction?, takeWhile_isDigit_append hds hdigit]
    simp [hne]

include hp in
theorem exponent?_append (hrest : EndsValue rest) :
    exponent? (p.exponentChars ++ rest) =
      p.exponent.map fun x => (Exact.signed x.1 (Nat.ofDigitChars 10 x.2 0), rest) := by
  rw [Parts.exponentChars]
  cases h : p.exponent with
  | none =>
    cases rest with
    | nil => rfl
    | cons c rest =>
      obtain ⟨-, -, he, hE⟩ := hrest.head (c := c) rfl
      simp [exponent?, he, hE]
  | some x =>
    obtain ⟨isNegative, ds⟩ := x
    obtain ⟨hds, hne⟩ := hp.exponent _ h
    have htake := takeWhile_isDigit_append hds fun c hc => (hrest.head hc).1
    have hvalue := Numeral.valueOf_eq_ofDigitChars hds
    cases isNegative <;> simp [exponent?, Numeral.sign, htake, hne, hvalue]

/-- What follows the digits before the point is no digit. -/
theorem head_parts (hrest : EndsValue rest) :
    ∀ c ∈ (p.fractionChars ++ (p.exponentChars ++ rest)).head?, c.isDigit = false := by
  rw [Parts.fractionChars, Parts.exponentChars]
  split
  · split
    · exact fun c hc => (hrest.head hc).1
    · rintro c ⟨⟩
      decide
  · rintro c ⟨⟩
    decide

/-- What follows the digits after the point is no digit, nor is it a point. -/
theorem head_exponent (hrest : EndsValue rest) :
    ∀ c ∈ (p.exponentChars ++ rest).head?, c.isDigit = false ∧ c ≠ '.' := by
  rw [Parts.exponentChars]
  split
  · exact fun c hc => ⟨(hrest.head hc).1, (hrest.head hc).2.1⟩
  · rintro c ⟨⟩
    decide

include hp in
/-- A number starts with a digit, and not with a sign. -/
theorem head_chars : ∃ c cs, p.chars = c :: cs ∧ c.isDigit = true := by
  obtain ⟨hdigits, hne⟩ := hp.whole
  cases hwhole : p.whole with
  | nil => exact absurd hwhole hne
  | cons c cs =>
    exact ⟨c, _, by rw [Parts.chars, hwhole, List.cons_append, List.cons_append],
      hdigits c (by rw [hwhole]; exact List.mem_cons_self)⟩

/-! ## Numbers -/

/-- The characters of a number with its sign. -/
def signedChars (isNegative : Bool) (cs : List Char) : List Char :=
  if isNegative then '-' :: cs else cs

include hp in
/-- A number with its sign starts with a digit or the sign. -/
theorem head_signedChars (isNegative : Bool) :
    ∃ c cs, signedChars isNegative p.chars = c :: cs ∧ (c.isAlphanum = true ∨ c = '-') := by
  obtain ⟨c, cs, hchars, hc⟩ := head_chars hp
  cases isNegative with
  | false => exact ⟨c, cs, hchars, .inl (by simp [Char.isAlphanum, hc])⟩
  | true => exact ⟨'-', p.chars, rfl, .inr rfl⟩

include hp in
/-- The parts of a number are read one after the other. -/
theorem readNumber_signedChars (hpad : IsUnpadded p.whole) (hrest : EndsValue rest)
    (isNegative : Bool) :
    readNumber (signedChars isNegative p.chars ++ rest) =
      match p.exponent, (p.fraction.getD []).isEmpty with
      | none, true =>
        if p.whole.length > digitLimit then
          .error (.before (.digitCount p.whole.length) (signedChars isNegative p.chars ++ rest))
        else .ok (.int (Exact.signed isNegative (Nat.ofDigitChars 10 p.whole 0)), rest)
      | _, _ =>
        let x := Numeral.scaled p.mantissa p.scale
        .ok (.float (if isNegative then -x else x), rest) := by
  obtain ⟨hdigits, hne⟩ := hp.whole
  obtain ⟨c, cs, hchars, hc⟩ := head_chars hp
  have hnegative : ((signedChars isNegative p.chars ++ rest).head? == some '-') = isNegative := by
    cases isNegative with
    | false => simpa [signedChars, hchars] using isDigit_ne hc (by decide)
    | true => rfl
  have hsplit : (if isNegative = true then (signedChars isNegative p.chars ++ rest).drop 1
      else signedChars isNegative p.chars ++ rest) =
      p.whole ++ (p.fractionChars ++ (p.exponentChars ++ rest)) := by
    cases isNegative <;> simp [signedChars, Parts.chars]
  have hwhole := integerDigits_append hdigits hpad hne (head_parts (p := p) hrest)
  have hfraction : fraction? (p.fractionChars ++ (p.exponentChars ++ rest)) =
      p.fraction.map (·, p.exponentChars ++ rest) :=
    fraction?_append hp (fun c hc => (head_exponent hrest c hc).1)
      fun _ c hc => (head_exponent hrest c hc).2
  have hempty : p.whole.isEmpty = false := by simpa using hne
  -- The digits before and after the point are those of the mantissa.
  have hmantissa : Numeral.valueOf 10 (p.whole ++ p.fraction.getD []) = p.mantissa := by
    refine Numeral.valueOf_eq_ofDigitChars fun d hd => ?_
    rcases List.mem_append.1 hd with hd | hd
    · exact hdigits d hd
    · cases h : p.fraction with
      | none => simp [h] at hd
      | some ds => exact (hp.fraction ds h).1 d (by simpa [h] using hd)
  rw [readNumber]
  simp only [hnegative, hsplit, hwhole, hempty, Bool.false_eq_true, if_false, List.drop_left, hfraction,
    Numeral.valueOf_eq_ofDigitChars hdigits]
  rw [Parts.scale, Parts.writtenExponent, ← hmantissa]
  cases hfractional : p.fraction with
  | none =>
    simp only [Option.map_none, Parts.fractionChars, hfractional, List.nil_append,
      exponent?_append hp hrest, Option.getD_none]
    cases hexponent : p.exponent <;> simp [Parts.exponentChars, hexponent]
  | some ds =>
    have hds : ds.isEmpty = false := by simpa using (hp.fraction ds hfractional).2
    simp only [Option.map_some, exponent?_append hp hrest, Option.getD_some, hds]
    cases hexponent : p.exponent <;> simp [Parts.exponentChars, hexponent]

end

/-- A number that starts with a zero before its point has no needless zero. -/
theorem isUnpadded_of_chars {p : Parts} (hp : p.WellFormed)
    (h : ∀ cs, p.chars = '0' :: cs → cs.head? = some '.') : IsUnpadded p.whole := by
  intro hzero
  cases hwhole : p.whole with
  | nil => rw [hwhole] at hzero; cases hzero
  | cons c ds =>
    rw [hwhole] at hzero
    obtain rfl := Option.some.inj hzero
    cases ds with
    | nil => rfl
    | cons d ds =>
      -- The second character would be a digit and a point.
      have hd := hp.whole.1 d (by rw [hwhole]; simp)
      have hpoint := h (d :: (ds ++ p.fractionChars ++ p.exponentChars)) (by rw [Parts.chars, hwhole]; rfl)
      exact absurd (Option.some.inj hpoint) (isDigit_ne hd (by decide))

/-- A number is no name. -/
theorem readScalar_number {p : Parts} (hp : p.WellFormed) (isNegative : Bool) (rest : List Char) :
    readScalar (signedChars isNegative p.chars ++ rest) =
      readNumber (signedChars isNegative p.chars ++ rest) := by
  obtain ⟨c, cs, hchars, hc⟩ := head_chars hp
  have hne : ∀ d : Char, d.isDigit = false → (d == c) = false := fun d hd => by
    simpa using (isDigit_ne hc hd).symm
  have hnone : names.find? (fun n => n.1.isPrefixOf (signedChars isNegative p.chars ++ rest)) = none := by
    rw [hchars]
    cases isNegative <;>
      simp [names, signedChars, List.isPrefixOf, hne 'n' (by decide), hne 't' (by decide),
        hne 'f' (by decide), hne 'N' (by decide), hne 'I' (by decide), hne '-' (by decide)]
  rw [readScalar, hnone]

end Json

/-! ## Integers -/

/-- The text of an integer, if it has one, is its digits with its sign. -/
theorem Json.toList_integerText {n : Int} {s : String} (h : integerText n = .ok s) :
    s.toList = signedChars (decide (n < 0)) ({ whole := Decimal.digitsOf n.natAbs } : Parts).chars := by
  have hlimit := exists_integerText_iff.1 ⟨s, h⟩
  rw [integerText, if_neg (not_lt.2 hlimit)] at h
  cases h
  rw [String.toList_ofList, signedChars]
  simp [Parts.chars, Parts.fractionChars, Parts.exponentChars]

/-- The text of an integer, if it has one, is a number that reads back. -/
theorem Json.readScalar_integerText {n : Int} {s : String} (h : integerText n = .ok s)
    {rest : List Char} (hrest : EndsValue rest) :
    readScalar (s.toList ++ rest) = .ok (.int n, rest) := by
  have hp := Script.wellFormed_digitsOf n.natAbs
  have hpad : IsUnpadded (Decimal.digitsOf n.natAbs) := fun hhead => by
    rw [Script.head_digitsOf hhead]
    rfl
  have hlimit := exists_integerText_iff.1 ⟨s, h⟩
  have hvalue : Exact.signed (decide (n < 0)) n.natAbs = n := by
    rw [Exact.signed]
    by_cases hneg : n < 0
    · rw [if_pos (by simpa using hneg)]
      omega
    · rw [if_neg (by simpa using hneg)]
      omega
  have hread := readNumber_signedChars hp hpad hrest (decide (n < 0))
  rw [Json.toList_integerText h, readScalar_number hp, hread]
  simp [not_lt.2 hlimit, Numeral.ofDigitChars_digitsOf, hvalue]

/-! ## Doubles -/

namespace FloatFormat

/-- No text of a positive decimal starts with a needless zero. -/
theorem head_renderDecimal {f : FloatFormat} (hf : f.keepsPoint = true) {d : Decimal}
    (hd : 0 < d.digits) {cs : List Char} (h : f.renderDecimal d = '0' :: cs) :
    cs.head? = some '.' := by
  obtain ⟨ds, hds⟩ : ∃ ds, ds = Decimal.digitsOf d.digits := ⟨_, rfl⟩
  -- The first digit is no zero.
  have hfirst : ds.head? ≠ some '0' := fun hhead => by
    have hzero := Script.head_digitsOf (hds ▸ hhead)
    omega
  cases hcons : ds with
  | nil => exact absurd (hds.symm.trans hcons) Nat.toDigits_ne_nil
  | cons c rest =>
    have hc : c ≠ '0' := fun heq => hfirst (by rw [hcons, heq]; rfl)
    rw [renderDecimal, ← hds, hcons] at h
    simp only [hf] at h
    split at h
    · rw [positional] at h
      split at h
      · cases h
        rfl
      · rename_i hpoint
        split at h
        · exact absurd (List.cons.inj h).1 hc
        · obtain ⟨k, hk⟩ : ∃ k, (((c :: rest).length : ℤ) + d.exponent - 1 + 1).toNat = k + 1 :=
            Nat.exists_eq_succ_of_ne_zero (by omega)
          rw [hk, List.take_succ_cons, List.cons_append] at h
          exact absurd (List.cons.inj h).1 hc
    · cases rest with
      | nil => exact absurd (List.cons.inj h).1 hc
      | cons c' rest => exact absurd (List.cons.inj h).1 hc

end FloatFormat

/-- The shortest decimal of a positive double is positive. -/
theorem Decimal.digits_shortest_pos {m : ℕ} {e : ℤ} (hc : Canonical m e) :
    0 < (shortest m e).digits := by
  have hlower := (roundsTo_shortest hc).ten_pow_lt hc
  rcases Nat.eq_zero_or_pos (shortest m e).digits with hzero | hpos
  · rw [value, hzero, Nat.cast_zero, zero_mul] at hlower
    exact absurd hlower (not_lt.2 (by positivity))
  · exact hpos

namespace Double

theorem canonical_of_ofFloat {x : Float} {isNegative : Bool} {m : ℕ} {e : ℤ}
    (h : Exact.ofFloat x = .finite isNegative m e) (hm : m ≠ 0) : Canonical m e := by
  rw [Exact.ofFloat] at h
  split at h
  · cases h
  · cases h
  · cases h
    exact absurd rfl hm
  · rename_i hunpack
    cases h
    exact Canonical.of_unpack hunpack

theorem isFinite_of_ofFloat {x : Float} {isNegative : Bool} {m : ℕ} {e : ℤ}
    (h : Exact.ofFloat x = .finite isNegative m e) : x.isFinite = true := by
  by_contra hx
  rw [Bool.not_eq_true] at hx
  rcases eq_of_not_isFinite hx with rfl | ⟨n, rfl⟩
  · cases h
  · cases n <;> cases h

/-- The text of a finite double is a number without a needless zero. -/
theorem exists_signedChars {x : Float} (hx : x.isFinite = true) :
    ∃ (p : Parts) (isNegative : Bool), p.WellFormed ∧ p.IsDouble ∧ Json.IsUnpadded p.whole ∧
      (Double.text x).toList = Json.signedChars isNegative p.chars ∧
      (if isNegative then -Numeral.scaled p.mantissa p.scale else Numeral.scaled p.mantissa p.scale) =
        x := by
  cases hexact : Exact.ofFloat x with
  | nan =>
    rw [eq_nan_of_ofFloat hexact] at hx
    cases hx
  | infinite n =>
    rw [eq_infinity_of_ofFloat hexact] at hx
    cases n <;> cases hx
  | finite n m e =>
    obtain ⟨p, hp, hdouble, htext, y, hread, hy⟩ := exists_numeral hexact
    rw [Numeral.unsigned?_chars hp] at hread
    obtain rfl := Option.some.inj hread
    refine ⟨p, n, hp, hdouble, Json.isUnpadded_of_chars hp fun cs hcs => ?_, htext, hy⟩
    have hmagnitude : p.chars = if m = 0 then ['0', '.', '0']
        else format.renderDecimal (Decimal.shortest m e) := by
      rw [Double.text, FloatFormat.render, hexact, String.toList_ofList] at htext
      cases n
      · exact htext.symm
      · exact (List.cons.inj htext).2.symm
    rw [hcs] at hmagnitude
    split at hmagnitude
    · cases hmagnitude
      rfl
    · rename_i hm
      exact FloatFormat.head_renderDecimal rfl
        (Decimal.digits_shortest_pos (canonical_of_ofFloat hexact hm)) hmagnitude.symm

end Double

/-- **The text of a finite double is a number that reads back.** -/
theorem Json.readScalar_text {x : Float} (hx : x.isFinite = true) {rest : List Char}
    (hrest : EndsValue rest) :
    readScalar ((Double.text x).toList ++ rest) = .ok (.float x, rest) := by
  obtain ⟨p, isNegative, hp, hdouble, hpad, htext, hvalue⟩ := Double.exists_signedChars hx
  have hread := readNumber_signedChars hp hpad hrest isNegative
  rw [htext, readScalar_number hp, hread, ← hvalue]
  -- A double has a point or an exponent.
  rcases hdouble with hfraction | hexponent
  · obtain ⟨ds, hds⟩ := Option.ne_none_iff_exists'.1 hfraction
    have hne : ds.isEmpty = false := by simpa using (hp.fraction ds hds).2
    simp only [hds, Option.getD_some, hne]
    cases p.exponent <;> rfl
  · obtain ⟨y, hy⟩ := Option.ne_none_iff_exists'.1 hexponent
    simp only [hy]

end SpriteStage
