import SpriteStage.Script.Token.Lexeme
import SpriteStage.Proofs.Number.Numeral

/-!
# Words of scripts

An identifier that nothing of a word follows is cut out of a script as a whole, and it is not taken
for the letters before a text.

## Main definitions

* `Script.EndsWord` tells before which characters a word ends
-/

namespace SpriteStage

/-! ## Code points -/

theorem isDigit_iff {c : Char} : c.isDigit = true ↔ 48 ≤ c.toNat ∧ c.toNat ≤ 57 := by
  simp [Char.isDigit, UInt32.le_iff_toNat_le, ← Char.toNat_val]

namespace Text

/-- The code points that may start an identifier in ASCII. -/
theorem isAsciiStart_iff {c : Char} :
    isAsciiStart c = true ↔
      (97 ≤ c.toNat ∧ c.toNat ≤ 122) ∨ (65 ≤ c.toNat ∧ c.toNat ≤ 90) ∨ c.toNat = 95 := by
  have hunderscore : c = '_' ↔ c.toNat = 95 := Char.toNat_inj (d := '_') |>.symm
  simp only [isAsciiStart, Bool.or_eq_true, Bool.and_eq_true, decide_eq_true_eq, beq_iff_eq,
    hunderscore, or_assoc]
  exact Iff.rfl

end Text

namespace Script

/-- The code points of what belongs to a word. -/
theorem isWordPart_iff {c : Char} :
    isWordPart c = true ↔
      (97 ≤ c.toNat ∧ c.toNat ≤ 122) ∨ (65 ≤ c.toNat ∧ c.toNat ≤ 90) ∨ c.toNat = 95 ∨
        (48 ≤ c.toNat ∧ c.toNat ≤ 57) ∨ 128 ≤ c.toNat := by
  have hunderscore : c = '_' ↔ c.toNat = 95 := Char.toNat_inj (d := '_') |>.symm
  have hupper : c.isUpper = true ↔ 65 ≤ c.toNat ∧ c.toNat ≤ 90 := by
    simp [Char.isUpper, UInt32.le_iff_toNat_le, ← Char.toNat_val]
  have hlower : c.isLower = true ↔ 97 ≤ c.toNat ∧ c.toNat ≤ 122 := by
    simp [Char.isLower, UInt32.le_iff_toNat_le, ← Char.toNat_val]
  simp only [isWordPart, Char.isAlphanum, Char.isAlpha, Bool.or_eq_true, beq_iff_eq,
    decide_eq_true_eq, hupper, hlower, isDigit_iff, hunderscore]
  omega

end Script

namespace Text

/-! ## Identifiers -/

theorem isWordPart_of_isIdentifierPart {c : Char} (hc : isIdentifierPart c = true) :
    Script.isWordPart c = true := by
  rw [Script.isWordPart_iff]
  rw [isIdentifierPart] at hc
  split at hc
  · simp only [Bool.or_eq_true, Bool.and_eq_true, decide_eq_true_eq, isAsciiStart_iff] at hc
    change _ ∨ (48 ≤ c.toNat ∧ c.toNat ≤ 57) at hc
    omega
  · omega

theorem isWordStart_of_isIdentifierStart {c : Char} (hc : isIdentifierStart c = true) :
    Script.isWordStart c = true := by
  rw [Script.isWordStart, Bool.and_eq_true, Script.isWordPart_iff, Bool.not_eq_true',
    ← Bool.not_eq_true, isDigit_iff]
  rw [isIdentifierStart] at hc
  split at hc
  · rw [isAsciiStart_iff] at hc
    omega
  · omega

/-- An identifier consists of characters of words. -/
theorem isWordPart_of_mem_identifier {w : List Char} (hw : isIdentifier w = true) {c : Char}
    (hc : c ∈ w) : Script.isWordPart c = true := by
  cases w with
  | nil => cases hc
  | cons d rest =>
    obtain ⟨hstart, hparts⟩ : isIdentifierStart d = true ∧ rest.all isIdentifierPart = true := by
      simpa [isIdentifier] using hw
    rcases List.mem_cons.1 hc with rfl | hc
    · have hword := isWordStart_of_isIdentifierStart hstart
      rw [Script.isWordStart, Bool.and_eq_true] at hword
      exact hword.1
    · exact isWordPart_of_isIdentifierPart (List.all_eq_true.1 hparts c hc)

end Text

namespace Script

/-! ## Letters before texts -/

theorem isWordPart_quote {c : Char} (hc : Quotation.isQuote c = true) : isWordPart c = false := by
  simp only [Quotation.isQuote, Bool.or_eq_true, beq_iff_eq] at hc
  rcases hc with rfl | rfl <;> decide

/-- The letters before a text are letters in either case. -/
theorem isWordPart_of_toLower_mem {p : List Char} (hp : p ∈ Quotation.prefixes) {c : Char}
    (hc : c.toLower ∈ p) : isWordPart c = true := by
  have hlower : ∀ p ∈ Quotation.prefixes, p.all isWordPart = true := by decide
  -- Lowering a letter changes only capital letters, which belong to words.
  by_cases hupper : c.isUpper = true
  · simp [isWordPart, Char.isAlphanum, Char.isAlpha, hupper]
  · have hsame : c.toLower = c := Char.toLower_eq_of_not_isUpper hupper
    exact List.all_eq_true.1 (hlower p hp) c (hsame ▸ hc)

/-- What starts with neither a quote nor a letter of a text is no text. -/
theorem letters?_cons {c : Char} (hquote : Quotation.isQuote c = false)
    (hletter : ∀ p ∈ Quotation.prefixes, c.toLower ∉ p) (rest : List Char) :
    Quotation.letters? (c :: rest) = none := by
  rw [Quotation.letters?, List.find?_eq_none]
  intro p hp hmatch
  cases p with
  | nil => simp [hquote] at hmatch
  | cons d ds =>
    have hmem : c.toLower = d := by
      simp only [List.length_cons, List.take_succ_cons, List.map_cons, Bool.and_eq_true,
        beq_iff_eq, List.cons.injEq] at hmatch
      exact hmatch.1.1
    exact hletter _ hp (hmem ▸ List.mem_cons_self)

theorem letters?_digit {c : Char} (hc : c.isDigit = true) (rest : List Char) :
    Quotation.letters? (c :: rest) = none := by
  have hlower : ∀ p ∈ Quotation.prefixes, p.all (!·.isDigit) = true := by decide
  -- A digit is no capital letter, so it stays as it is.
  have hsame : c.toLower = c := by
    refine Char.toLower_eq_of_not_isUpper fun hupper => ?_
    simp only [Char.isUpper, ge_iff_le, UInt32.le_iff_toNat_le, Char.toNat_val,
      decide_eq_true_eq] at hupper
    have hlarge : 65 ≤ c.toNat := hupper.1
    have hsmall := isDigit_iff.1 hc
    omega
  refine letters?_cons ?_ (fun p hp hmem => ?_) rest
  · cases hquote : Quotation.isQuote c with
    | false => rfl
    | true =>
      simp only [Quotation.isQuote, Bool.or_eq_true, beq_iff_eq] at hquote
      rcases hquote with rfl | rfl <;> cases hc
  · rw [hsame] at hmem
    have hnone := List.all_eq_true.1 (hlower p hp) c hmem
    rw [hc] at hnone
    cases hnone

/-! ## Lengths of words -/

/-- A word ends before the characters, and they are no text that it could be the letters of. -/
def EndsWord (rest : List Char) : Prop :=
  ∀ c ∈ rest.head?, isWordPart c = false ∧ Quotation.isQuote c = false

section

variable {w rest : List Char} (hw : Text.isIdentifier w = true) (hrest : EndsWord rest)

include hw

/-- Nothing in an identifier keeps it from being one. -/
theorem intruder?_eq_none : intruder? w = none := by
  cases w with
  | nil => rfl
  | cons c cs =>
    obtain ⟨hstart, hparts⟩ : Text.isIdentifierStart c = true ∧
        cs.all Text.isIdentifierPart = true := by simpa [Text.isIdentifier] using hw
    have hnone : cs.find? (!Text.isIdentifierPart ·) = none :=
      List.find?_eq_none.2 fun d hd => by simpa using List.all_eq_true.1 hparts d hd
    simp only [intruder?, hstart, hnone]
    split <;> simp_all

include hrest

/-- **An identifier is cut out as a whole.** -/
theorem wordLength_append : wordLength (w ++ rest) = .ok w.length := by
  have hall : ∀ c ∈ w, isWordPart c = true := fun c hc => Text.isWordPart_of_mem_identifier hw hc
  have hnone : rest.takeWhile isWordPart = [] := by
    cases rest with
    | nil => rfl
    | cons c cs => simp [(hrest c rfl).1]
  rw [wordLength, List.takeWhile_append_of_pos hall, hnone, List.append_nil, intruder?_eq_none hw]

/-- **An identifier is not taken for the letters before a text.** -/
theorem letters?_word : Quotation.letters? (w ++ rest) = none := by
  rw [Quotation.letters?, List.find?_eq_none]
  intro p hp hmatch
  obtain ⟨hletters, hquote⟩ : ((w ++ rest).take p.length).map Char.toLower = p ∧
      ((w ++ rest).drop p.length).head?.any Quotation.isQuote = true := by
    simpa using hmatch
  obtain ⟨q, hq, hisQuote⟩ : ∃ q, (w ++ rest)[p.length]? = some q ∧
      Quotation.isQuote q = true := by
    rwa [List.head?_drop, Option.any_eq_true] at hquote
  -- The quote stands within the word, right after it, or past the character after it.
  rcases lt_trichotomy p.length w.length with hlt | heq | hgt
  · rw [List.getElem?_append_left hlt] at hq
    have hpart := Text.isWordPart_of_mem_identifier hw (List.mem_of_getElem? hq)
    rw [isWordPart_quote hisQuote] at hpart
    cases hpart
  · rw [heq, List.getElem?_append_right le_rfl, Nat.sub_self, ← List.head?_eq_getElem?] at hq
    have hnot := (hrest q hq).2
    rw [hisQuote] at hnot
    cases hnot
  · obtain ⟨d, ds, rfl⟩ : ∃ d ds, rest = d :: ds := by
      cases rest with
      | nil =>
        rw [List.append_nil, List.getElem?_eq_none hgt.le] at hq
        cases hq
      | cons d ds => exact ⟨d, ds, rfl⟩
    -- Then the character after the word is one of the letters, and a letter continues the word.
    have hmem : d.toLower ∈ p := by
      rw [← hletters]
      refine List.mem_map_of_mem (List.mem_of_getElem? (i := w.length) ?_)
      rw [List.getElem?_take_of_lt hgt, List.getElem?_append_right le_rfl, Nat.sub_self]
      rfl
    have hpart := isWordPart_of_toLower_mem hp hmem
    rw [(hrest d rfl).1] at hpart
    cases hpart

end

end Script

end SpriteStage
