import Mathlib
import SpriteStage.Program.Folding

/-!
# Words for doubles

The words for infinities and not-a-number may be written in either case, with blanks around them.  Whether
a text is such a word is decided on the text without blanks, and what it stands for is read from the text
itself.  The two do not take the same characters for blanks: the separators of ASCII are blanks around a
text, but not around a numeral.  They agree on texts without separators.

## Main results

* `Text.numeralOf_eq_map`
* `Text.exists_double?_of_mem_floatWords`
-/

namespace SpriteStage.Text

/-! ## Blanks -/

/-- Whether a character is one of the separators of ASCII, from that of files to that of units. -/
def isSeparator (c : Char) : Bool := 0x1C ≤ c.toNat && c.toNat ≤ 0x1F

/-- Dropping from the images of characters is dropping from the characters. -/
theorem dropWhile_map_of_forall {f : Char → Char} {p q : Char → Bool} {cs : List Char}
    (h : ∀ c ∈ cs, q (f c) = p c) : (cs.map f).dropWhile q = (cs.dropWhile p).map f := by
  induction cs with
  | nil => rfl
  | cons c cs ih =>
    have hc := h c List.mem_cons_self
    rw [List.map_cons, List.dropWhile_cons, List.dropWhile_cons, hc]
    cases p c with
    | false => rfl
    | true => exact ih fun d hd => h d (List.mem_cons_of_mem _ hd)

/-- The value of a digit has one digit. -/
theorem le_of_decimalDigit? {c : Char} {d : ℕ} (h : decimalDigit? c = some d) : d ≤ 9 := by
  unfold decimalDigit? at h
  split at h
  · rename_i hdigit
    obtain rfl := Option.some.inj h
    simp only [Char.isDigit, Bool.and_eq_true, decide_eq_true_eq] at hdigit
    have hle : c.toNat ≤ '9'.toNat := hdigit.2
    have hnine : '9'.toNat = '0'.toNat + 9 := by decide
    omega
  · obtain ⟨z, hz, rfl⟩ := Option.map_eq_some_iff.1 h
    have hrange := List.find?_some hz
    simp only [Bool.and_eq_true, decide_eq_true_eq] at hrange
    omega

/-- Stripping and numerals agree on what is blank, separators apart. -/
theorem isAsciiBlank_toAsciiNumeral {c : Char} (hc : isSeparator c = false) :
    isAsciiBlank (toAsciiNumeral c) = isBlank c := by
  have hspace : (c == ' ') = decide (c.toNat = 0x20) := by
    rw [Bool.eq_iff_iff, beq_iff_eq, decide_eq_true_eq, ← Char.toNat_inj]
    rfl
  unfold toAsciiNumeral
  split
  · -- The blanks of ASCII are the spaces and the separators.
    rename_i hascii
    rw [Bool.eq_iff_iff]
    simp only [isAsciiBlank, isBlank, isSeparator, hspace, Bool.or_eq_true, Bool.and_eq_true,
      decide_eq_true_eq, beq_iff_eq, Bool.and_eq_false_iff, decide_eq_false_iff_not] at hc ⊢
    omega
  · rename_i hascii
    have hother : isAsciiBlank c = false := by
      rw [isAsciiBlank, hspace, Bool.or_eq_false_iff, Bool.and_eq_false_iff]
      simp only [decide_eq_false_iff_not]
      omega
    split
    · rename_i hblank
      rw [hblank]
      rfl
    · rename_i hblank
      rw [Bool.eq_false_iff.2 hblank]
      split
      · rename_i d hd
        have hdigit : ∀ d < 10, isAsciiBlank (Char.ofNat ('0'.toNat + d)) = false := by decide
        exact hdigit d (Nat.lt_succ_of_le (le_of_decimalDigit? hd))
      · exact hother

/-- A text without separators is stripped as a numeral in the same way as in general. -/
theorem numeralOf_eq_map {s : String} (hs : ∀ c ∈ s.toList, isSeparator c = false) :
    numeralOf s = (stripList s.toList).map toAsciiNumeral := by
  have hblank : ∀ c ∈ s.toList, isAsciiBlank (toAsciiNumeral c) = isBlank c :=
    fun c hc => isAsciiBlank_toAsciiNumeral (hs c hc)
  have hrest : ∀ c ∈ (s.toList.dropWhile isBlank).reverse,
      isAsciiBlank (toAsciiNumeral c) = isBlank c := by
    intro c hc
    exact hblank c ((List.dropWhile_sublist _).subset (List.mem_reverse.1 hc))
  rw [numeralOf, dropWhile_map_of_forall hblank, ← List.map_reverse, dropWhile_map_of_forall hrest,
    ← List.map_reverse, stripList]

/-! ## Cases -/

/-- What is no letter is the lower case of itself alone. -/
theorem toLower_eq_iff {c d : Char} (hd : d.isAlpha = false) : c.toLower = d ↔ c = d := by
  have hsame : ∀ {a : Char}, a.isAlpha = false → a.toLower = a := by
    intro a ha
    refine Char.toLower_eq_of_not_isUpper fun hupper => ?_
    rw [Char.isAlpha, hupper] at ha
    cases ha
  constructor
  · rintro rfl
    rw [Char.isAlpha_toLower_eq_isAlpha] at hd
    exact (hsame hd).symm
  · rintro rfl
    exact hsame hd

/-- Signs have no case. -/
theorem sign_map_toLower (cs : List Char) : Numeral.sign (cs.map Char.toLower) =
    ((Numeral.sign cs).1, (Numeral.sign cs).2.map Char.toLower) := by
  cases cs with
  | nil => rfl
  | cons c cs =>
    by_cases hminus : c = '-'
    · subst hminus
      rfl
    by_cases hplus : c = '+'
    · subst hplus
      rfl
    have hminus' : c.toLower ≠ '-' := (toLower_eq_iff (by decide)).not.2 hminus
    have hplus' : c.toLower ≠ '+' := (toLower_eq_iff (by decide)).not.2 hplus
    have hsign : ∀ {a : Char} {as : List Char}, a ≠ '-' → a ≠ '+' →
        Numeral.sign (a :: as) = (false, a :: as) := by
      intro a as ha ha'
      unfold Numeral.sign
      split <;> simp_all
    rw [List.map_cons, hsign hminus' hplus', hsign hminus hplus, List.map_cons]

/-- A letter of a word is no capital past ASCII. -/
theorem toAsciiNumeral_of_toLower {c : Char} (hc : c.toLower.toNat < 0x80) :
    toAsciiNumeral c = c := by
  have hascii : c.toNat < 0x80 := by
    by_cases hupper : c.isUpper = true
    · have hle : c.toNat ≤ 'Z'.toNat := by
        simp only [Char.isUpper, decide_eq_true_eq] at hupper
        exact hupper.2
      exact hle.trans_lt (by decide)
    · rwa [Char.toLower_eq_of_not_isUpper hupper] at hc
  rw [toAsciiNumeral, if_pos hascii]

/-- What a text without blanks around it writes, if it is a word in either case. -/
theorem exists_double?_of_map_toLower {cs : List Char}
    (hcs : String.ofList (cs.map Char.toLower) ∈ floatWords) : ∃ x, Numeral.double? cs = some x := by
  have hwords : ∀ w ∈ floatWords, (Numeral.sign w.toList).2 ∈
      ["inf".toList, "infinity".toList, "nan".toList] := by
    unfold floatWords
    decide
  have hword := hwords _ hcs
  have hlist : (String.ofList (cs.map Char.toLower)).toList = cs.map Char.toLower := String.toList_ofList
  rw [hlist, sign_map_toLower, List.mem_cons, List.mem_cons, List.mem_singleton] at hword
  unfold Numeral.double?
  simp only
  split
  · exact ⟨_, rfl⟩
  rename_i hinfinite
  split
  · exact ⟨_, rfl⟩
  rename_i hnan
  -- There is no fourth word.
  exact ((or_assoc.2 hword).elim hinfinite hnan).elim

/-- Words are of ASCII. -/
theorem toNat_lt_of_mem_floatWords : ∀ w ∈ floatWords, ∀ c ∈ w.toList, c.toNat < 0x80 := by
  have hall : (floatWords.all fun w => w.toList.all fun c => c.toNat < 0x80) = true := by decide +kernel
  simpa only [List.all_eq_true, decide_eq_true_eq] using hall

/-- **A word that `float` takes is read as a double**, unless a separator is beside it. -/
theorem exists_double?_of_mem_floatWords {s : String}
    (hword : String.ofList ((stripList s.toList).map Char.toLower) ∈ floatWords)
    (hs : ∀ c ∈ s.toList, isSeparator c = false) : ∃ x, double? s = some x := by
  have hsame : ∀ c ∈ stripList s.toList, toAsciiNumeral c = c := by
    intro c hc
    refine toAsciiNumeral_of_toLower (toNat_lt_of_mem_floatWords _ hword _ ?_)
    rw [String.toList_ofList]
    exact List.mem_map_of_mem hc
  rw [double?, numeralOf_eq_map hs, List.map_congr_left hsame, List.map_id']
  exact exists_double?_of_map_toLower hword

end SpriteStage.Text
