import SpriteStage.Proofs.Script.Quotation
import SpriteStage.Json.Reader
import SpriteStage.Json.Printer

/-!
# Texts in JSON

A text is written between quotes in such a way that it is read back, whether or not characters past
ASCII are escaped.  The escapes are taken one by one: each of them is read in one step and stands for
its character, also where it is two code units long.
-/

namespace SpriteStage.Json

/-! ## Code units -/

/-- Four hexadecimal digits are the code unit that they write. -/
theorem codeUnit?_hexDigits {n : ℕ} (hn : n < 0x10000) (rest : List Char) :
    codeUnit? (Text.hexDigits 4 n ++ rest) = some n := by
  have htake : (Text.hexDigits 4 n ++ rest).take 4 = Text.hexDigits 4 n :=
    List.take_left' (Text.length_hexDigits 4 n)
  have hall : (Text.hexDigits 4 n).all (Numeral.isDigit 16) = true :=
    List.all_eq_true.2 fun c hc => Text.isDigit_of_mem_hexDigits hc
  have hvalue : n % 16 ^ 4 = n := Nat.mod_eq_of_lt hn
  rw [codeUnit?, htake]
  simp only [Text.length_hexDigits, hall, Text.valueOf_hexDigits, hvalue, true_and, if_true]

/-- A character of one code unit is no surrogate. -/
theorem not_surrogate (c : Char) : ¬ (0xD800 ≤ c.toNat ∧ c.toNat < 0xE000) := by
  have hvalid : c.toNat.isValidChar := c.valid
  rintro ⟨hge, hlt⟩
  rcases hvalid with h | h <;> omega

theorem charOfUnit_toNat (c : Char) : charOfUnit c.toNat = c := by
  rw [charOfUnit, if_neg (not_surrogate c), Char.ofNat_toNat]

/-- The two code units of a character are a surrogate pair of it. -/
theorem charOfPair_toNat {c : Char} (hc : 0x10000 ≤ c.toNat) :
    charOfPair (0xD800 + (c.toNat - 0x10000) / 0x400) (0xDC00 + (c.toNat - 0x10000) % 0x400) = c := by
  rw [charOfPair]
  have hcode : 0x10000 + (0xD800 + (c.toNat - 0x10000) / 0x400 - 0xD800) * 0x400 +
      (0xDC00 + (c.toNat - 0x10000) % 0x400 - 0xDC00) = c.toNat := by omega
  rw [hcode, Char.ofNat_toNat]

/-! ## Escapes -/

/-- The escape of one code unit that starts no pair stands for the character of the unit. -/
theorem unicodeEscape_unit {n : ℕ} (hn : n < 0x10000) (hhigh : isHighSurrogate n = false)
    {rest : List Char} (hrest : rest ≠ []) :
    unicodeEscape ('u' :: (Text.hexDigits 4 n ++ rest)) = .ok (charOfUnit n, rest) := by
  have hlength : ¬ (Text.hexDigits 4 n ++ rest).length ≤ 4 := by
    have hpos := List.length_pos_iff.2 hrest
    rw [List.length_append, Text.length_hexDigits]
    omega
  have hdrop : (Text.hexDigits 4 n ++ rest).drop 4 = rest :=
    List.drop_left' (Text.length_hexDigits 4 n)
  rw [unicodeEscape]
  simp only [List.drop_succ_cons, List.drop_zero, if_neg hlength, codeUnit?_hexDigits hn, hdrop, hhigh,
    Bool.false_and, Bool.false_eq_true, if_false]
  -- What follows is not looked at.
  split <;> rfl

/-- The escapes of a surrogate pair stand for one character. -/
theorem unicodeEscape_pair {high low : ℕ} (hhigh : 0xD800 ≤ high ∧ high < 0xDC00)
    (hlow : 0xDC00 ≤ low ∧ low < 0xE000) {rest : List Char} (hrest : rest ≠ []) :
    unicodeEscape ('u' :: (Text.hexDigits 4 high ++ (escapeUnit low ++ rest))) =
      .ok (charOfPair high low, rest) := by
  have hpos := List.length_pos_iff.2 hrest
  have hlength : ¬ (Text.hexDigits 4 high ++ (escapeUnit low ++ rest)).length ≤ 4 := by
    simp only [escapeUnit, List.length_append, Text.length_hexDigits, List.length_cons]
    omega
  have hmore : (escapeUnit low ++ rest).length > 6 := by
    simp only [escapeUnit, List.length_append, Text.length_hexDigits, List.length_cons]
    omega
  have hdrop : (Text.hexDigits 4 high ++ (escapeUnit low ++ rest)).drop 4 = escapeUnit low ++ rest :=
    List.drop_left' (Text.length_hexDigits 4 high)
  have hdrop' : (Text.hexDigits 4 low ++ rest).drop 4 = rest :=
    List.drop_left' (Text.length_hexDigits 4 low)
  have hishigh : isHighSurrogate high = true := by simp [isHighSurrogate, hhigh]
  have hislow : isLowSurrogate low = true := by simp [isLowSurrogate, hlow]
  rw [unicodeEscape]
  simp only [List.drop_succ_cons, List.drop_zero, if_neg hlength,
    codeUnit?_hexDigits (show high < 0x10000 by omega), hdrop]
  have hsplit : escapeUnit low ++ rest = '\\' :: 'u' :: (Text.hexDigits 4 low ++ rest) := rfl
  rw [hsplit] at hmore ⊢
  simp only [hishigh, hmore, codeUnit?_hexDigits (show low < 0x10000 by omega), hislow, hdrop',
    decide_true, Bool.and_self, if_true]

/-- The escape of a character stands for it. -/
theorem unicodeEscape_escapeCode (c : Char) {rest : List Char} (hrest : rest ≠ []) :
    ∃ units, escapeCode c.toNat ++ rest = '\\' :: 'u' :: units ∧
      unicodeEscape ('u' :: units) = .ok (c, rest) := by
  rw [escapeCode]
  split
  · rename_i hunit
    have hhigh : isHighSurrogate c.toNat = false := by
      have hnot := not_surrogate c
      simp only [isHighSurrogate, Bool.and_eq_false_iff, decide_eq_false_iff_not]
      omega
    refine ⟨Text.hexDigits 4 c.toNat ++ rest, rfl, ?_⟩
    rw [unicodeEscape_unit hunit hhigh hrest, charOfUnit_toNat]
  · rename_i hpair
    have hlt : c.toNat < 0x110000 := by
      have hvalid : c.toNat.isValidChar := c.valid
      rcases hvalid with h | h <;> omega
    have hhigh : 0xD800 ≤ 0xD800 + (c.toNat - 0x10000) / 0x400 ∧
        0xD800 + (c.toNat - 0x10000) / 0x400 < 0xDC00 := by omega
    have hlow : 0xDC00 ≤ 0xDC00 + (c.toNat - 0x10000) % 0x400 ∧
        0xDC00 + (c.toNat - 0x10000) % 0x400 < 0xE000 := by omega
    have hread := unicodeEscape_pair hhigh hlow hrest
    rw [charOfPair_toNat (by omega)] at hread
    refine ⟨_, ?_, hread⟩
    simp only [escapeUnit, List.cons_append, List.append_assoc]

/-- **A character between quotes** stands after a backslash, as it is, or as the escape of its code. -/
theorem escapeChar_cases (ascii : Bool) (c : Char) :
    (∃ d, escapeChar ascii c = ['\\', d] ∧ simpleEscape? d = some c ∧ d ≠ 'u') ∨
    (escapeChar ascii c = [c] ∧ c ≠ '"' ∧ c ≠ '\\' ∧ 0x20 ≤ c.toNat ∧
      (ascii = true → c.toNat < 0x7F)) ∨
    escapeChar ascii c = escapeCode c.toNat := by
  by_cases hshort : c ∈ ['"', '\\', '\n', '\r', '\t', '\x0c', '\x08']
  · -- Seven characters have a short escape.
    left
    simp only [List.mem_cons, List.not_mem_nil, or_false] at hshort
    rcases hshort with rfl | rfl | rfl | rfl | rfl | rfl | rfl
    · exact ⟨'"', rfl, rfl, by decide⟩
    · exact ⟨'\\', rfl, rfl, by decide⟩
    · exact ⟨'n', rfl, rfl, by decide⟩
    · exact ⟨'r', rfl, rfl, by decide⟩
    · exact ⟨'t', rfl, rfl, by decide⟩
    · exact ⟨'f', rfl, rfl, by decide⟩
    · exact ⟨'b', rfl, rfl, by decide⟩
  · simp only [List.mem_cons, List.not_mem_nil, or_false, not_or] at hshort
    obtain ⟨hquote, hbackslash, hnewline, hreturn, htab, hfeed, hback⟩ := hshort
    right
    rw [escapeChar]
    simp only [hquote, hbackslash, hnewline, hreturn, htab, hfeed, hback, if_false]
    split
    · exact .inr rfl
    · rename_i hplain
      rw [not_or, not_and] at hplain
      exact .inl ⟨rfl, hquote, hbackslash, Nat.le_of_not_lt hplain.1,
        fun hascii => Nat.lt_of_not_le (hplain.2 hascii)⟩

/-! ## Reading -/

/-- The escape of a character is read in one step. -/
theorem readText_escapeChar {start rest tail cs : List Char} {fuel : ℕ} (ascii : Bool) (c : Char)
    (hrest : rest ≠ []) (h : readText start fuel rest = .ok (cs, tail)) :
    readText start (fuel + 1) (escapeChar ascii c ++ rest) = .ok (c :: cs, tail) := by
  rcases escapeChar_cases ascii c with ⟨d, hescape, hsimple, hd⟩ | ⟨hescape, hquote, hback, hge, -⟩ |
    hescape
  · rw [hescape, List.cons_append, List.cons_append, List.nil_append, readText]
    · simp only [hsimple, h]
      rfl
    · exact hd
  · rw [hescape, List.singleton_append, readText]
    · simp only [if_neg (Nat.not_lt.2 hge), h]
      rfl
    · exact fun heq => absurd heq hquote
    · exact fun heq => absurd heq hback
  · obtain ⟨units, hunits, hread⟩ := unicodeEscape_escapeCode c hrest
    rw [hescape, hunits, readText]
    simp only [hread, bind, Except.bind, h]
    rfl

/-- The escapes of characters are read up to the closing quote. -/
theorem readText_escapes (start tail : List Char) (ascii : Bool) (cs : List Char) {fuel : ℕ}
    (hfuel : cs.length < fuel) :
    readText start fuel (cs.flatMap (escapeChar ascii) ++ '"' :: tail) = .ok (cs, tail) := by
  -- By induction on the characters; each escape takes one unit of fuel, however long it is.
  induction cs generalizing fuel with
  | nil =>
    obtain ⟨fuel, rfl⟩ := Nat.exists_eq_add_of_lt hfuel
    rfl
  | cons c cs ih =>
    cases fuel with
    | zero => exact absurd hfuel (Nat.not_lt_zero _)
    | succ fuel =>
      rw [List.flatMap_cons, List.append_assoc]
      exact readText_escapeChar ascii c (by simp) (ih (Nat.lt_of_succ_lt_succ hfuel))

theorem escapeChar_ne_nil (ascii : Bool) (c : Char) : escapeChar ascii c ≠ [] := by
  rcases escapeChar_cases ascii c with ⟨d, h, -⟩ | ⟨h, -⟩ | h
  · simp [h]
  · simp [h]
  · rw [h, escapeCode]
    split <;> simp [escapeUnit]

theorem length_le_escapes (ascii : Bool) (cs : List Char) :
    cs.length ≤ (cs.flatMap (escapeChar ascii)).length := by
  induction cs with
  | nil => exact le_rfl
  | cons c cs ih =>
    have hpos := List.length_pos_iff.2 (escapeChar_ne_nil ascii c)
    rw [List.flatMap_cons, List.length_append, List.length_cons]
    omega

theorem toList_writeText (ascii : Bool) (s : String) :
    (writeText ascii s).toList = '"' :: (s.toList.flatMap (escapeChar ascii) ++ ['"']) := by
  rw [writeText, String.toList_ofList, List.cons_append]

/-- **A text that is written is read back**, whatever follows it. -/
theorem readString_writeText (ascii : Bool) (s : String) (start tail : List Char) :
    readString start (s.toList.flatMap (escapeChar ascii) ++ '"' :: tail) = .ok (s, tail) := by
  have hfuel : s.toList.length < (s.toList.flatMap (escapeChar ascii) ++ '"' :: tail).length + 1 := by
    have hle := length_le_escapes ascii s.toList
    rw [List.length_append]
    omega
  rw [readString, readText_escapes start tail ascii s.toList hfuel]
  exact congrArg (fun t => Except.ok (t, tail)) String.ofList_toList

end SpriteStage.Json
