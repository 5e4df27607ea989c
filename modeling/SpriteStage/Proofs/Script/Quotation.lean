import Mathlib
import SpriteStage.Script.Literal

/-!
# Quoted texts in scripts

A text is quoted in such a way that a script reads it back.  The escapes of characters are taken one
by one: each of them is gone over by the lexer without ending the text, and each of them stands for
its character.

## Main definitions

* `Text.escaped` are the characters of a text as they stand between its quotes
* `Text.IsInline` tells which characters are no controls of ASCII, so that they end no line
-/

namespace SpriteStage

namespace Text

/-! ## Hexadecimal digits -/

theorem length_hexDigits (width n : ℕ) : (hexDigits width n).length = width := by
  induction width generalizing n with
  | zero => rfl
  | succ width ih => rw [hexDigits, List.length_append, ih]; rfl

/-- Each hexadecimal digit stands for its value. -/
theorem digitValue?_digitChar {d : ℕ} (hd : d < 16) :
    Numeral.digitValue? 16 (Nat.digitChar d) = some d := by
  have hall : ∀ d < 16, Numeral.digitValue? 16 (Nat.digitChar d) = some d := by decide
  exact hall d hd

theorem isDigit_of_mem_hexDigits {width n : ℕ} {c : Char} (hc : c ∈ hexDigits width n) :
    Numeral.isDigit 16 c = true := by
  induction width generalizing n with
  | zero => cases hc
  | succ width ih =>
    rw [hexDigits, List.mem_append, List.mem_singleton] at hc
    rcases hc with hc | rfl
    · exact ih hc
    · rw [Numeral.isDigit, digitValue?_digitChar (Nat.mod_lt n (by decide))]
      rfl

/-- Hexadecimal digits stand for the last ones of a number. -/
theorem valueOf_hexDigits (width n : ℕ) :
    Numeral.valueOf 16 (hexDigits width n) = n % 16 ^ width := by
  induction width generalizing n with
  | zero => rw [pow_zero, Nat.mod_one]; rfl
  | succ width ih =>
    have hread := ih (n / 16)
    rw [Numeral.valueOf] at hread ⊢
    rw [hexDigits, List.foldl_append, hread, List.foldl_cons, List.foldl_nil,
      digitValue?_digitChar (Nat.mod_lt n (by decide)), pow_succ']
    show n / 16 % 16 ^ width * 16 + n % 16 = n % (16 * 16 ^ width)
    -- The last digit and those before it are the remainder in two parts.
    rw [Nat.mod_mul]
    ring

/-! ## Escapes -/

open Script.Quotation

/-- A hexadecimal escape has a letter for its width, and enough digits for the number. -/
theorem exists_hexEscape {n : ℕ} (hn : n < 16 ^ 8) :
    ∃ letter width, hexEscape n = '\\' :: letter :: hexDigits width n ∧ n < 16 ^ width ∧
      escapeWidth? letter = some width ∧ simpleEscape? letter = none ∧ letter ≠ '\n' ∧
      isOctal letter = false := by
  rw [hexEscape]
  split
  · exact ⟨'x', 2, rfl, by omega, rfl, rfl, by decide, by decide⟩
  · split
    · exact ⟨'u', 4, rfl, by omega, rfl, rfl, by decide, by decide⟩
    · exact ⟨'U', 8, rfl, hn, rfl, rfl, by decide, by decide⟩

theorem toNat_lt (c : Char) : c.toNat < 16 ^ 8 := by
  have h := c.val.toNat_lt
  exact h

/-- **A character between quotes** stands after a backslash, as it is, or as a hexadecimal escape. -/
theorem escapeChar_cases {q : Char} (hq : isQuote q = true) (c : Char) :
    (∃ d, escapeChar q c = ['\\', d] ∧ simpleEscape? d = some c ∧ d ≠ '\n' ∧ isOctal d = false) ∨
    (escapeChar q c = [c] ∧ c ≠ q ∧ c ≠ '\\' ∧ c ≠ '\n') ∨
    (∃ letter width, escapeChar q c = '\\' :: letter :: hexDigits width c.toNat ∧
      c.toNat < 16 ^ width ∧ escapeWidth? letter = some width ∧ simpleEscape? letter = none ∧
      letter ≠ '\n' ∧ isOctal letter = false) := by
  -- Both quotes stand for themselves after a backslash.
  have hself : simpleEscape? q = some q ∧ q ≠ '\n' ∧ isOctal q = false := by
    simp only [isQuote, Bool.or_eq_true, beq_iff_eq] at hq
    rcases hq with rfl | rfl <;> decide
  rw [escapeChar]
  split
  · rename_i h
    rcases h with rfl | rfl
    · exact .inl ⟨c, rfl, hself⟩
    · exact .inl ⟨'\\', rfl, by decide⟩
  rename_i h
  split
  · rename_i htab
    exact .inl ⟨'t', rfl, htab ▸ by decide⟩
  split
  · rename_i hnewline
    exact .inl ⟨'n', rfl, by subst hnewline; decide⟩
  split
  · rename_i hreturn
    exact .inl ⟨'r', rfl, hreturn ▸ by decide⟩
  rename_i hnewline _
  split
  · exact .inr (.inl ⟨rfl, fun heq => h (.inl heq), fun heq => h (.inr heq), hnewline⟩)
  · obtain ⟨letter, width, heq, hrest⟩ := exists_hexEscape (toNat_lt c)
    exact .inr (.inr ⟨letter, width, heq, hrest⟩)

/-- The characters of a text as they stand between its quotes. -/
def escaped (cs : List Char) : List Char := cs.flatMap (escapeChar (quoteFor cs))

theorem quoteList_eq (cs : List Char) :
    quoteList cs = quoteFor cs :: (escaped cs ++ [quoteFor cs]) := rfl

theorem isQuote_quoteFor (cs : List Char) : isQuote (quoteFor cs) = true := by
  rw [quoteFor]
  split <;> decide

/-- No escape starts with the quote. -/
theorem head_escapeChar {q : Char} (hq : isQuote q = true) (c : Char) :
    ∃ d ds, escapeChar q c = d :: ds ∧ d ≠ q := by
  have hne : '\\' ≠ q := by
    rintro rfl
    cases hq
  rcases escapeChar_cases hq c with ⟨d, h, -⟩ | ⟨h, hcq, -⟩ | ⟨letter, width, h, -⟩
  · exact ⟨_, _, h, hne⟩
  · exact ⟨_, _, h, hcq⟩
  · exact ⟨_, _, h, hne⟩

theorem length_le_escapes {q : Char} (hq : isQuote q = true) (cs : List Char) :
    cs.length ≤ (cs.flatMap (escapeChar q)).length := by
  induction cs with
  | nil => exact le_rfl
  | cons c cs ih =>
    obtain ⟨d, ds, hescape, -⟩ := head_escapeChar hq c
    rw [List.flatMap_cons, List.length_append, hescape, List.length_cons, List.length_cons]
    omega

/-! ## Lines -/

/-- The character is no control of ASCII. -/
def IsInline (c : Char) : Prop := 32 ≤ c.toNat

instance (c : Char) : Decidable (IsInline c) := inferInstanceAs (Decidable (32 ≤ c.toNat))

/-- That characters are no controls is decided character by character. -/
theorem isInline_of_all {cs : List Char} (h : cs.all (decide <| IsInline ·) = true) :
    ∀ c ∈ cs, IsInline c :=
  fun c hc => of_decide_eq_true (List.all_eq_true.1 h c hc)

theorem isInline_of_isPrintable {c : Char} (hc : isPrintable c = true) : IsInline c := by
  rw [isPrintable] at hc
  rw [IsInline]
  split at hc
  · simp only [Bool.and_eq_true, decide_eq_true_eq] at hc
    exact hc.1
  · omega

theorem isInline_of_mem_hexDigits {width n : ℕ} {c : Char} (hc : c ∈ hexDigits width n) :
    IsInline c := by
  have hall : ∀ d < 16, IsInline (Nat.digitChar d) := by decide
  induction width generalizing n with
  | zero => cases hc
  | succ width ih =>
    rw [hexDigits, List.mem_append, List.mem_singleton] at hc
    rcases hc with hc | rfl
    · exact ih hc
    · exact hall _ (Nat.mod_lt n (by decide))

theorem isInline_of_mem_hexEscape {n : ℕ} {d : Char} (hd : d ∈ hexEscape n) : IsInline d := by
  have hmem : ∀ letter width, IsInline letter → d ∈ '\\' :: letter :: hexDigits width n →
      IsInline d := by
    intro letter width hletter hd
    rcases List.mem_cons.1 hd with rfl | hd
    · decide
    rcases List.mem_cons.1 hd with rfl | hd
    · exact hletter
    · exact isInline_of_mem_hexDigits hd
  rw [hexEscape] at hd
  split at hd
  · exact hmem 'x' 2 (by decide) hd
  split at hd
  · exact hmem 'u' 4 (by decide) hd
  · exact hmem 'U' 8 (by decide) hd

/-- The escape of a character stays on one line. -/
theorem isInline_of_mem_escapeChar {q c d : Char} (hq : IsInline q) (hd : d ∈ escapeChar q c) :
    IsInline d := by
  have hmem : ∀ x, IsInline x → d ∈ ['\\', x] → IsInline d := by
    intro x hx hd
    rcases List.mem_cons.1 hd with rfl | hd
    · decide
    · rwa [List.mem_singleton.1 hd]
  rw [escapeChar] at hd
  split at hd
  · rename_i h
    refine hmem c ?_ hd
    rcases h with rfl | rfl
    · exact hq
    · decide
  split at hd
  · exact hmem 't' (by decide) hd
  split at hd
  · exact hmem 'n' (by decide) hd
  split at hd
  · exact hmem 'r' (by decide) hd
  split at hd
  · rename_i hprintable
    rw [List.mem_singleton.1 hd]
    exact isInline_of_isPrintable hprintable
  · exact isInline_of_mem_hexEscape hd

/-- **A quoted text stays on one line**, whatever the text is. -/
theorem isInline_of_mem_quoteList {cs : List Char} {d : Char} (hd : d ∈ quoteList cs) :
    IsInline d := by
  have hquote : IsInline (quoteFor cs) := by
    rw [quoteFor]
    split <;> decide
  rw [quoteList_eq, escaped, List.mem_cons, List.mem_append, List.mem_singleton,
    List.mem_flatMap] at hd
  rcases hd with rfl | ⟨c, -, hd⟩ | rfl
  · exact hquote
  · exact isInline_of_mem_escapeChar hquote hd
  · exact hquote

end Text

namespace Script.Quotation

open Text (escapeChar escapeChar_cases hexDigits quoteFor quoteList)

/-! ## Reading escapes -/

section

variable {q : Char} (hq : isQuote q = true)

/-- What is neither the quote, a backslash nor a line end is gone over. -/
theorem shortEnd_append {ds : List Char} (hds : ∀ d ∈ ds, d ≠ q ∧ d ≠ '\\' ∧ d ≠ '\n') (n : ℕ)
    (rest : List Char) : shortEnd q n (ds ++ rest) = shortEnd q (n + ds.length) rest := by
  induction ds generalizing n with
  | nil => rfl
  | cons d ds ih =>
    obtain ⟨hquote, hbackslash, hend⟩ := hds d List.mem_cons_self
    rw [List.cons_append, shortEnd]
    · rw [if_neg (by simpa using hquote), ih (fun c hc => hds c (List.mem_cons_of_mem d hc)),
        List.length_cons, Nat.add_assoc, Nat.add_comm 1]
    · exact hend
    · exact fun h _ => hbackslash h
    · exact fun _ _ h => absurd h hbackslash

include hq

/-- No hexadecimal digit ends a text. -/
theorem digit_ne {d : Char} (hd : Numeral.isDigit 16 d = true) :
    d ≠ q ∧ d ≠ '\\' ∧ d ≠ '\n' := by
  simp only [isQuote, Bool.or_eq_true, beq_iff_eq] at hq
  refine ⟨?_, ?_, ?_⟩
  · rintro rfl
    rcases hq with rfl | rfl <;> cases hd
  · rintro rfl
    cases hd
  · rintro rfl
    cases hd

/-- **The lexer goes over the escape of a character.** -/
theorem shortEnd_escapeChar (c : Char) (n : ℕ) (rest : List Char) :
    shortEnd q n (escapeChar q c ++ rest) = shortEnd q (n + (escapeChar q c).length) rest := by
  rcases escapeChar_cases hq c with ⟨d, h, -⟩ | ⟨h, hc⟩ | ⟨letter, width, h, -⟩
  · rw [h]
    rfl
  · rw [h]
    exact shortEnd_append (fun d hd => List.mem_singleton.1 hd ▸ hc) n rest
  · have hdigits : ∀ d ∈ hexDigits width c.toNat, d ≠ q ∧ d ≠ '\\' ∧ d ≠ '\n' := fun d hd =>
      digit_ne hq (Text.isDigit_of_mem_hexDigits hd)
    rw [h, List.cons_append, List.cons_append, shortEnd, shortEnd_append hdigits,
      List.length_cons, List.length_cons]
    congr 1
    omega

/-- The lexer goes over all escapes up to the quote. -/
theorem shortEnd_escapes (cs : List Char) (n : ℕ) (rest : List Char) :
    shortEnd q n (cs.flatMap (escapeChar q) ++ q :: rest) =
      .ok (n + (cs.flatMap (escapeChar q)).length + 1) := by
  induction cs generalizing n with
  | nil =>
    -- The quote itself ends the text.
    have hne : q ≠ '\n' ∧ q ≠ '\\' := by
      simp only [isQuote, Bool.or_eq_true, beq_iff_eq] at hq
      rcases hq with rfl | rfl <;> decide
    rw [List.flatMap_nil, List.nil_append, shortEnd]
    · simp
    · exact hne.1
    · exact fun h _ => hne.2 h
    · exact fun _ _ h => absurd h hne.2
  | cons c cs ih =>
    rw [List.flatMap_cons, List.append_assoc, shortEnd_escapeChar hq, ih, List.length_append,
      Nat.add_assoc n]

/-- The escape of a character stands for the character. -/
theorem unescape_escapeChar (c : Char) {fuel start : ℕ} {rest : List Char} {ds : List ℕ}
    (hrest : ∀ start', unescape fuel start' rest = .ok ds) :
    unescape (fuel + 1) start (escapeChar q c ++ rest) = .ok (c.toNat :: ds) := by
  rcases escapeChar_cases hq c with
    ⟨d, h, hescape, hend, hoctal⟩ | ⟨h, -, hbackslash, -⟩ |
    ⟨letter, width, h, hwidth, hletter, hescape, hend, hoctal⟩
  · rw [h, List.cons_append, List.cons_append, List.nil_append, unescape]
    simp [hend, hoctal, hescape, hrest]
  · rw [h, List.singleton_append, unescape]
    · rw [hrest]
      rfl
    · exact fun _ _ h => absurd h hbackslash
  · have hall : ∀ d ∈ hexDigits width c.toNat, Numeral.isDigit 16 d = true := fun d hd =>
      Text.isDigit_of_mem_hexDigits hd
    have htake : (hexDigits width c.toNat ++ rest).take width = hexDigits width c.toNat :=
      List.take_left' (Text.length_hexDigits width _)
    have hdrop : (hexDigits width c.toNat ++ rest).drop width = rest :=
      List.drop_left' (Text.length_hexDigits width _)
    -- As many digits are read as were written, and they are those of a character.
    have hread : codeEscape start width letter (hexDigits width c.toNat ++ rest) = .ok c.toNat := by
      have hvalid : c.toNat.isValidChar := c.valid
      have hbound : ¬ c.toNat > 0x10FFFF := by
        rcases hvalid with h | h <;> omega
      rw [codeEscape, htake, List.takeWhile_eq_self_iff.2 hall]
      simp [Text.length_hexDigits, Text.valueOf_hexDigits, Nat.mod_eq_of_lt hwidth, hbound]
    rw [h, List.cons_append, List.cons_append, unescape]
    simp only [beq_iff_eq, hend, if_false, hoctal, Bool.false_eq_true, hescape, hletter, hread, hdrop,
      hrest]
    rfl

/-- The escapes of characters stand for the characters. -/
theorem unescape_escapes (cs : List Char) {fuel : ℕ} (hfuel : cs.length ≤ fuel) (start : ℕ) :
    unescape fuel start (cs.flatMap (escapeChar q)) = .ok (cs.map Char.toNat) := by
  -- By induction on the characters; each escape takes one unit of fuel, however long it is.
  induction cs generalizing fuel start with
  | nil => cases fuel <;> rfl
  | cons c cs ih =>
    cases fuel with
    | zero => exact absurd hfuel (Nat.not_succ_le_zero _)
    | succ fuel =>
      rw [List.flatMap_cons]
      exact unescape_escapeChar hq c fun start' => ih (Nat.le_of_succ_le_succ hfuel) start'

end

/-! ## Reading texts -/

/-- A quote needs no letters before it. -/
theorem letters?_quote {q : Char} (hq : isQuote q = true) (rest : List Char) :
    letters? (q :: rest) = some [] := by
  rw [letters?, prefixes, List.find?_cons_of_pos]
  simp [hq]

/-- A quoted text has one quote on either side. -/
theorem quotesOf_quoteList (cs rest : List Char) (hrest : ∀ c ∈ rest.head?, c ≠ quoteFor cs) :
    quotesOf (quoteFor cs) (quoteList cs ++ rest) = 1 := by
  have hq := Text.isQuote_quoteFor cs
  rw [quotesOf, if_neg]
  rw [Text.quoteList_eq, Text.escaped, beq_iff_eq]
  cases cs with
  | nil =>
    cases rest with
    | nil => simp
    | cons c rest =>
      have hc := hrest c rfl
      simpa using hc
  | cons c tail =>
    -- The first character between the quotes is none, so there are not three of them.
    generalize quoteFor (c :: tail) = q at hq
    obtain ⟨d, ds, hescape, hd⟩ := Text.head_escapeChar hq c
    rw [List.flatMap_cons, hescape]
    simp [hd]

/-- **A quoted text before a closing parenthesis is cut out as a whole.** -/
theorem length_quoteList (cs rest : List Char) :
    length (quoteFor cs) (quoteList cs ++ ')' :: rest) = .ok (quoteList cs).length := by
  have hq := Text.isQuote_quoteFor cs
  have hquotes := quotesOf_quoteList cs (')' :: rest) (by
    rintro c ⟨⟩ heq
    rw [← heq] at hq
    cases hq)
  rw [length, hquotes]
  show shortEnd _ 1 _ = _
  rw [Text.quoteList_eq, Text.escaped, List.cons_append, List.drop_one, List.tail_cons,
    List.append_assoc, List.singleton_append, shortEnd_escapes hq, List.length_cons,
    List.length_append, Nat.add_comm 1]
  rfl

end Script.Quotation

namespace Script

/-- **A quoted text stands for the text.** -/
theorem QuotedPart.ofToken_quoteList (cs : List Char) :
    QuotedPart.ofToken (Text.quoteList cs) = .ok (.text (cs.map Char.toNat)) := by
  have hq := Text.isQuote_quoteFor cs
  have hquotes := Quotation.quotesOf_quoteList cs [] (by rintro c ⟨⟩)
  rw [List.append_nil] at hquotes
  -- What stands between the quotes is read.
  have hbody : ((Text.quoteList cs).drop 1).take ((Text.quoteList cs).length - 2 * 1) =
      Text.escaped cs := by
    rw [Text.quoteList_eq]
    simp
  have hhead : (Text.quoteList cs).head?.getD '"' = Text.quoteFor cs := rfl
  have hparts : Quotation.parts (Text.quoteList cs) = ([], Text.escaped cs) := by
    rw [Quotation.parts, Text.quoteList_eq, Quotation.letters?_quote hq, ← Text.quoteList_eq]
    simp only [Option.getD_some, List.length_nil, List.drop_zero]
    rw [hhead, hquotes, hbody]
  rw [QuotedPart.ofToken, hparts]
  have hread := Quotation.unescape_escapes hq cs (Text.length_le_escapes hq cs) 0
  simp only [List.contains_nil, Bool.false_eq_true, if_false, Text.escaped, hread]
  rfl

end Script

end SpriteStage
