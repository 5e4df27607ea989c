import SpriteStage.Proofs.Script.Lookahead
import SpriteStage.Proofs.Script.Place
import SpriteStage.Proofs.Script.Stepping
import SpriteStage.Proofs.Text.Blank

/-!
# Lexemes of a text within another one

A text may be part of a larger text.  Two cursors go over the same characters, one in the text alone and
one in the larger text, and cut off the same lexemes.

## Main definitions

* `Script.Excerpt` is a text that is part of another one
* `Script.Excerpt.Meets` says that two cursors stand before the same character of it
* `Script.Excerpt.Cuts` says that two tokens stand for the same characters of it

## Main results

* `Script.Excerpt.Meets.lexeme` compares single lexemes
-/

namespace SpriteStage.Script

/-- A text with line ends that is part of another one. -/
structure Excerpt where
  before : List Char
  text : List Char
  after : List Char
  closed : text.getLast? = some '\n'

namespace Excerpt

variable (x : Excerpt)

/-- The text around. -/
def whole : List Char := x.before ++ x.text ++ x.after

/-- A cursor in the text alone and one in the text around stand before the same character. -/
structure Meets (i : ℕ) (s t : Cursor) : Prop where
  left : s.At x.text i
  right : t.At x.whole (x.before.length + i)
  atLineStart : t.atLineStart = s.atLineStart
  brackets : t.brackets.map Bracket.char = s.brackets.map Bracket.char

/-- Stretches of the text alone and of the text around, from one character to the place before another one.
    They do not begin with a blank. -/
structure Covers (n m : ℕ) (σ τ : Span) : Prop where
  lt : n < m
  le : m < x.text.length
  visible : ∀ c ∈ x.text[n]?, Text.isBlank c = false
  left : σ = ⟨place x.text n, place x.text m⟩
  right : τ = ⟨place x.whole (x.before.length + n), place x.whole (x.before.length + m)⟩

/-- A token of the text alone and one of the text around that stand for the same characters between two
    places, unless they only have a place. -/
structure Cuts (i j : ℕ) (p : Token × Token) : Prop where
  lexeme : p.1.lexeme = p.2.lexeme
  spans : p.1.isWritten = true → ∃ n m, i ≤ n ∧ m ≤ j ∧ x.Covers n m p.1.span p.2.span

/-- In the same way two cursors went on to where they are, cutting off some tokens. -/
structure Goes (i : ℕ) (ps : List (Token × Token)) (j : ℕ) (s t : Cursor) : Prop where
  lt : i < j
  le : j ≤ x.text.length
  meets : x.Meets j s t
  cuts : ∀ p ∈ ps, x.Cuts i j p

variable {x} {i j n : ℕ} {s t s' t' : Cursor} {ts : List Token} {c : Char} {cs : List Char}

namespace Meets

theorem congr (h : x.Meets i s t) (hs : s'.rest = s.rest ∧ s'.position = s.position)
    (ht : t'.rest = t.rest ∧ t'.position = t.position) (hstart : t'.atLineStart = s'.atLineStart)
    (hbrackets : t'.brackets.map Bracket.char = s'.brackets.map Bracket.char) : x.Meets i s' t' :=
  ⟨h.left.congr hs.1 hs.2, h.right.congr ht.1 ht.2, hstart, hbrackets⟩

theorem advance (h : x.Meets i s t) (n : ℕ) : x.Meets (i + n) (s.advance n) (t.advance n) where
  left := h.left.advance n
  right := by
    rw [← Nat.add_assoc]
    exact h.right.advance n
  atLineStart := by rw [Cursor.advance_atLineStart, Cursor.advance_atLineStart, h.atLineStart]
  brackets := by rw [Cursor.advance_brackets, Cursor.advance_brackets, h.brackets]

theorem length_brackets (h : x.Meets i s t) : t.brackets.length = s.brackets.length := by
  have hlength := congrArg List.length h.brackets
  rwa [List.length_map, List.length_map] at hlength

/-- What is left of the text is the same, and it ends with a line end. -/
theorem exists_rest (h : x.Meets i s t) (hi : i < x.text.length) :
    ∃ body, s.rest = body ++ ['\n'] ∧ t.rest = body ++ '\n' :: x.after ∧
      i + body.length + 1 = x.text.length := by
  obtain ⟨lines, hlines⟩ := List.getLast?_eq_some_iff.1 x.closed
  rw [hlines, List.length_append, List.length_singleton] at hi ⊢
  have hle : i ≤ lines.length := Nat.le_of_lt_succ hi
  refine ⟨lines.drop i, ?_, ?_, by rw [List.length_drop]; omega⟩
  · rw [h.left.rest, hlines, List.drop_append_of_le_length hle]
  · rw [h.right.rest, whole, hlines, List.append_assoc, ← List.drop_drop, List.drop_left, List.append_assoc,
      List.drop_append_of_le_length hle]
    rfl

/-- At the end of the text what comes after it is left. -/
theorem rest_of_end (h : x.Meets x.text.length s t) : s.rest = [] ∧ t.rest = x.after := by
  refine ⟨by rw [h.left.rest, List.drop_length], ?_⟩
  rw [h.right.rest, whole, ← List.length_append, List.drop_left]

theorem length_rest (h : x.Meets i s t) (hi : i ≤ x.text.length) :
    s.rest.length + i = x.text.length ∧ t.rest.length + i = x.text.length + x.after.length := by
  have hwhole : x.whole.length = x.before.length + x.text.length + x.after.length := by
    rw [whole, List.length_append, List.length_append]
  rw [h.left.rest, h.right.rest, List.length_drop, List.length_drop]
  omega

/-- The next character is the same. -/
theorem exists_head (h : x.Meets i s t) (hi : i < x.text.length) :
    ∃ c cs ds, s.rest = c :: cs ∧ t.rest = c :: ds := by
  obtain ⟨body, hs, ht, -⟩ := h.exists_rest hi
  cases body with
  | nil => exact ⟨_, _, _, hs, ht⟩
  | cons c body => exact ⟨_, _, _, hs, ht⟩

/-- A character that is no line end stands before the end of the line. -/
theorem exists_cons {body : List Char} (hs : s.rest = c :: cs) (hbody : s.rest = body ++ ['\n'])
    (hc : c ≠ '\n') : ∃ cs', body = c :: cs' := by
  rw [hs] at hbody
  cases body with
  | nil => exact absurd (List.cons.inj hbody).1 hc
  | cons d cs' => exact ⟨cs', by rw [(List.cons.inj hbody).1]⟩

theorem head?_rest (h : x.Meets i s t) (hi : i < x.text.length) : t.rest.head? = s.rest.head? := by
  obtain ⟨c, cs, ds, hs, ht⟩ := h.exists_head hi
  rw [hs, ht, List.head?_cons, List.head?_cons]

theorem isEmpty_brackets (h : x.Meets i s t) : t.brackets.isEmpty = s.brackets.isEmpty := by
  rw [← List.isEmpty_map (f := Bracket.char), h.brackets, List.isEmpty_map]

theorem take_rest (h : x.Meets i s t) (hn : i + n < x.text.length) : t.rest.take n = s.rest.take n := by
  obtain ⟨body, hs, ht, hlength⟩ := h.exists_rest (by omega)
  have hle : n ≤ body.length := by omega
  rw [hs, ht, List.take_append_of_le_length hle, List.take_append_of_le_length hle]

theorem head?_eq (h : x.Meets i s t) : s.rest.head? = x.text[i]? := by
  rw [h.left.rest, List.head?_drop]

/-! ## Lengths within a line -/

theorem letters?_eq (h : x.Meets i s t) (hi : i < x.text.length) :
    Quotation.letters? t.rest = Quotation.letters? s.rest := by
  obtain ⟨body, hs, ht, -⟩ := h.exists_rest hi
  rw [hs, ht, Quotation.letters?_line]

theorem wordLength_eq (h : x.Meets i s t) (hi : i < x.text.length) : wordLength t.rest = wordLength s.rest := by
  obtain ⟨body, hs, ht, -⟩ := h.exists_rest hi
  rw [hs, ht, (staysInLine_wordLength body).same]

/-- After a character that is no line end the next one is the same. -/
theorem head?_drop_one (h : x.Meets i s t) (hi : i < x.text.length) (hrest : s.rest = c :: cs) (hc : c ≠ '\n') :
    (t.rest.drop 1).head? = (s.rest.drop 1).head? := by
  obtain ⟨body, hs, ht, -⟩ := h.exists_rest hi
  obtain ⟨cs', rfl⟩ := exists_cons hrest hs hc
  rw [hs, ht]
  exact head?_line x.after

/-! ## Single lexemes -/

/-- Tokens for the same characters from the cursors on. -/
theorem cuts (h : x.Meets i s t) (hn : 0 < n) (hlt : i + n < x.text.length)
    (hblank : ∀ c ∈ s.rest.head?, Text.isBlank c = false) (kind : TokenKind) (chars : List Char)
    (hs : s'.position = (s.advance n).position) (ht : t'.position = (t.advance n).position) :
    x.Cuts i (i + n) (Cursor.token kind chars s s', Cursor.token kind chars t t') := by
  refine ⟨rfl, fun _ => ⟨i, i + n, le_rfl, le_rfl, by omega, hlt, by rwa [h.head?_eq] at hblank, ?_, ?_⟩⟩
  · show (⟨s.position, s'.position⟩ : Span) = _
    rw [hs, h.left.position, (h.advance n).left.position]
  · show (⟨t.position, t'.position⟩ : Span) = _
    rw [ht, h.right.position, (h.advance n).right.position]

end Meets

variable (x) in
/-- Two cursors cut off a lexeme each, which is the same. -/
def CutsOff (i : ℕ) (s t : Cursor) (r r' : List Token × Option Cursor) : Prop :=
  ∃ p j s' t', r = ([p.1], some s') ∧ r' = ([p.2], some t') ∧ p.1.isWritten = true ∧ j < x.text.length ∧
    (s'.levels = s.levels ∧ t'.levels = t.levels) ∧ x.Goes i [p] j s' t'

namespace Meets

variable {r : List Token × Option Cursor}

/-- The same characters are taken as a token. -/
theorem take (h : x.Meets i s t) {kind : TokenKind} (hkind : (Cursor.token kind [] s s).isWritten = true)
    (hn : 0 < n) (hlt : i + n < x.text.length) (hblank : ∀ c ∈ s.rest.head?, Text.isBlank c = false) :
    x.CutsOff i s t (s.take kind n) (t.take kind n) := by
  rw [Cursor.take, Cursor.take, h.take_rest hlt]
  refine ⟨(_, _), _, _, _, rfl, rfl, hkind, hlt, by simp, by omega, hlt.le, h.advance n, ?_⟩
  rintro p hp
  obtain rfl := List.mem_singleton.1 hp
  exact h.cuts hn hlt hblank kind _ rfl rfl

/-- What starts with letters before a quote does not start with a blank. -/
theorem isBlank_of_letters? {letters : List Char} (h : Quotation.letters? (c :: cs) = some letters) :
    Text.isBlank c = false := by
  have hmem := List.mem_of_find?_eq_some h
  have hmatch := List.find?_some h
  rw [Bool.and_eq_true, beq_iff_eq] at hmatch
  rw [← Bool.not_eq_true]
  intro hblank
  cases letters with
  | nil =>
    have hquote : Quotation.isQuote c = true := hmatch.2
    rw [Quotation.isQuote, Bool.or_eq_true, beq_iff_eq, beq_iff_eq] at hquote
    rcases hquote with rfl | rfl <;> exact absurd hblank (by decide)
  | cons d letters =>
    have hd : c.toLower = d := (List.cons.inj hmatch.1).1
    rw [Text.toLower_of_isBlank hblank] at hd
    have hall : ∀ p ∈ Quotation.prefixes, p.all (!Text.isBlank ·) = true := by decide
    have hletter := List.all_eq_true.1 (hall _ hmem) d List.mem_cons_self
    rw [← hd, hblank] at hletter
    cases hletter

/-- After the letters of a text in quotes its quote comes in the same line. -/
theorem exists_quote {body letters : List Char} (h : Quotation.letters? (body ++ ['\n']) = some letters) :
    ∃ q qs, body.drop letters.length = q :: qs ∧ Quotation.isQuote q = true ∧
      letters.length + qs.length + 1 = body.length := by
  have hmatch := List.find?_some h
  rw [Bool.and_eq_true, List.head?_drop] at hmatch
  rcases Nat.lt_or_ge letters.length body.length with hlt | hge
  · have hquote := hmatch.2
    rw [List.getElem?_append_left hlt, List.getElem?_eq_getElem hlt, Option.any_some] at hquote
    exact ⟨_, _, List.drop_eq_getElem_cons hlt, hquote, by rw [List.length_drop]; omega⟩
  · rw [List.getElem?_append_right hge] at hmatch
    rcases Nat.eq_zero_or_pos (letters.length - body.length) with hzero | hpos
    · rw [hzero] at hmatch
      exact absurd hmatch.2 (by decide)
    · rw [List.getElem?_eq_none (by rw [List.length_singleton]; omega)] at hmatch
      exact absurd hmatch.2 (by decide)

/-- What comes after the letters of a text in quotes is the same up to the end of the text. -/
theorem exists_quoted (h : x.Meets i s t) (hi : i < x.text.length) {letters : List Char}
    (hletters : Quotation.letters? s.rest = some letters) :
    ∃ q qs, Quotation.isQuote q = true ∧ s.rest.drop letters.length = q :: qs ++ ['\n'] ∧
      t.rest.drop letters.length = q :: qs ++ '\n' :: x.after ∧
      i + letters.length + qs.length + 2 = x.text.length := by
  obtain ⟨body, hs, ht, hlength⟩ := h.exists_rest hi
  rw [hs] at hletters
  obtain ⟨q, qs, hdrop, hquote, hqs⟩ := exists_quote hletters
  have hle : letters.length ≤ body.length := by omega
  refine ⟨q, qs, hquote, ?_, ?_, by omega⟩
  · rw [hs, List.drop_append_of_le_length hle, hdrop]
  · rw [ht, List.drop_append_of_le_length hle, hdrop]

/-- **Texts in quotes** are cut off alike. -/
theorem quotation (h : x.Meets i s t) (hi : i < x.text.length) {letters : List Char}
    (hletters : Quotation.letters? s.rest = some letters) (hr : (s.quotation letters.length).2 = some s') :
    x.CutsOff i s t (s.quotation letters.length) (t.quotation letters.length) := by
  obtain ⟨q, qs, hquote, hleft, hright, hlength⟩ := h.exists_quoted hi hletters
  have hblank : ∀ c ∈ s.rest.head?, Text.isBlank c = false := by
    intro c hc
    obtain ⟨cs, hcs⟩ := List.head?_eq_some_iff.1 hc
    rw [hcs] at hletters
    exact isBlank_of_letters? hletters
  rw [Cursor.quotation, hleft] at hr ⊢
  rw [Cursor.quotation, hright]
  simp only [List.cons_append, List.head?_cons, Option.getD_some] at hr ⊢
  cases hn : Quotation.length q (q :: (qs ++ ['\n'])) with
  | error n =>
    rw [hn] at hr
    cases hr
  | ok n =>
    obtain ⟨hsame, hpos, hbound⟩ := Quotation.length_line hquote List.not_mem_nil hn x.after
    rw [List.cons_append] at hsame
    rw [hsame]
    exact h.take rfl (by omega) (by omega) hblank

/-- The token of a bracket is cut off alike, whatever becomes of the brackets that are open. -/
theorem cutsOff_withBrackets (h : x.Meets i s t) (hi : i + 1 < x.text.length)
    (hhead : ∀ d ∈ s.rest.head?, Text.isBlank d = false) (c : Char) {bs bs' : List Bracket}
    (hbs : bs'.map Bracket.char = bs.map Bracket.char) :
    x.CutsOff i s t
      ([Cursor.token .operator [c] s { s.advance 1 with brackets := bs }],
        some { s.advance 1 with brackets := bs })
      ([Cursor.token .operator [c] t { t.advance 1 with brackets := bs' }],
        some { t.advance 1 with brackets := bs' }) := by
  refine ⟨(_, _), i + 1, _, _, rfl, rfl, rfl, by omega, by simp, by omega, hi.le, ?_, ?_⟩
  · exact (h.advance 1).congr ⟨rfl, rfl⟩ ⟨rfl, rfl⟩ (h.advance 1).atLineStart hbs
  · rintro p hp
    obtain rfl := List.mem_singleton.1 hp
    exact h.cuts Nat.one_pos hi hhead .operator [c] rfl rfl

/-- **Brackets** are cut off alike. -/
theorem bracket (h : x.Meets i s t) (hi : i < x.text.length) (hrest : s.rest = c :: cs)
    (hc : "()[]\x7b\x7d".toList.contains c = true) (hr : (s.bracket c).2 = some s') :
    x.CutsOff i s t (s.bracket c) (t.bracket c) := by
  obtain ⟨hblank, hnewline⟩ : Text.isBlank c = false ∧ c ≠ '\n' := by
    have hall : "()[]\x7b\x7d".toList.all (fun c => !Text.isBlank c && c != '\n') = true := by decide
    have hplain := List.all_eq_true.1 hall c (List.contains_iff_mem.1 hc)
    rwa [Bool.and_eq_true, Bool.not_eq_true', bne_iff_ne] at hplain
  obtain ⟨body, hs, -, hlength⟩ := h.exists_rest hi
  obtain ⟨cs', rfl⟩ := exists_cons hrest hs hnewline
  rw [List.length_cons] at hlength
  have hhead : ∀ d ∈ s.rest.head?, Text.isBlank d = false := by
    rw [hrest]
    rintro d ⟨⟩
    exact hblank
  rw [Cursor.bracket] at hr ⊢
  rw [Cursor.bracket, h.length_brackets]
  by_cases hopen : (c == '(' || c == '[' || c == '\x7b') = true
  · rw [if_pos hopen] at hr ⊢
    rw [if_pos hopen]
    -- One more bracket is open in both texts, unless there are too many.
    by_cases hlimit : s.brackets.length ≥ bracketLimit
    · rw [if_pos hlimit] at hr
      cases hr
    · rw [if_neg hlimit, if_neg hlimit]
      refine h.cutsOff_withBrackets (by omega) hhead c ?_
      rw [List.map_cons, List.map_cons, h.brackets]
  · rw [if_neg hopen] at hr ⊢
    rw [if_neg hopen]
    -- A closing bracket must fit the last one that is open, which is the same in both texts.
    have hbrackets := h.brackets
    rcases hb : s.brackets with _ | ⟨b, bs⟩
    · rw [hb] at hr
      cases hr
    rcases hb' : t.brackets with _ | ⟨b', bs'⟩
    · rw [hb, hb'] at hbrackets
      cases hbrackets
    · rw [hb, hb'] at hbrackets
      rw [hb] at hr
      obtain ⟨hchar, hbs⟩ := List.cons.inj hbrackets
      dsimp only at hr ⊢
      rw [hchar]
      split at hr
      · rename_i hfits
        rw [if_pos hfits, if_pos hfits]
        exact h.cutsOff_withBrackets (by omega) hhead c hbs
      · cases hr

/-- **Words** are cut off alike. -/
theorem word (h : x.Meets i s t) (hi : i < x.text.length) (hrest : s.rest = c :: cs)
    (hword : isWordStart c = true) (hn : wordLength s.rest = .ok n) :
    wordLength t.rest = .ok n ∧ i + n < x.text.length ∧ ∀ kind, (Cursor.token kind [] s s).isWritten = true →
      x.CutsOff i s t (s.take kind n) (t.take kind n) := by
  have hsame : wordLength t.rest = .ok n := (h.wordLength_eq hi).trans hn
  obtain ⟨body, hs, -, hlength⟩ := h.exists_rest hi
  rw [hrest] at hn
  obtain ⟨hpos, hstart⟩ := wordLength_pos hword hn
  rw [← hrest, hs] at hn
  have hbounds := (staysInLine_wordLength body).bounds n hn
  refine ⟨hsame, by omega, fun kind hkind => h.take hkind hpos (by omega) ?_⟩
  rw [hrest]
  rintro d ⟨⟩
  exact Text.isBlank_eq_false_of_isIdentifierStart hstart

theorem ne_newline_of_numeral (hc : c.isDigit = true ∨ c = '.') : c ≠ '\n' := by
  rintro rfl
  rcases hc with hc | hc <;> cases hc

theorem numeralLength_eq (h : x.Meets i s t) (hi : i < x.text.length) (hrest : s.rest = c :: cs)
    (hc : c.isDigit = true ∨ c = '.') : Numeral.length t.rest = Numeral.length s.rest := by
  obtain ⟨body, hs, ht, -⟩ := h.exists_rest hi
  obtain ⟨cs', rfl⟩ := exists_cons hrest hs (ne_newline_of_numeral hc)
  rw [hs, ht]
  exact (Numeral.staysInLine_length hc cs').same x.after

/-- **Numerals** are cut off alike. -/
theorem numeral (h : x.Meets i s t) (hi : i < x.text.length) (hrest : s.rest = c :: cs)
    (hc : c.isDigit = true ∨ c = '.') (hn : Numeral.length s.rest = .ok n) :
    Numeral.length t.rest = .ok n ∧ x.CutsOff i s t (s.take .numeral n) (t.take .numeral n) := by
  have hblank : Text.isBlank c = false := by
    rcases hc with hc | rfl
    · rw [Char.isDigit, Bool.and_eq_true, decide_eq_true_eq, decide_eq_true_eq] at hc
      have hle : 48 ≤ c.toNat := UInt32.le_iff_toNat_le.1 hc.1
      have hge : c.toNat ≤ 57 := UInt32.le_iff_toNat_le.1 hc.2
      rw [← Bool.not_eq_true, Text.isBlank_iff]
      omega
    · decide
  obtain ⟨body, hs, -, hlength⟩ := h.exists_rest hi
  obtain ⟨cs', rfl⟩ := exists_cons hrest hs (ne_newline_of_numeral hc)
  have hbounds := (Numeral.staysInLine_length hc cs').bounds n (by rw [← hn, hs]; rfl)
  rw [List.length_cons] at hlength
  refine ⟨(h.numeralLength_eq hi hrest hc).trans hn, h.take rfl (by omega) (by omega) ?_⟩
  rw [hrest]
  rintro d ⟨⟩
  exact hblank

/-- **Operators** are cut off alike. -/
theorem operator (h : x.Meets i s t) (hi : i < x.text.length) (hrest : s.rest = c :: cs)
    (hc : c ≠ ' ' ∧ c ≠ '\n') (hascii : c.toNat < 0x80) (hprintable : Text.isPrintable c = true) :
    x.CutsOff i s t (s.take .operator (operatorLength s.rest)) (t.take .operator (operatorLength t.rest)) := by
  obtain ⟨body, hs, ht, hlength⟩ := h.exists_rest hi
  obtain ⟨cs', rfl⟩ := exists_cons hrest hs hc.2
  have hbounds := operatorLength_bounds (List.cons_ne_nil c cs')
  have hsame (rest : List Char) : operatorLength (c :: cs' ++ '\n' :: rest) = operatorLength (c :: cs') :=
    operatorLength_line _ rest
  rw [hs, ht, hsame, hsame]
  refine h.take rfl hbounds.1 (by omega) ?_
  rw [hrest]
  rintro d ⟨⟩
  exact Text.isBlank_eq_false_of_isPrintable hc.1 hascii hprintable

/-- **Lexemes** are cut off alike. -/
theorem lexeme (h : x.Meets i s t) (hi : i < x.text.length) (hrest : s.rest = c :: cs)
    (hc : c ≠ ' ' ∧ c ≠ '\n') (hr : (s.lexeme c).2 = some s') :
    x.CutsOff i s t (s.lexeme c) (t.lexeme c) := by
  rw [Cursor.lexeme] at hr ⊢
  rw [Cursor.lexeme, h.letters?_eq hi, h.head?_drop_one hi hrest hc.2]
  cases hquote : Quotation.letters? s.rest with
  | some letters =>
    rw [hquote] at hr
    exact h.quotation hi hquote hr
  | none =>
    rw [hquote] at hr
    dsimp only at hr ⊢
    by_cases hword : isWordStart c = true
    · rw [if_pos hword] at hr ⊢
      rw [if_pos hword]
      cases hn : wordLength s.rest with
      | error e =>
        rw [hn] at hr
        exact absurd hr (by rw [Cursor.refuseLexeme_snd]; simp)
      | ok n =>
        obtain ⟨hn', hlt, htake⟩ := h.word hi hrest hword hn
        rw [hn']
        dsimp only
        rw [h.take_rest hlt]
        refine htake _ ?_
        split <;> rfl
    rw [if_neg hword] at hr ⊢
    rw [if_neg hword]
    by_cases hdigit : (c.isDigit || (c == '.' && (s.rest.drop 1).head?.any Char.isDigit)) = true
    · rw [if_pos hdigit] at hr ⊢
      rw [if_pos hdigit]
      have hnumeral : c.isDigit = true ∨ c = '.' := by
        rw [Bool.or_eq_true, Bool.and_eq_true, beq_iff_eq] at hdigit
        exact hdigit.imp_right And.left
      cases hn : Numeral.length s.rest with
      | error e =>
        rw [hn] at hr
        exact absurd hr (by rw [Cursor.refuseLexeme_snd]; simp)
      | ok n =>
        obtain ⟨hn', htake⟩ := h.numeral hi hrest hnumeral hn
        rw [hn']
        exact htake
    rw [if_neg hdigit] at hr ⊢
    rw [if_neg hdigit]
    by_cases hbracket : "()[]\x7b\x7d".toList.contains c = true
    · rw [if_pos hbracket] at hr ⊢
      rw [if_pos hbracket]
      exact h.bracket hi hrest hbracket hr
    rw [if_neg hbracket] at hr ⊢
    rw [if_neg hbracket]
    by_cases hprintable : (!Text.isPrintable c) = true
    · rw [if_pos hprintable] at hr
      cases hr
    · rw [if_neg hprintable, if_neg hprintable]
      refine h.operator hi hrest hc ?_ (by simpa using hprintable)
      -- Only words go beyond ASCII.
      rw [Bool.or_eq_true, not_or] at hdigit
      simp only [isWordStart, isWordPart, Bool.and_eq_true, Bool.or_eq_true, decide_eq_true_eq,
        Bool.not_eq_true'] at hword
      by_contra hwide
      exact hword ⟨.inr (by omega), by simpa using hdigit.1⟩

end Meets

end Excerpt

end SpriteStage.Script
