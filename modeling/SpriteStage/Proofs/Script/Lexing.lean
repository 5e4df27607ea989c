import SpriteStage.Proofs.Script.Numeral
import SpriteStage.Proofs.Script.Quotation
import SpriteStage.Proofs.Script.Word
import SpriteStage.Script.Token.Stream

/-!
# Lexing by lexemes

The grammar looks at what tokens are, not at where they stand.  This module follows the lexer through
a text whose lines are indented by four blanks a level and whose only brackets are parentheses.  The
tokens from a place on are found from the end of the text backwards: what a lexeme adds to the tokens
after it, what the end of a line adds, and what the beginning of a line adds.

## Main definitions

* `Script.Lexeme` is what a token is, apart from its place
* `Script.turn` are the indents and dedents between two levels
* `Script.Gives` says what is read from a place on
* `Script.CutsOff` says that a lexeme is cut off the characters after it
-/

namespace SpriteStage.Script

/-- What a token is, apart from its place: its kind and its characters. -/
abbrev Lexeme := TokenKind × List Char

def Token.lexeme (t : Token) : Lexeme := (t.kind, t.chars)

/-- The open levels of `n` indentations by four blanks, the innermost first. -/
def levelsOf : ℕ → List Indentation
  | 0 => []
  | n + 1 => ⟨4 * (n + 1), 4 * (n + 1)⟩ :: levelsOf n

/-- What comes before a line of a level that follows a line of another level: an indent, dedents, or
    nothing. -/
def turn (before level : ℕ) : List Lexeme :=
  if before < level then [(.indent, [])] else List.replicate (before - level) (.dedent, [])

theorem length_levelsOf (n : ℕ) : (levelsOf n).length = n := by
  induction n with
  | zero => rfl
  | succ n ih => rw [levelsOf, List.length_cons, ih]

theorem head_levelsOf (n : ℕ) : (levelsOf n).head?.getD {} = ⟨4 * n, 4 * n⟩ := by
  cases n <;> rfl

theorem turn_self (level : ℕ) : turn level level = [] := by simp [turn]

/-- From an outer level the dedents go on where those to an inner one stop. -/
theorem turn_succ {before level : ℕ} (h : level < before) (ls : List Lexeme) :
    turn before level ++ ls = turn before (level + 1) ++ (.dedent, []) :: ls := by
  -- One dedent more is written at the end of the list, where the others go on.
  obtain ⟨n, rfl⟩ : ∃ n, before = level + 1 + n := ⟨before - (level + 1), by omega⟩
  have hleft : level + 1 + n - level = n + 1 := by omega
  have hright : level + 1 + n - (level + 1) = n := by omega
  rw [turn, turn, if_neg (by omega), if_neg (by omega), hleft, hright, List.replicate_succ']
  simp

namespace Cursor

/-! ## Going over characters -/

section

variable (n : ℕ) (s : Cursor)

@[simp] theorem advance_rest : (s.advance n).rest = s.rest.drop n := by
  induction n generalizing s with
  | zero => rfl
  | succ n ih =>
    rw [advance]
    split
    · rename_i h
      rw [h, List.drop_nil]
    · rename_i h
      rw [ih, h, List.drop_succ_cons]

@[simp] theorem advance_levels : (s.advance n).levels = s.levels := by
  induction n generalizing s with
  | zero => rfl
  | succ n ih => rw [advance]; split <;> simp [ih]

@[simp] theorem advance_brackets : (s.advance n).brackets = s.brackets := by
  induction n generalizing s with
  | zero => rfl
  | succ n ih => rw [advance]; split <;> simp [ih]

@[simp] theorem advance_atLineStart : (s.advance n).atLineStart = s.atLineStart := by
  induction n generalizing s with
  | zero => rfl
  | succ n ih => rw [advance]; split <;> simp [ih]

end

/-- What the lexer sees at a cursor: the characters still to be read, the number of open levels and
    of open parentheses, and whether the line has just begun. -/
structure Sees (s : Cursor) (isStart : Bool) (level depth : ℕ) (cs : List Char) : Prop where
  rest : s.rest = cs
  atLineStart : s.atLineStart = isStart
  levels : s.levels = levelsOf level
  brackets : s.brackets.map Bracket.char = List.replicate depth '('

namespace Sees

variable {s : Cursor} {isStart : Bool} {level depth : ℕ} {cs : List Char}

/-- Going over characters leaves the rest of them. -/
theorem advance {ds : List Char} (h : s.Sees isStart level depth (ds ++ cs)) :
    (s.advance ds.length).Sees isStart level depth cs where
  rest := by rw [advance_rest, h.rest, List.drop_left]
  atLineStart := by rw [advance_atLineStart, h.atLineStart]
  levels := by rw [advance_levels, h.levels]
  brackets := by rw [advance_brackets, h.brackets]

theorem advance_one {c : Char} (h : s.Sees isStart level depth (c :: cs)) :
    (s.advance 1).Sees isStart level depth cs :=
  advance (show s.Sees isStart level depth ([c] ++ cs) from h)

/-- The number of open brackets is that of the parentheses. -/
theorem length_brackets (h : s.Sees isStart level depth cs) : s.brackets.length = depth := by
  have hlength := congrArg List.length h.brackets
  rwa [List.length_map, List.length_replicate] at hlength

theorem brackets_eq_nil (h : s.Sees isStart level 0 cs) : s.brackets = [] :=
  List.length_eq_zero_iff.1 h.length_brackets

end Sees

end Cursor

open Cursor (Sees)

/-- What the lexer gives from a place on, with enough fuel. -/
def Gives (isStart : Bool) (level depth : ℕ) (cs : List Char) (ls : List Lexeme) : Prop :=
  ∀ s : Cursor, s.Sees isStart level depth cs → ∀ fuel, cs.length < fuel →
    (s.tokens fuel).map Token.lexeme = ls

/-- A step that goes over characters adds its tokens to those after it. -/
theorem Gives.step {isStart isStart' : Bool} {level level' depth depth' : ℕ} {cs cs' : List Char}
    {ls ls' : List Lexeme}
    (hstep : ∀ s : Cursor, s.Sees isStart level depth cs → ∃ ts next, s.step = (ts, some next) ∧
      ts.map Token.lexeme = ls ∧ next.Sees isStart' level' depth' cs')
    (hlength : cs'.length < cs.length) (hrest : Gives isStart' level' depth' cs' ls') :
    Gives isStart level depth cs (ls ++ ls') := by
  intro s hs fuel hfuel
  obtain ⟨ts, next, heq, hts, hnext⟩ := hstep s hs
  cases fuel with
  | zero => exact absurd hfuel (Nat.not_lt_zero _)
  | succ fuel =>
    rw [Cursor.tokens, heq]
    show (ts ++ next.tokens fuel).map Token.lexeme = _
    rw [List.map_append, hts, hrest next hnext fuel (by omega)]

/-! ## Lexemes within a line -/

/-- Whether a lexeme starts with a character: what is skipped before a lexeme, ends a line or joins
    two lines does not. -/
def startsLexeme (c : Char) : Bool := !" \t\x0c#\n\\".toList.contains c

theorem startsLexeme_iff {c : Char} :
    startsLexeme c = true ↔ c ≠ ' ' ∧ c ≠ '\t' ∧ c ≠ '\x0c' ∧ c ≠ '#' ∧ c ≠ '\n' ∧ c ≠ '\\' := by
  simp [startsLexeme]

/-- A lexeme is cut off the characters after it, and it leaves `depth'` parentheses open. -/
def CutsOff (depth : ℕ) (x : Lexeme) (rest : List Char) (depth' : ℕ) : Prop :=
  ∃ c cs, x.2 = c :: cs ∧ startsLexeme c = true ∧
    ∀ (s : Cursor) (level : ℕ), s.Sees false level depth (x.2 ++ rest) →
      ∃ t next, s.lexeme c = ([t], some next) ∧ t.lexeme = x ∧ next.Sees false level depth' rest

section

variable {level depth depth' : ℕ} {x : Lexeme} {rest : List Char}

theorem CutsOff.length_lt (hx : CutsOff depth x rest depth') (n : ℕ) :
    rest.length < (List.replicate n ' ' ++ (x.2 ++ rest)).length := by
  obtain ⟨c, cs, hchars, -⟩ := hx
  rw [hchars, List.length_append, List.cons_append, List.length_cons, List.length_append]
  omega

/-- Blanks before a lexeme are skipped. -/
theorem CutsOff.lexemeOrEnd (hx : CutsOff depth x rest depth') {s : Cursor} {n : ℕ}
    (hs : s.Sees false level depth (List.replicate n ' ' ++ (x.2 ++ rest))) (isBlank : Bool) :
    ∃ t next, s.lexemeOrEnd isBlank = ([t], some next) ∧ t.lexeme = x ∧
      next.Sees false level depth' rest := by
  obtain ⟨c, cs, hchars, hstart, hcut⟩ := hx
  have hc := startsLexeme_iff.1 hstart
  -- The blanks end where the lexeme starts.
  have hskip : (s.rest.takeWhile fun c => c == ' ' || c == '\t' || c == '\x0c') =
      List.replicate n ' ' := by
    rw [hs.rest, List.takeWhile_append_of_pos, hchars, List.cons_append, List.takeWhile_cons_of_neg,
      List.append_nil]
    · simp [hc]
    · intro d hd
      rw [List.eq_of_mem_replicate hd]
      rfl
  have hafter : (s.advance (List.replicate n ' ').length).Sees false level depth (x.2 ++ rest) :=
    hs.advance
  obtain ⟨t, next, hlexeme, ht, hnext⟩ := hcut _ level hafter
  refine ⟨t, next, ?_, ht, hnext⟩
  have hhead := hafter.rest
  rw [hchars, List.cons_append] at hhead
  rw [Cursor.lexemeOrEnd, hskip]
  simp only [hhead, List.head?_cons, beq_iff_eq, Option.some.injEq, hc, if_false]
  -- What starts a lexeme is neither a comment, a line end nor a joined line.
  split
  · rename_i h
    cases h
  · rename_i h
    exact absurd (List.cons.inj h).1 hc.2.2.2.2.1
  · rename_i h
    exact absurd (List.cons.inj h).1 hc.2.2.2.2.2
  · rename_i h
    rw [← (List.cons.inj h).1]
    exact hlexeme

/-- **A lexeme within a line** comes before the tokens after it. -/
theorem Gives.lexeme (hx : CutsOff depth x rest depth') (n : ℕ) {ls : List Lexeme}
    (h : Gives false level depth' rest ls) :
    Gives false level depth (List.replicate n ' ' ++ (x.2 ++ rest)) (x :: ls) := by
  rw [← List.singleton_append]
  refine Gives.step (fun s hs => ?_) (hx.length_lt n) h
  obtain ⟨t, next, heq, ht, hnext⟩ := hx.lexemeOrEnd hs false
  refine ⟨[t], next, ?_, by rw [List.map_singleton, ht], hnext⟩
  rw [Cursor.step, hs.atLineStart]
  exact heq

end

/-! ## Ends and beginnings of lines -/

section

variable {level : ℕ} {rest : List Char} {ls : List Lexeme}

/-- **The end of a line** outside brackets is a token. -/
theorem Gives.newline (h : Gives true level 0 rest ls) :
    Gives false level 0 ('\n' :: rest) ((.newline, []) :: ls) := by
  show Gives false level 0 ('\n' :: rest) ([(.newline, [])] ++ ls)
  refine Gives.step (fun s hs => ?_) (Nat.lt_succ_self _) h
  have hbrackets := hs.brackets_eq_nil
  have hskip : (s.rest.takeWhile fun c => c == ' ' || c == '\t' || c == '\x0c') = [] := by
    rw [hs.rest]
    rfl
  have hstep : s.step = s.lineEnd s false := by
    rw [Cursor.step, hs.atLineStart]
    show s.lexemeOrEnd false = _
    rw [Cursor.lexemeOrEnd, hskip]
    simp [Cursor.advance, hs.rest]
  have hafter : (s.advance 1).Sees false level 0 rest := hs.advance_one
  rw [hstep, Cursor.lineEnd, hbrackets]
  exact ⟨_, _, rfl, rfl, hafter.rest, rfl, hafter.levels, hafter.brackets⟩

/-- The white space before a line is measured. -/
theorem measure_replicate {c : Char} {cs : List Char} (hc : startsLexeme c = true) (n : ℕ)
    {i : Indentation} {fuel : ℕ} (hfuel : n < fuel) {s : Cursor}
    (hs : s.rest = List.replicate n ' ' ++ c :: cs) :
    Cursor.measure 0 i fuel s = .ok (⟨i.width + n, i.narrow + n⟩, s.advance n) := by
  have hc' := startsLexeme_iff.1 hc
  -- By induction on the blanks that are still to be measured.
  induction n generalizing i fuel s with
  | zero =>
    obtain ⟨fuel, rfl⟩ : ∃ m, fuel = m + 1 := ⟨fuel - 1, by omega⟩
    rw [List.replicate_zero, List.nil_append] at hs
    rw [Cursor.measure, hs]
    simp [hc', Cursor.advance]
  | succ n ih =>
    obtain ⟨fuel, rfl⟩ : ∃ m, fuel = m + 1 := ⟨fuel - 1, by omega⟩
    rw [List.replicate_succ, List.cons_append] at hs
    have hone : (s.advance 1).rest = List.replicate n ' ' ++ c :: cs := by
      rw [Cursor.advance_rest, hs]
      rfl
    have hadvance : (s.advance 1).advance n = s.advance (n + 1) := by
      rw [Cursor.advance, Cursor.advance, hs]
      rfl
    rw [Cursor.measure, hs]
    simp only [beq_self_eq_true, Bool.true_or, if_true]
    rw [ih (Nat.lt_of_succ_lt_succ hfuel) hone, hadvance]
    simp [Indentation.widen, Nat.add_assoc, Nat.add_comm 1]

/-- The dedents down to a level. -/
theorem dedents_levelsOf (s : Cursor) {before level : ℕ} (h : level ≤ before) :
    Cursor.dedents s (4 * level) (levelsOf before) =
      (List.replicate (before - level) (Cursor.mark .dedent s), levelsOf level) := by
  -- By induction on the open levels, which are closed from the innermost one on.
  induction before with
  | zero =>
    rw [Nat.le_zero.1 h]
    rfl
  | succ before ih =>
    rw [levelsOf, Cursor.dedents]
    rcases Nat.lt_or_ge before level with hlt | hge
    · have heq : level = before + 1 := by omega
      rw [if_neg (by show ¬ 4 * level < 4 * (before + 1); omega), heq, Nat.sub_self]
      rfl
    · rw [if_pos (by show 4 * level < 4 * (before + 1); omega), ih hge,
        Nat.succ_sub hge, List.replicate_succ]

/-- **The white space before a line** gives the indents and dedents up to its level. -/
theorem exists_indent {s : Cursor} {before : ℕ} (hs : s.levels = levelsOf before)
    (hnext : level ≤ before + 1) (hlimit : level ≤ levelLimit) :
    ∃ ts, s.indent ⟨4 * level, 4 * level⟩ = .ok (ts, { s with levels := levelsOf level }) ∧
      ts.map Token.lexeme = turn before level := by
  rw [Cursor.indent, hs, head_levelsOf]
  -- A line goes out by dedents, stays where it is, or goes in by one indent.
  rcases Nat.lt_trichotomy level before with hlt | heq | hgt
  · refine ⟨List.replicate (before - level) (Cursor.mark .dedent s), ?_, ?_⟩
    · simp only [dedents_levelsOf s hlt.le, head_levelsOf]
      rw [if_neg (by simp; omega), if_neg (by show ¬ 4 * before < 4 * level; omega)]
      simp
    · rw [turn, if_neg (by omega), List.map_replicate]
      rfl
  · subst heq
    refine ⟨[], ?_, ?_⟩
    · simp [← hs]
    · rw [turn_self]
      rfl
  · have heq : level = before + 1 := by omega
    subst heq
    refine ⟨[Cursor.mark .indent s], ?_, ?_⟩
    · simp only
      rw [if_neg (by simp), if_pos (by omega), if_neg (by rw [length_levelsOf]; omega),
        if_neg (by omega)]
      rfl
    · rw [turn, if_pos (by omega)]
      rfl

/-- The step at the beginning of a line that is not blank, outside brackets. -/
theorem step_line {s u t : Cursor} {i : Indentation} {ts ts' : List Token} {next : Option Cursor}
    (hs : s.atLineStart = true)
    (hmeasure : Cursor.measure 0 {} (s.rest.length + 1) s = .ok (i, u))
    (hhead : ∀ c ∈ u.rest.head?, c ≠ '#' ∧ c ≠ '\n') (hbrackets : u.brackets = [])
    (hindent : Cursor.indent i { u with atLineStart := false } = .ok (ts, t))
    (hlexeme : t.lexemeOrEnd false = (ts', next)) : s.step = (ts ++ ts', next) := by
  have hblank : (u.rest.head? == some '#' || u.rest.head? == some '\n') = false := by
    cases hcs : u.rest.head? with
    | none => rfl
    | some c => simpa using hhead c hcs
  rw [Cursor.step, if_pos hs, hmeasure]
  dsimp only
  rw [if_neg (by simp [hblank, hbrackets]), hindent]
  dsimp only
  rw [hlexeme]

/-- **The beginning of a line**: after the indents and dedents comes the first lexeme of the line. -/
theorem Gives.line {before depth' : ℕ} {x : Lexeme} (hx : CutsOff 0 x rest depth')
    (hnext : level ≤ before + 1) (hlimit : level ≤ levelLimit) (h : Gives false level depth' rest ls) :
    Gives true before 0 (List.replicate (4 * level) ' ' ++ (x.2 ++ rest))
      (turn before level ++ x :: ls) := by
  rw [← List.singleton_append, ← List.append_assoc (turn before level)]
  refine Gives.step (fun s hs => ?_) (hx.length_lt (4 * level)) h
  obtain ⟨c, cs, hchars, hstart, -⟩ := id hx
  have hrest : s.rest = List.replicate (4 * level) ' ' ++ c :: (cs ++ rest) := by
    rw [hs.rest, hchars, List.cons_append]
  have hfuel : 4 * level < s.rest.length + 1 := by
    rw [hrest, List.length_append, List.length_replicate]
    omega
  have hmeasure := measure_replicate hstart (4 * level) (i := {}) hfuel hrest
  have hblank : (s.advance (4 * level)).rest = c :: (cs ++ rest) := by
    rw [Cursor.advance_rest, hrest, List.drop_left' List.length_replicate]
  have hbrackets : (s.advance (4 * level)).brackets = [] := by
    rw [Cursor.advance_brackets, hs.brackets_eq_nil]
  have hlevels : (s.advance (4 * level)).levels = levelsOf before := by
    rw [Cursor.advance_levels, hs.levels]
  -- Only what the lexer sees after the blanks matters from here on.
  generalize s.advance (4 * level) = u at hmeasure hblank hbrackets hlevels
  obtain ⟨ts, hindent, hts⟩ := exists_indent (s := { u with atLineStart := false })
    hlevels hnext hlimit
  have hsees : ({ u with atLineStart := false, levels := levelsOf level } : Cursor).Sees
      false level 0 (List.replicate 0 ' ' ++ (x.2 ++ rest)) :=
    ⟨by rw [hchars]; exact hblank, rfl, rfl, by rw [hbrackets]; rfl⟩
  obtain ⟨t, next, hlexeme, ht, hsees'⟩ := hx.lexemeOrEnd hsees false
  rw [Nat.zero_add] at hmeasure
  refine ⟨ts ++ [t], next, step_line hs.atLineStart hmeasure ?_ hbrackets hindent hlexeme,
    by rw [List.map_append, hts, List.map_singleton, ht], hsees'⟩
  rw [hblank]
  rintro d ⟨⟩
  constructor <;> rintro rfl <;> cases hstart

/-- **The end of the text**: the levels that are still open end before the end marker. -/
theorem Gives.finish (before : ℕ) :
    Gives true before 0 [] (turn before 0 ++ [(.finish, [])]) := by
  intro s hs fuel hfuel
  obtain ⟨fuel, rfl⟩ : ∃ n, fuel = n + 1 := ⟨fuel - 1, by simp at hfuel; omega⟩
  have hbrackets := hs.brackets_eq_nil
  obtain ⟨ts, hindent, hts⟩ := exists_indent (s := { s with atLineStart := false }) hs.levels
    (Nat.zero_le (before + 1)) (Nat.zero_le levelLimit)
  -- Nothing is left, and nothing is open.
  have hlexeme : ({ s with atLineStart := false, levels := [] } : Cursor).lexemeOrEnd false =
      ([Cursor.mark .finish { s with atLineStart := false, levels := [] }], none) := by
    simp [Cursor.lexemeOrEnd, Cursor.finish, Cursor.unclosed?, hs.rest, hbrackets]
    rfl
  have hmeasure : Cursor.measure 0 {} (s.rest.length + 1) s = .ok ({}, s) := by
    rw [Cursor.measure, hs.rest]
    rfl
  have hstep := step_line hs.atLineStart hmeasure (by rw [hs.rest]; rintro c ⟨⟩) hbrackets hindent
    hlexeme
  rw [Cursor.tokens, hstep]
  show (ts ++ _).map Token.lexeme = _
  rw [List.map_append, hts]
  rfl

end

/-! ## The lexemes of a listing -/

section

variable {depth : ℕ} {rest : List Char}

/-- A lexeme that is a stretch of characters without brackets. -/
theorem CutsOff.of_take {x : Lexeme} {c : Char} {cs : List Char} (hchars : x.2 = c :: cs)
    (hstart : startsLexeme c = true)
    (hlexeme : ∀ s : Cursor, s.rest = x.2 ++ rest → s.lexeme c = s.take x.1 x.2.length) :
    CutsOff depth x rest depth := by
  refine ⟨c, cs, hchars, hstart, fun s level hs => ?_⟩
  refine ⟨Cursor.token x.1 (s.rest.take x.2.length) s (s.advance x.2.length), _,
    hlexeme s hs.rest, ?_, hs.advance⟩
  rw [hs.rest, List.take_left]
  rfl

theorem startsLexeme_of_isWordPart {c : Char} (hc : isWordPart c = true) :
    startsLexeme c = true := by
  have hne : ∀ d : Char, isWordPart d = false → c ≠ d := by
    rintro d hd rfl
    rw [hc] at hd
    cases hd
  exact startsLexeme_iff.2 ⟨hne _ (by decide), hne _ (by decide), hne _ (by decide),
    hne _ (by decide), hne _ (by decide), hne _ (by decide)⟩

/-- **Words** are names or keywords. -/
theorem cutsOff_word {w : List Char} (hw : Text.isIdentifier w = true) (hrest : EndsWord rest) :
    CutsOff depth (if isKeyword w then .keyword else .name, w) rest depth := by
  obtain ⟨c, cs, rfl⟩ : ∃ c cs, w = c :: cs := by
    cases w with
    | nil => cases hw
    | cons c cs => exact ⟨c, cs, rfl⟩
  have hstart : isWordStart c = true := by
    simp only [Text.isIdentifier, Bool.and_eq_true] at hw
    exact Text.isWordStart_of_isIdentifierStart hw.1
  refine .of_take rfl (startsLexeme_of_isWordPart ?_) fun s hs => ?_
  · exact Text.isWordPart_of_mem_identifier hw List.mem_cons_self
  · rw [Cursor.lexeme, hs, letters?_word hw hrest, wordLength_append hw hrest]
    simp only [hstart, if_true, List.take_left]

/-- **Numerals** end before a closing parenthesis. -/
theorem cutsOff_numeral {p : SpriteStage.Numeral.Parts} (hp : p.WellFormed) (hpad : p.Unpadded) :
    CutsOff depth (.numeral, p.chars) (')' :: rest) depth := by
  obtain ⟨c, cs, hchars, hc, -⟩ := Numeral.exists_chars_cons hp
  have hpart : isWordPart c = true := by simp [isWordPart, Char.isAlphanum, hc]
  refine .of_take hchars (startsLexeme_of_isWordPart hpart) fun s hs => ?_
  have hletters : Quotation.letters? s.rest = none := by
    rw [hs, hchars, List.cons_append]
    exact letters?_digit hc _
  have hstart : isWordStart c = false := by simp [isWordStart, hc]
  rw [Cursor.lexeme, hletters, hs, Numeral.length_chars hp rest hpad]
  simp [hstart, hc]

/-- **Quoted texts** end before a closing parenthesis. -/
theorem cutsOff_text (cs : List Char) :
    CutsOff depth (.text, Text.quoteList cs) (')' :: rest) depth := by
  have hq := Text.isQuote_quoteFor cs
  refine .of_take (Text.quoteList_eq cs) ?_ fun s hs => ?_
  · rw [Quotation.isQuote, Bool.or_eq_true, beq_iff_eq, beq_iff_eq] at hq
    rcases hq with h | h <;> rw [h] <;> decide
  · have hletters : Quotation.letters? s.rest = some [] := by
      rw [hs, Text.quoteList_eq, List.cons_append]
      exact Quotation.letters?_quote hq _
    have hhead : (Text.quoteList cs ++ ')' :: rest).head?.getD '"' = Text.quoteFor cs := rfl
    rw [Cursor.lexeme, hletters]
    show s.quotation 0 = _
    rw [Cursor.quotation]
    simp only [List.drop_zero, hs, hhead, Quotation.length_quoteList, Nat.zero_add]

theorem lexeme_parenthesis {c : Char} (hc : c ∈ ['(', ')']) {s : Cursor} (hs : s.rest = c :: rest) :
    s.lexeme c = s.bracket c := by
  have hletters : Quotation.letters? s.rest = none := by
    rw [hs]
    simp only [List.mem_cons, List.not_mem_nil, or_false] at hc
    rcases hc with rfl | rfl <;> exact letters?_cons rfl (by decide) rest
  rw [Cursor.lexeme, hletters]
  simp only [List.mem_cons, List.not_mem_nil, or_false] at hc
  rcases hc with rfl | rfl <;> rfl

/-- **An opening parenthesis** adds to the open brackets. -/
theorem cutsOff_opening (hdepth : depth < bracketLimit) :
    CutsOff depth (.operator, ['(']) rest (depth + 1) := by
  refine ⟨'(', [], rfl, rfl, fun s level hs => ?_⟩
  have hafter : (s.advance 1).Sees false level depth rest := hs.advance_one
  rw [lexeme_parenthesis (by decide) hs.rest, Cursor.bracket]
  simp only [beq_self_eq_true, Bool.true_or, if_true]
  rw [if_neg (by rw [hs.length_brackets]; omega)]
  refine ⟨_, _, rfl, rfl, hafter.rest, hafter.atLineStart, hafter.levels, ?_⟩
  rw [List.map_cons, hs.brackets, List.replicate_succ]

/-- **A closing parenthesis** fits the last one opened. -/
theorem cutsOff_closing : CutsOff (depth + 1) (.operator, [')']) rest depth := by
  refine ⟨')', [], rfl, rfl, fun s level hs => ?_⟩
  have hafter : (s.advance 1).Sees false level (depth + 1) rest := hs.advance_one
  obtain ⟨b, bs, hcons, hb, hbs⟩ : ∃ b bs, s.brackets = b :: bs ∧ b.char = '(' ∧
      bs.map Bracket.char = List.replicate depth '(' := by
    have hbrackets := hs.brackets
    cases hcons : s.brackets with
    | nil => rw [hcons, List.replicate_succ] at hbrackets; cases hbrackets
    | cons b bs =>
      rw [hcons, List.map_cons, List.replicate_succ] at hbrackets
      exact ⟨b, bs, rfl, List.cons.inj hbrackets⟩
  rw [lexeme_parenthesis (by decide) hs.rest, Cursor.bracket]
  simp only [hcons, hb]
  exact ⟨_, _, rfl, rfl, hafter.rest, hafter.atLineStart, hafter.levels, hbs⟩

/-- The second characters of the operators that start with a point, a minus sign or a colon. -/
theorem operatorLength_short {c d : Char} (hc : c ∈ ['.', '-', ':'])
    (hd : d ≠ '.' ∧ d ≠ '=' ∧ d ≠ '>') {ds : List Char} : operatorLength (c :: d :: ds) = 1 := by
  -- The second character of no longer operator comes next.
  have hops : ∀ op ∈ longOperators, 2 ≤ op.length ∧ (op.head? ∈ [some '.', some '-', some ':'] →
      op[1]? ∈ [some '.', some '=', some '>']) := by decide
  have hnone : longOperators.find? (·.isPrefixOf (c :: d :: ds)) = none := by
    rw [List.find?_eq_none]
    intro op hop hprefix
    obtain ⟨hlength, hsecond⟩ := hops op hop
    obtain ⟨t, ht⟩ := List.isPrefixOf_iff_prefix.1 hprefix
    match op, hlength with
    | a :: b :: r, _ =>
      obtain ⟨hfirst, htail⟩ := List.cons.inj ht
      obtain ⟨hb, -⟩ := List.cons.inj htail
      have hmem := hsecond (by rw [hfirst]; simpa using hc)
      simp [hb, hd] at hmem
  rw [operatorLength, hnone]

/-- **The point, the minus sign and the colon** are operators of one character, unless they begin a
    longer one or a numeral. -/
theorem cutsOff_operator {c : Char} (hc : c ∈ ['.', '-', ':']) {d : Char} {ds : List Char}
    (hd : d ≠ '.' ∧ d ≠ '=' ∧ d ≠ '>') (hpoint : c = '.' → d.isDigit = false) :
    CutsOff depth (.operator, [c]) (d :: ds) depth := by
  obtain ⟨hstart, hquote, hletter, hword, hdigit, hbracket, hprintable⟩ :
      startsLexeme c = true ∧ Quotation.isQuote c = false ∧
      (∀ p ∈ Quotation.prefixes, c.toLower ∉ p) ∧ isWordStart c = false ∧ c.isDigit = false ∧
      "()[]\x7b\x7d".toList.contains c = false ∧ Text.isPrintable c = true := by
    simp only [List.mem_cons, List.not_mem_nil, or_false] at hc
    rcases hc with rfl | rfl | rfl <;> decide
  refine .of_take rfl hstart fun s hs => ?_
  have hletters : Quotation.letters? s.rest = none := by
    rw [hs]
    exact letters?_cons hquote hletter _
  have hnumeral : (c == '.' && (s.rest.drop 1).head?.any Char.isDigit) = false := by
    rw [hs]
    by_cases h : c = '.'
    · simp [hpoint h]
    · simp [h]
  have hlength : operatorLength s.rest = 1 := by
    rw [hs]
    exact operatorLength_short hc hd
  rw [Cursor.lexeme, hletters]
  simp only [hword, hdigit, hnumeral, hbracket, hprintable, hlength]
  rfl

end

end SpriteStage.Script
