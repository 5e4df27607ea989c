import SpriteStage.Proofs.Script.Lexing

/-!
# Lexemes and the ends of lines

Numerals, words and operators end in their line, and the lexer looks no further than to the line end for
them.  A text in quotes ends with its quotes, and nothing after them matters.  So how long the lexeme at
the front of some characters is does not depend on what comes after the end of the line in which it ends.

## Main definitions

* `Script.StaysInLine` says that a way to measure lexemes looks no further than to the line end

## Main results

* `Numeral.staysInLine_length`, `staysInLine_wordLength`, `operatorLength_line` and
  `Quotation.letters?_line` are about lexemes within a line
* `Quotation.length_line` is about texts in quotes
-/

namespace SpriteStage.Script

variable {ε : Type} {body tail : List Char} {n m : ℕ}

/-- Counting on from `n`, a way to measure lexemes looks no further than to the end of the line. -/
structure StaysInLine (n : ℕ) (f : List Char → Except ε ℕ) (body : List Char) : Prop where
  same : ∀ rest, f (body ++ '\n' :: rest) = f (body ++ ['\n'])
  bounds : ∀ m, f (body ++ ['\n']) = .ok m → n ≤ m ∧ m ≤ n + body.length

namespace StaysInLine

variable {f g : List Char → Except ε ℕ}

/-- Another way to measure what is left of the line may go on. -/
theorem of_eq (h : StaysInLine m g tail) (hf : ∀ rest, f (body ++ '\n' :: rest) = g (tail ++ '\n' :: rest))
    (hn : n ≤ m) (hlength : m + tail.length ≤ n + body.length) : StaysInLine n f body := by
  refine ⟨fun rest => by rw [hf, hf, h.same], fun k hk => ?_⟩
  rw [hf] at hk
  have := h.bounds k hk
  omega

theorem of_error {e : ε} (hf : ∀ rest, f (body ++ '\n' :: rest) = .error e) : StaysInLine n f body := by
  refine ⟨fun rest => by rw [hf, hf], fun k hk => ?_⟩
  rw [hf] at hk
  cases hk

end StaysInLine

/-- A word without a line end comes first in a line, or it does not come first. -/
theorem isPrefixOf_line {word : List Char} (h : '\n' ∉ word) (rest : List Char) :
    word.isPrefixOf (body ++ '\n' :: rest) = word.isPrefixOf body := by
  induction word generalizing body with
  | nil => rw [List.isPrefixOf_nil_left, List.isPrefixOf_nil_left]
  | cons c word ih =>
    obtain ⟨hc, hword⟩ := not_or.1 (List.mem_cons.not.1 h)
    cases body with
    | nil =>
      rw [List.nil_append, List.isPrefixOf_cons_cons, beq_false_of_ne (Ne.symm hc), Bool.false_and]
      rfl
    | cons d body => rw [List.cons_append, List.isPrefixOf_cons_cons, List.isPrefixOf_cons_cons, ih hword]

theorem head?_line (rest : List Char) : (body ++ '\n' :: rest).head? = (body ++ ['\n']).head? := by
  cases body <;> rfl

theorem takeWhile_line {p : Char → Bool} (hp : p '\n' = false) (rest : List Char) :
    (body ++ '\n' :: rest).takeWhile p = body.takeWhile p := by
  induction body with
  | nil => rw [List.nil_append, List.takeWhile_cons, hp]; rfl
  | cons c body ih => rw [List.cons_append, List.takeWhile_cons, List.takeWhile_cons, ih]

/-! ## Numerals -/

namespace Numeral

theorem startsWithWord_line {word : List Char} (h : '\n' ∉ word) (rest : List Char) :
    startsWithWord (body ++ '\n' :: rest) word = startsWithWord (body ++ ['\n']) word := by
  rw [startsWithWord, startsWithWord, isPrefixOf_line h, isPrefixOf_line h]
  cases hprefix : word.isPrefixOf body with
  | false => rfl
  | true =>
    have hle := (List.isPrefixOf_iff_prefix.1 hprefix).length_le
    rw [List.drop_append_of_le_length hle, List.drop_append_of_le_length hle, head?_line]

theorem mayEnd_cons {c : Char} (hc : c ≠ 'i') (cs : List Char) :
    mayEnd (c :: cs) = (!isWordPart c || followers.any (startsWithWord (c :: cs))) := by
  rw [mayEnd]
  · rfl
  · intro d ds h
    exact hc (List.cons.inj h).1

theorem mayEnd_line (rest : List Char) : mayEnd (body ++ '\n' :: rest) = mayEnd (body ++ ['\n']) := by
  have hfollowers : followers.any (startsWithWord (body ++ '\n' :: rest)) =
      followers.any (startsWithWord (body ++ ['\n'])) := by
    have hwords : ∀ word ∈ followers, '\n' ∉ word := by decide
    rw [Bool.eq_iff_iff, List.any_eq_true, List.any_eq_true]
    refine exists_congr fun word => and_congr_right fun hword => ?_
    rw [startsWithWord_line (hwords word hword)]
  cases body with
  | nil => rfl
  | cons c cs =>
    by_cases hc : c = 'i'
    · subst hc
      cases cs <;> rfl
    · rw [List.cons_append, List.cons_append] at hfollowers ⊢
      rw [mayEnd_cons hc, mayEnd_cons hc, hfollowers]

theorem staysInLine_finish (radix : Radix) (n : ℕ) (body : List Char) :
    StaysInLine n (finish radix n) body where
  same rest := by rw [finish, finish, mayEnd_line]
  bounds m h := by
    rw [finish] at h
    split at h
    · cases h
      exact ⟨le_rfl, Nat.le_add_right _ _⟩
    · cases h

theorem digits_cons {c : Char} (hc : c ≠ '_') (radix : Radix) (n : ℕ) (rest : List Char) :
    digits radix n (c :: rest) =
      if isDigitOf radix c then digits radix (n + 1) rest
      else if c.isDigit then .error (refuse radix n c) else .ok (n, c :: rest) := by
  rw [digits]
  intro d ds h
  exact fun _ => hc h

theorem isDigitOf_newline (radix : Radix) : isDigitOf radix '\n' = false := by
  cases radix <;> decide

/-- Digits are refused, or they end in their line. -/
theorem digits_line (radix : Radix) (n : ℕ) (body : List Char) :
    (∃ e, ∀ rest, digits radix n (body ++ '\n' :: rest) = .error e) ∨
      ∃ m tail, n ≤ m ∧ m + tail.length = n + body.length ∧
        ∀ rest, digits radix n (body ++ '\n' :: rest) = .ok (m, tail ++ '\n' :: rest) := by
  match body with
  | [] =>
    refine .inr ⟨n, [], le_rfl, rfl, fun rest => ?_⟩
    rw [List.nil_append, digits_cons (by decide), isDigitOf_newline]
    rfl
  | c :: body =>
    by_cases hc : c = '_'
    · -- An underscore stands before a digit, and the end of the line is none.
      subst hc
      match body with
      | [] =>
        refine .inl ⟨refuse radix (n + 1) '\n', fun rest => ?_⟩
        rw [List.singleton_append, digits, isDigitOf_newline]
        rfl
      | d :: body =>
        have hdigits (rest : List Char) : digits radix n ('_' :: d :: body ++ '\n' :: rest) =
            if isDigitOf radix d then digits radix (n + 2) (body ++ '\n' :: rest)
            else .error (refuse radix (n + 1) d) := by
          rw [List.cons_append, List.cons_append, digits]
        simp only [hdigits]
        split
        · refine (digits_line radix (n + 2) body).imp_right ?_
          rintro ⟨m, tail, hle, hlength, h⟩
          exact ⟨m, tail, by omega, by simp only [List.length_cons]; omega, h⟩
        · exact .inl ⟨_, fun _ => rfl⟩
    · -- A digit leads on; a digit of another radix is refused; anything else is left over.
      simp only [List.cons_append, digits_cons hc]
      split
      · refine (digits_line radix (n + 1) body).imp_right ?_
        rintro ⟨m, tail, hle, hlength, h⟩
        exact ⟨m, tail, by omega, by simp only [List.length_cons]; omega, h⟩
      · split
        · exact .inl ⟨_, fun _ => rfl⟩
        · exact .inr ⟨n, c :: body, le_rfl, rfl, fun _ => rfl⟩

/-- What comes after digits ends in the line. -/
theorem staysInLine_digits {f : ℕ → List Char → Except Refusal ℕ}
    (hf : ∀ m tail, StaysInLine m (f m) tail) (radix : Radix) (n : ℕ) (body : List Char) :
    StaysInLine n (fun cs => do let (m, rest) ← digits radix n cs; f m rest) body := by
  rcases digits_line radix n body with ⟨e, he⟩ | ⟨m, tail, hle, hlength, h⟩
  · refine ⟨fun rest => ?_, fun m hm => ?_⟩
    · simp only [he]
    · simp only [he] at hm
      cases hm
  · refine ⟨fun rest => ?_, fun k hk => ?_⟩
    · simp only [h]
      exact (hf m tail).same rest
    · simp only [h] at hk
      have := (hf m tail).bounds k hk
      omega

theorem staysInLine_based (radix : Radix) : StaysInLine 2 (based radix) body := by
  have hdigits := staysInLine_digits (staysInLine_finish radix) radix 2 body
  cases body with
  | nil =>
    refine .of_error (e := refuse radix 2 '\n') fun rest => ?_
    rw [List.nil_append, based, isDigitOf_newline]
    rfl
  | cons c body =>
    by_cases hc : (c == '_' || isDigitOf radix c) = true
    · exact hdigits.of_eq (fun rest => by rw [List.cons_append, based, if_pos hc]) le_rfl le_rfl
    · exact .of_error (e := refuse radix 2 c) fun rest => by rw [List.cons_append, based, if_neg hc]

theorem mark_cons {c : Char} (hc : c ≠ 'j' ∧ c ≠ 'J') (n : ℕ) (cs : List Char) :
    mark n (c :: cs) = finish .decimal n (c :: cs) := by
  rw [mark]
  · intro rest h
    exact hc.1 (List.cons.inj h).1
  · intro rest h
    exact hc.2 (List.cons.inj h).1

theorem staysInLine_mark (n : ℕ) (body : List Char) : StaysInLine n (mark n) body := by
  cases body with
  | nil => exact (staysInLine_finish .decimal n []).of_eq (fun _ => rfl) le_rfl le_rfl
  | cons c body =>
    by_cases hc : c ≠ 'j' ∧ c ≠ 'J'
    · exact (staysInLine_finish .decimal n (c :: body)).of_eq (fun _ => mark_cons hc n _) le_rfl le_rfl
    · obtain rfl | rfl : c = 'j' ∨ c = 'J' := by
        by_contra hne
        exact hc (not_or.1 hne)
      all_goals
        refine (staysInLine_finish .imaginary (n + 1) body).of_eq (fun _ => rfl)
          (Nat.le_succ n) ?_
        rw [List.length_cons]
        omega

theorem staysInLine_exponent (n : ℕ) (body : List Char) : StaysInLine n (exponent n) body := by
  have hmark (m : ℕ) (body : List Char) :=
    staysInLine_digits staysInLine_mark .decimal m body
  cases body with
  | nil => exact (staysInLine_mark n []).of_eq (fun _ => rfl) le_rfl le_rfl
  | cons c body =>
    by_cases hc : (c == 'e' || c == 'E') = true
    · cases body with
      | nil =>
        refine (staysInLine_finish .decimal n [c]).of_eq (fun rest => ?_) le_rfl le_rfl
        rw [exponent.eq_def]
        exact if_pos hc
      | cons d body =>
        -- After the letter come a sign and digits, or digits, or it belongs to what follows.
        have hexponent (rest : List Char) : exponent n (c :: d :: body ++ '\n' :: rest) =
            if d == '+' || d == '-' then
              if (body ++ ['\n']).head?.any Char.isDigit then do
                let (n, rest) ← digits .decimal (n + 2) (body ++ '\n' :: rest)
                mark n rest
              else .error (.invalidNumeral .decimal, some (n + 2))
            else if d.isDigit then do
              let (n, rest) ← digits .decimal (n + 1) (d :: body ++ '\n' :: rest)
              mark n rest
            else finish .decimal n (c :: d :: body ++ '\n' :: rest) := by
          rw [exponent.eq_def, ← head?_line rest]
          exact if_pos hc
        split at hexponent
        · split at hexponent
          · exact (hmark (n + 2) body).of_eq hexponent (by omega) (by simp only [List.length_cons]; omega)
          · exact .of_error hexponent
        · split at hexponent
          · exact (hmark (n + 1) (d :: body)).of_eq hexponent (by omega)
              (by simp only [List.length_cons]; omega)
          · exact (staysInLine_finish .decimal n (c :: d :: body)).of_eq hexponent le_rfl le_rfl
    · refine (staysInLine_mark n (c :: body)).of_eq (fun rest => ?_) le_rfl le_rfl
      rw [exponent.eq_def]
      exact if_neg hc

theorem staysInLine_fraction (n : ℕ) (body : List Char) : StaysInLine n (fraction n) body := by
  have hfraction (rest : List Char) : fraction n (body ++ '\n' :: rest) =
      if (body ++ ['\n']).head?.any Char.isDigit then do
        let (n, rest) ← digits .decimal n (body ++ '\n' :: rest)
        exponent n rest
      else exponent n (body ++ '\n' :: rest) := by
    rw [fraction, ← head?_line rest]
  split at hfraction
  · exact (staysInLine_digits staysInLine_exponent .decimal n body).of_eq
      hfraction le_rfl le_rfl
  · exact (staysInLine_exponent n body).of_eq hfraction le_rfl le_rfl

/-- After its digits a decimal numeral without a point goes on with an exponent or a mark, or it ends. -/
theorem decimal_of_digits {cs rest : List Char} {c : Char} (hc : c ≠ '.')
    (h : digits .decimal 0 cs = .ok (n, c :: rest)) :
    decimal cs =
      if c == 'e' || c == 'E' || c == 'j' || c == 'J' then exponent n (c :: rest)
      else if cs.head? == some '0' && (cs.take n).any (fun c => c != '0' && c != '_') then
        .error (.leadingZeros, none)
      else finish .decimal n (c :: rest) := by
  rw [decimal, h]
  simp only [bind, Except.bind]

/-- Decimal numerals end in their line; `c` is the first digit. -/
theorem staysInLine_decimal {c : Char} (hc : c.isDigit = true) (body : List Char) :
    StaysInLine 1 (fun cs => decimal (c :: cs)) body := by
  have hfirst (cs : List Char) : digits .decimal 0 (c :: cs) = digits .decimal 1 cs := by
    rw [digits_cons (by rintro rfl; cases hc)]
    exact if_pos hc
  rcases digits_line .decimal 1 body with ⟨e, he⟩ | ⟨m, tail, hle, hlength, hdigits⟩
  · exact .of_error (e := e) fun rest => by
      rw [decimal, hfirst, he]
      rfl
  have htake (rest : List Char) : (c :: (body ++ '\n' :: rest)).take m = (c :: body).take m := by
    rw [← List.cons_append, List.take_append_of_le_length]
    rw [List.length_cons]
    omega
  -- What comes after the digits decides how to go on.
  have hother {d : Char} {ds : List Char → List Char} (hd : d ≠ '.')
      (hds : ∀ rest, tail ++ '\n' :: rest = d :: ds rest) :
      StaysInLine 1 (fun cs => decimal (c :: cs)) body := by
    have hdecimal (rest : List Char) := decimal_of_digits hd
      (((hfirst _).trans (hdigits rest)).trans (congrArg _ (Prod.ext rfl (hds rest))))
    simp only [htake, List.head?_cons, ← hds] at hdecimal
    split at hdecimal
    · exact (staysInLine_exponent m tail).of_eq hdecimal hle hlength.le
    · split at hdecimal
      · exact .of_error hdecimal
      · exact (staysInLine_finish .decimal m tail).of_eq hdecimal hle hlength.le
  cases tail with
  | nil => exact hother (by decide) fun _ => rfl
  | cons d tail =>
    by_cases hd : d = '.'
    · subst hd
      rw [List.length_cons] at hlength
      refine (staysInLine_fraction (m + 1) tail).of_eq (fun rest => ?_) (by omega) (by omega)
      rw [decimal, hfirst, hdigits]
      rfl
    · exact hother hd fun _ => rfl

/-- **Numerals** end in their line; `c` is the first character. -/
theorem staysInLine_length {c : Char} (hc : c.isDigit = true ∨ c = '.') (body : List Char) :
    StaysInLine 1 (fun cs => length (c :: cs)) body := by
  rcases hc with hc | rfl
  · have hdecimal (h : ∀ rest, length (c :: (body ++ '\n' :: rest)) = decimal (c :: (body ++ '\n' :: rest))) :
        StaysInLine 1 (fun cs => length (c :: cs)) body :=
      (staysInLine_decimal hc body).of_eq h le_rfl le_rfl
    by_cases hzero : c = '0'
    · subst hzero
      -- After a zero the next character may name a radix.
      match body with
      | [] => exact hdecimal fun _ => rfl
      | x :: body =>
        have hlength (rest : List Char) : length ('0' :: (x :: body ++ '\n' :: rest)) =
            if x == 'x' || x == 'X' then based .hexadecimal (body ++ '\n' :: rest)
            else if x == 'o' || x == 'O' then based .octal (body ++ '\n' :: rest)
            else if x == 'b' || x == 'B' then based .binary (body ++ '\n' :: rest)
            else decimal ('0' :: (x :: body ++ '\n' :: rest)) := rfl
        have hbased (radix : Radix) (h : ∀ rest,
            length ('0' :: (x :: body ++ '\n' :: rest)) = based radix (body ++ '\n' :: rest)) :
            StaysInLine 1 (fun cs => length ('0' :: cs)) (x :: body) :=
          (staysInLine_based radix).of_eq h (by omega) (by rw [List.length_cons]; omega)
        split at hlength
        · exact hbased _ hlength
        · split at hlength
          · exact hbased _ hlength
          · split at hlength
            · exact hbased _ hlength
            · exact hdecimal hlength
    · refine hdecimal fun rest => ?_
      rw [length]
      · rintro _ h
        cases h
        cases hc
      · exact fun _ _ h => hzero (List.cons.inj h).1
  · exact (staysInLine_fraction 1 body).of_eq (fun _ => rfl) le_rfl le_rfl

end Numeral

/-! ## Words and operators -/

theorem staysInLine_wordLength (body : List Char) : StaysInLine 0 wordLength body := by
  have hword (rest : List Char) :
      (body ++ '\n' :: rest).takeWhile isWordPart = body.takeWhile isWordPart := takeWhile_line rfl rest
  refine ⟨fun rest => by rw [wordLength, wordLength, hword, hword], fun m h => ?_⟩
  rw [wordLength, hword] at h
  split at h
  · cases h
  · cases h
    have := (body.takeWhile_prefix isWordPart).length_le
    omega

/-- A word has a character, and the first one starts an identifier. -/
theorem wordLength_pos {c : Char} {cs : List Char} (hc : isWordStart c = true)
    (h : wordLength (c :: cs) = .ok n) : 0 < n ∧ Text.isIdentifierStart c = true := by
  have hpart : isWordPart c = true := (Bool.and_eq_true_iff.1 hc).1
  rw [wordLength, List.takeWhile_cons_of_pos hpart, intruder?] at h
  cases hstart : Text.isIdentifierStart c with
  | false =>
    rw [hstart] at h
    cases h
  | true =>
    refine ⟨?_, rfl⟩
    split at h
    · cases h
    · cases h
      exact Nat.succ_pos _

/-- **Operators** end in their line. -/
theorem operatorLength_line (body rest : List Char) :
    operatorLength (body ++ '\n' :: rest) = operatorLength body := by
  have hwords : ∀ op ∈ longOperators, '\n' ∉ op := by decide
  rw [operatorLength, operatorLength, List.find?_congr fun op hop => isPrefixOf_line (hwords op hop) rest]

theorem operatorLength_bounds (hbody : body ≠ []) :
    0 < operatorLength body ∧ operatorLength body ≤ body.length := by
  have hwords : ∀ op ∈ longOperators, 0 < op.length := by decide
  rw [operatorLength]
  split
  · rename_i op hop
    have hprefix := List.find?_some hop
    exact ⟨hwords op (List.mem_of_find?_eq_some hop), (List.isPrefixOf_iff_prefix.1 hprefix).length_le⟩
  · exact ⟨Nat.one_pos, List.length_pos_iff.2 hbody⟩

/-! ## Texts in quotes -/

namespace Quotation

/-- The letters before a quote stand in its line. -/
theorem letters?_line (rest : List Char) :
    letters? (body ++ '\n' :: rest) = letters? (body ++ ['\n']) := by
  have hletters : ∀ p ∈ prefixes, '\n' ∉ p := by decide
  refine List.find?_congr fun p hp => ?_
  rcases Nat.lt_or_ge body.length p.length with hlt | hle
  · -- The line ends before the quote could come.
    have hline (rest : List Char) : ((body ++ '\n' :: rest).take p.length).map Char.toLower ≠ p := by
      intro h
      refine hletters p hp ?_
      rw [← h, List.mem_map]
      refine ⟨'\n', ?_, by decide⟩
      rw [List.take_append, List.mem_append]
      right
      obtain ⟨k, hk⟩ : ∃ k, p.length - body.length = k + 1 := ⟨p.length - body.length - 1, by omega⟩
      rw [hk, List.take_succ_cons]
      exact List.mem_cons_self
    rw [beq_false_of_ne (hline rest), beq_false_of_ne (hline []), Bool.false_and, Bool.false_and]
  · rw [List.take_append_of_le_length hle, List.take_append_of_le_length hle,
      List.drop_append_of_le_length hle, List.drop_append_of_le_length hle, head?_line]

section

variable {quote : Char}

/-- What comes first in a text on one line: an escape, or a character that is not special. -/
theorem shortEnd_escape (c : Char) (n : ℕ) (rest : List Char) :
    shortEnd quote n ('\\' :: c :: rest) = shortEnd quote (n + 2) rest := by
  rw [shortEnd]

theorem shortEnd_cons {c : Char} (hc : c ≠ '\n' ∧ c ≠ '\\') (n : ℕ) (rest : List Char) :
    shortEnd quote n (c :: rest) = if c == quote then .ok (n + 1) else shortEnd quote (n + 1) rest := by
  rw [shortEnd]
  · exact hc.1
  · exact fun h _ => hc.2 h
  · exact fun _ _ h _ => hc.2 h

/-- A text on one line ends with its quote. -/
theorem exists_of_shortEnd {n m : ℕ} {cs : List Char} (h : shortEnd quote n cs = .ok m) :
    ∃ pre post, cs = pre ++ quote :: post ∧ m = n + pre.length + 1 ∧
      ∀ rest, shortEnd quote n (pre ++ quote :: rest) = .ok m := by
  match cs with
  | [] => cases h
  | c :: cs =>
    by_cases hnewline : c = '\n'
    · subst hnewline
      cases h
    by_cases hescape : c = '\\'
    · subst hescape
      match cs with
      | [] => cases h
      | d :: cs =>
        -- The character after a backslash ends nothing.
        rw [shortEnd_escape] at h
        obtain ⟨pre, post, rfl, rfl, hpre⟩ := exists_of_shortEnd h
        refine ⟨'\\' :: d :: pre, post, rfl, by simp only [List.length_cons]; omega, fun rest => ?_⟩
        rw [List.cons_append, List.cons_append, shortEnd_escape, hpre]
    · rw [shortEnd_cons ⟨hnewline, hescape⟩] at h
      split at h
      · rename_i heq
        cases h
        rw [beq_iff_eq] at heq
        subst heq
        refine ⟨[], cs, rfl, rfl, fun rest => ?_⟩
        rw [List.nil_append, shortEnd_cons ⟨hnewline, hescape⟩, if_pos (beq_self_eq_true c)]
      · rename_i hne
        obtain ⟨pre, post, rfl, rfl, hpre⟩ := exists_of_shortEnd h
        refine ⟨c :: pre, post, rfl, by simp only [List.length_cons]; omega, fun rest => ?_⟩
        rw [List.cons_append, shortEnd_cons ⟨hnewline, hescape⟩, if_neg hne, hpre]

theorem longEnd_escape (c : Char) (n : ℕ) (rest : List Char) :
    longEnd quote n ('\\' :: c :: rest) = longEnd quote (n + 2) rest := by
  rw [longEnd]

theorem longEnd_cons {c : Char} (hc : c ≠ '\\') (n : ℕ) (rest : List Char) :
    longEnd quote n (c :: rest) =
      if c == quote && rest.take 2 == [quote, quote] then .ok (n + 3) else longEnd quote (n + 1) rest := by
  rw [longEnd]
  · exact fun h _ => hc h
  · exact fun _ _ h _ => hc h

/-- A text over several lines ends with its quotes. -/
theorem exists_of_longEnd {n m : ℕ} {cs : List Char} (h : longEnd quote n cs = .ok m) :
    ∃ pre post, cs = pre ++ quote :: quote :: quote :: post ∧ m = n + pre.length + 3 ∧
      ∀ rest, longEnd quote n (pre ++ quote :: quote :: quote :: rest) = .ok m := by
  match cs with
  | [] => cases h
  | c :: cs =>
    by_cases hescape : c = '\\'
    · subst hescape
      match cs with
      | [] => cases h
      | d :: cs =>
        rw [longEnd_escape] at h
        obtain ⟨pre, post, rfl, rfl, hpre⟩ := exists_of_longEnd h
        refine ⟨'\\' :: d :: pre, post, rfl, by simp only [List.length_cons]; omega, fun rest => ?_⟩
        rw [List.cons_append, List.cons_append, longEnd_escape, hpre]
    · rw [longEnd_cons hescape] at h
      split at h
      · rename_i heq
        cases h
        rw [Bool.and_eq_true, beq_iff_eq, beq_iff_eq] at heq
        obtain ⟨rfl, htake⟩ := heq
        obtain ⟨post, rfl⟩ : ∃ post, cs = c :: c :: post := by
          match cs, htake with
          | a :: b :: post, htake =>
            obtain ⟨rfl, htake⟩ := List.cons.inj htake
            exact ⟨post, by rw [(List.cons.inj htake).1]⟩
        refine ⟨[], post, rfl, rfl, fun rest => ?_⟩
        rw [List.nil_append, longEnd_cons hescape, List.take_succ_cons, List.take_succ_cons, List.take_zero,
          if_pos (by rw [beq_self_eq_true, beq_self_eq_true, Bool.and_true])]
      · rename_i hne
        obtain ⟨pre, post, rfl, rfl, hpre⟩ := exists_of_longEnd h
        refine ⟨c :: pre, post, rfl, by simp only [List.length_cons]; omega, fun rest => ?_⟩
        -- The next two characters are the same.
        have htake (ds : List Char) : (pre ++ quote :: quote :: quote :: ds).take 2 =
            (pre ++ [quote, quote]).take 2 := by
          match pre with
          | [] | [_] | _ :: _ :: _ => rfl
        rw [htake] at hne
        rw [List.cons_append, longEnd_cons hescape, htake, if_neg hne, hpre]

end

/-- What ends with a quote ends before the line does, if there is no quote in the lines after it. -/
theorem exists_of_append_line {quote : Char} {lines : List Char} (hquote : quote ∉ '\n' :: lines)
    {cs pre post : List Char} (h : cs ++ '\n' :: lines = pre ++ quote :: post) :
    ∃ tail, cs = pre ++ quote :: tail := by
  rcases List.append_eq_append_iff.1 h with ⟨more, -, hmore⟩ | ⟨more, rfl, hmore⟩
  · exact absurd (hmore ▸ List.mem_append_right more List.mem_cons_self) hquote
  · cases more with
    | nil => exact absurd ((List.cons.inj hmore).1 ▸ List.mem_cons_self) hquote
    | cons c more => exact ⟨more, by rw [(List.cons.inj hmore).1]⟩

/-- **Texts in quotes** end with their quotes, whatever comes after them. -/
theorem length_line {quote : Char} (hquote : isQuote quote = true) {cs lines : List Char} (hlines : quote ∉ lines)
    (h : length quote (quote :: cs ++ '\n' :: lines) = .ok n) (rest : List Char) :
    length quote (quote :: cs ++ '\n' :: rest) = .ok n ∧ 0 < n ∧ n ≤ cs.length + 1 := by
  have hne : '\n' ≠ quote := by
    rintro rfl
    cases hquote
  have hline : quote ∉ '\n' :: lines := List.mem_cons.not.2 (not_or.2 ⟨hne.symm, hlines⟩)
  -- How many quotes the text begins with does not depend on what comes after the line.
  have hquotes (rest : List Char) : quotesOf quote (quote :: cs ++ '\n' :: rest) =
      if cs.take 2 = [quote, quote] then 3 else 1 := by
    have htake : (quote :: cs ++ '\n' :: rest).take 3 = [quote, quote, quote] ↔
        cs.take 2 = [quote, quote] := by
      rcases cs with _ | ⟨c, _ | ⟨d, cs⟩⟩
      · simp [hne]
      · simp [hne]
      · simp
    rw [quotesOf]
    simp only [beq_iff_eq, htake]
  rw [length, hquotes] at h ⊢
  by_cases htake : cs.take 2 = [quote, quote]
  · rw [if_pos htake] at h ⊢
    rcases cs with _ | ⟨c, _ | ⟨d, cs⟩⟩
    · cases htake
    · cases htake
    · -- The closing quotes are in the line, for there are none behind it.
      obtain ⟨pre, post, hcs, rfl, hpre⟩ := exists_of_longEnd h
      have hends : cs ++ '\n' :: lines = (pre ++ [quote, quote]) ++ quote :: post := by simpa using hcs
      obtain ⟨tail, htail⟩ := exists_of_append_line hline hends
      obtain rfl : cs = pre ++ quote :: quote :: quote :: tail := by simpa using htail
      refine ⟨?_, by omega, by simp only [List.length_append, List.length_cons]; omega⟩
      have hlength := hpre (tail ++ '\n' :: rest)
      simpa using hlength
  · rw [if_neg htake] at h ⊢
    obtain ⟨pre, post, hcs, rfl, hpre⟩ := exists_of_shortEnd h
    obtain ⟨tail, rfl⟩ := exists_of_append_line hline hcs
    refine ⟨?_, by omega, by simp only [List.length_append, List.length_cons]; omega⟩
    have hlength := hpre (tail ++ '\n' :: rest)
    simpa using hlength

end Quotation

end SpriteStage.Script
