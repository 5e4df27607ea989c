import SpriteStage.Program.Compilation
import SpriteStage.Program.Listing
import SpriteStage.Proofs.Number.Notation
import SpriteStage.Proofs.Script.Lexing
import SpriteStage.Proofs.Script.Statement

/-!
# Constants of listings

A constant that reads back as a value is an operand, perhaps with a minus sign before it: a truth
value, a numeral, a quoted text, or `float` of a word for a double that has no numeral.  `Constant`
puts the value, its characters and its lexemes together; the lexer gets from the characters to the
lexemes, and the grammar and the folding of constants get from the lexemes to the value.

## Main definitions

* `Operand` and `Constant` relate values, characters and lexemes
-/

namespace SpriteStage

open Script (Lexeme Gives CutsOff EndsWord)
open Script.Grammar (rules)
open Script.Parser (Reads Fails)

/-- A constant without a sign, as characters and as lexemes. -/
inductive Operand : Value → List Char → List Lexeme → Prop where
  | bool (b : Bool) :
      Operand (.bool b) (if b then "True" else "False").toList
        [(.keyword, (if b then "True" else "False").toList)]
  | numeral {p : Numeral.Parts} {v : Value} (hp : p.WellFormed) (hpad : p.Unpadded)
      (hv : v ≠ .null) (h : Script.Literal.ofNumeral p.chars = .ok (.value v)) :
      Operand v p.chars [(.numeral, p.chars)]
  | text (cs : List Char) :
      Operand (.text (String.ofList cs)) (Text.quoteList cs) [(.text, Text.quoteList cs)]
  /-- A double that has no numeral. -/
  | word (cs : List Char) {x : Float}
      (hcs : floatWords.contains (String.ofList ((Text.stripList cs).map Char.toLower)) = true)
      (hx : Text.double? (String.ofList cs) = some x) :
      Operand (.float x) ("float".toList ++ '(' :: (Text.quoteList cs ++ [')']))
        [(.name, "float".toList), (.operator, ['(']), (.text, Text.quoteList cs), (.operator, [')'])]

/-- A constant, as characters and as lexemes. -/
inductive Constant : Value → List Char → List Lexeme → Prop where
  | operand {v : Value} {cs : List Char} {xs : List Lexeme} (h : Operand v cs xs) : Constant v cs xs
  | negative {v w : Value} {cs : List Char} {xs : List Lexeme} (h : Operand v cs xs)
      (hw : v.applyUnary .minus = .ok w) : Constant w ('-' :: cs) ((.operator, ['-']) :: xs)

/-! ## The constants that are written -/

theorem Operand.digits {n : ℕ} (hn : (Decimal.digitsOf n).length ≤ digitLimit) :
    Operand (.int n) (Decimal.digitsOf n) [(.numeral, Decimal.digitsOf n)] := by
  have hchars : ({ whole := Decimal.digitsOf n } : Numeral.Parts).chars = Decimal.digitsOf n := by
    simp [Numeral.Parts.chars, Numeral.Parts.fractionChars, Numeral.Parts.exponentChars]
  have h := Operand.numeral (v := .int n) (Script.wellFormed_digitsOf n)
    (Script.unpadded_digitsOf n) (by simp) (by rw [hchars, Script.ofNumeral_digitsOf hn])
  rwa [hchars] at h

theorem exists_constant_int {n : ℤ} {s : String} (h : integerText n = .ok s) :
    ∃ xs, Constant (.int n) s.toList xs := by
  rw [integerText] at h
  split at h
  · cases h
  rename_i hlimit
  have hdigits := Operand.digits (not_lt.1 hlimit)
  cases h
  rw [String.toList_ofList]
  by_cases hn : n < 0
  · rw [if_pos hn]
    refine ⟨_, .negative hdigits ?_⟩
    have hneg : -(n.natAbs : ℤ) = n := by omega
    show Except.ok (Value.int (-(n.natAbs : ℤ))) = _
    rw [hneg]
  · rw [if_neg hn]
    have hpos : (n.natAbs : ℤ) = n := by omega
    rw [hpos] at hdigits
    exact ⟨_, .operand hdigits⟩

/-- The two words that are written. -/
theorem Operand.nan : Operand (.float Double.nan) "float('nan')".toList
    [(.name, "float".toList), (.operator, ['(']), (.text, "'nan'".toList), (.operator, [')'])] :=
  Operand.word "nan".toList (by decide +kernel) (by decide +kernel)

theorem Operand.infinity : Operand (.float (Double.infinity false)) "float('inf')".toList
    [(.name, "float".toList), (.operator, ['(']), (.text, "'inf'".toList), (.operator, [')'])] :=
  Operand.word "inf".toList (by decide +kernel) (by decide +kernel)

theorem exists_constant_float {x : Float} {s : String} (h : Listing.constant (.float x) = .ok s) :
    ∃ xs, Constant (.float x) s.toList xs := by
  rw [Listing.constant] at h
  split at h
  · rename_i hexact
    cases h
    rw [Double.eq_nan_of_ofFloat hexact]
    exact ⟨_, .operand .nan⟩
  · rename_i isNegative hexact
    cases h
    rw [Double.eq_infinity_of_ofFloat hexact]
    cases isNegative with
    | false => exact ⟨_, .operand .infinity⟩
    | true =>
      have hneg : -Double.infinity false = Double.infinity true := by decide +kernel
      exact ⟨_, .negative .infinity (congrArg (fun x => Except.ok (Value.float x)) hneg)⟩
  · rename_i isNegative m e hexact
    cases h
    obtain ⟨p, hp, hdouble, hchars, y, hy, hsign⟩ := Double.exists_numeral hexact
    have hoperand : Operand (.float y) p.chars [(.numeral, p.chars)] :=
      .numeral hp (.inl hdouble) (by simp) (Script.ofNumeral_double hp hdouble hy)
    rw [hchars]
    -- The sign of a double is written before its numeral.
    cases isNegative with
    | false =>
      simp only [Bool.false_eq_true, if_false] at hsign ⊢
      subst hsign
      exact ⟨_, .operand hoperand⟩
    | true =>
      simp only [if_true] at hsign ⊢
      subst hsign
      exact ⟨_, .negative hoperand rfl⟩

/-- **Every constant that is written** is that of its value. -/
theorem exists_constant {v : Value} {s : String} (h : Listing.constant v = .ok s) :
    ∃ xs, Constant v s.toList xs := by
  cases v with
  | null => cases h
  | list items =>
    exfalso
    simp only [Listing.constant] at h
    cases hquoted : (Value.list items).quoted <;> rw [hquoted] at h <;> cases h
  | object fields =>
    exfalso
    simp only [Listing.constant] at h
    cases hquoted : (Value.object fields).quoted <;> rw [hquoted] at h <;> cases h
  | bool b =>
    cases h
    cases b with
    | false => exact ⟨_, .operand (.bool false)⟩
    | true => exact ⟨_, .operand (.bool true)⟩
  | text t =>
    cases h
    have hoperand := Operand.text t.toList
    rw [String.ofList_toList] at hoperand
    rw [Text.quote, String.toList_ofList]
    exact ⟨_, .operand hoperand⟩
  | int n =>
    rw [Listing.constant, Value.quoted] at h
    cases hn : integerText n with
    | error e => rw [hn] at h; cases h
    | ok t =>
      rw [hn] at h
      cases h
      exact exists_constant_int hn
  | float x => exact exists_constant_float h

/-! ## From characters to lexemes -/

section

variable {v : Value} {cs rest : List Char} {xs ls : List Lexeme} {level depth : ℕ}

theorem endsWord_of_head {c : Char} (hc : Script.isWordPart c = false)
    (hquote : Script.Quotation.isQuote c = false) : EndsWord (c :: rest) := by
  rintro d ⟨⟩
  exact ⟨hc, hquote⟩

theorem cutsOff_keyword {w : List Char} (hw : Text.isIdentifier w = true)
    (hkeyword : Script.isKeyword w = true) (hrest : EndsWord rest) :
    CutsOff depth (.keyword, w) rest depth := by
  rw [← if_pos (t := Script.TokenKind.keyword) (e := .name) hkeyword]
  exact Script.cutsOff_word hw hrest

theorem cutsOff_name {w : List Char} (hw : Text.isIdentifier w = true)
    (hkeyword : Script.isKeyword w = false) (hrest : EndsWord rest) :
    CutsOff depth (.name, w) rest depth := by
  have hne : ¬ Script.isKeyword w = true := by simp [hkeyword]
  rw [← if_neg (t := Script.TokenKind.keyword) (e := .name) hne]
  exact Script.cutsOff_word hw hrest

/-- The lexer reads an operand up to the closing parenthesis after it. -/
theorem Operand.gives (h : Operand v cs xs) (hdepth : depth < Script.bracketLimit)
    (hrest : Gives false level depth (')' :: rest) ls) :
    Gives false level depth (cs ++ ')' :: rest) (xs ++ ls) := by
  have hclosing : ∀ {rest : List Char}, EndsWord (')' :: rest) := endsWord_of_head rfl rfl
  cases h with
  | bool b =>
    have hword : CutsOff depth (.keyword, (if b then "True" else "False").toList) (')' :: rest)
        depth := by
      cases b
      · exact cutsOff_keyword (by decide) (by decide) hclosing
      · exact cutsOff_keyword (by decide) (by decide) hclosing
    exact Gives.lexeme hword 0 hrest
  | numeral hp hpad hv h => exact Gives.lexeme (Script.cutsOff_numeral hp hpad) 0 hrest
  | text ds => exact Gives.lexeme (Script.cutsOff_text ds) 0 hrest
  | word ds hcs hx =>
    have hfloat : CutsOff depth (.name, "float".toList)
        ('(' :: (Text.quoteList ds ++ ')' :: ')' :: rest)) depth :=
      cutsOff_name (by decide) (by decide) (endsWord_of_head rfl rfl)
    have hgives := Gives.lexeme hfloat 0 (Gives.lexeme (Script.cutsOff_opening hdepth) 0
      (Gives.lexeme (Script.cutsOff_text ds) 0 (Gives.lexeme Script.cutsOff_closing 0 hrest)))
    simpa using hgives

/-- No operand starts as a longer operator goes on. -/
theorem Operand.head (h : Operand v cs xs) :
    ∃ d ds, cs = d :: ds ∧ d ≠ '.' ∧ d ≠ '=' ∧ d ≠ '>' := by
  cases h with
  | bool b =>
    cases b
    · exact ⟨'F', _, rfl, by decide⟩
    · exact ⟨'T', _, rfl, by decide⟩
  | numeral hp hpad hv h =>
    obtain ⟨c, cs, hchars, hc, -⟩ := Script.Numeral.exists_chars_cons hp
    refine ⟨c, cs, hchars, ?_, ?_, ?_⟩ <;> exact Numeral.isDigit_ne hc (by decide)
  | text ds =>
    refine ⟨_, _, Text.quoteList_eq ds, ?_⟩
    rw [Text.quoteFor]
    split <;> decide
  | word ds hcs hx => exact ⟨'f', _, rfl, by decide⟩

/-- **The lexer reads a constant** up to the closing parenthesis after it. -/
theorem Constant.gives (h : Constant v cs xs) (hdepth : depth < Script.bracketLimit)
    (hrest : Gives false level depth (')' :: rest) ls) :
    Gives false level depth (cs ++ ')' :: rest) (xs ++ ls) := by
  cases h with
  | operand h => exact h.gives hdepth hrest
  | negative h hw =>
    rename_i w ds ys
    obtain ⟨d, es, hds, hd⟩ := h.head
    have hgives := h.gives hdepth hrest
    rw [hds] at hgives ⊢
    have hminus : CutsOff depth (.operator, ['-']) (d :: es ++ ')' :: rest) depth :=
      Script.cutsOff_operator (by decide) hd fun h => absurd h (by decide)
    exact Gives.lexeme hminus 0 hgives

end

/-! ## From lexemes to values -/

section

variable {v : Value} {cs : List Char} {xs rest : List Lexeme} {x : Lexeme}

/-- An expression has a value in every scope. -/
def Denotes (v : Value) (e : Script.Expr) : Prop := ∀ scope, constant scope e = .ok v

theorem denotes_literal {v : Value} (hv : v ≠ .null) (span : Script.Span) :
    Denotes v (.literal (.value v) span) := by
  intro scope
  cases v with
  | null => exact absurd rfl hv
  | _ => rfl

theorem denotes_word {cs : List Char} {y : Float}
    (hcs : floatWords.contains (String.ofList ((Text.stripList cs).map Char.toLower)) = true)
    (hy : Text.double? (String.ofList cs) = some y) (span span' span'' : Script.Span) :
    Denotes (.float y) (.call (.name "float" span)
      [.literal (.value (.text (String.ofList cs))) span'] [] span'') := by
  intro scope
  rw [constant, floatLiteral, String.toList_ofList, if_pos hcs, hy]

/-- A text that is written quoted is an operand, unless another one follows. -/
theorem reads_atom_quoteList {r : Script.Rules} (ds : List Char) (hx : x.1 ≠ .text) :
    Reads (Script.Grammar.atom r) [(.text, Text.quoteList ds)] (x :: rest) fun e =>
      ∃ span, e = .literal (.value (.text (String.ofList ds))) span := by
  rw [← Script.Quotation.textOf_map_toNat]
  exact Script.Grammar.reads_atom_text (Script.QuotedPart.ofToken_quoteList ds) hx

theorem Operand.reads_awaited (h : Operand v cs xs) (n : ℕ) (hx : Script.Grammar.Closes x) :
    Reads (Script.Grammar.awaited (rules (n + 1))) xs (x :: rest) (Denotes v) := by
  cases h with
  | bool b =>
    refine (Script.Grammar.reads_awaited ?_ (Script.Grammar.reads_primary hx.ne_trailer
      (Script.Grammar.reads_atom_bool b))).imp fun e ⟨span, he⟩ => ?_
    · cases b <;> decide
    · rw [he]
      exact denotes_literal (by simp) span
  | numeral hp hpad hv h =>
    refine (Script.Grammar.reads_awaited (fun heq => ?_) (Script.Grammar.reads_primary
      hx.ne_trailer (Script.Grammar.reads_atom_numeral h))).imp fun e ⟨span, he⟩ => ?_
    · cases (Prod.mk.inj heq).1
    · rw [he]
      exact denotes_literal hv span
  | text ds =>
    refine (Script.Grammar.reads_awaited (fun heq => ?_) (Script.Grammar.reads_primary
      hx.ne_trailer (reads_atom_quoteList ds hx.ne_text))).imp fun e ⟨span, he⟩ => ?_
    · cases (Prod.mk.inj heq).1
    · rw [he]
      exact denotes_literal (by simp) span
  | word ds hcs hy =>
    -- The word within the parentheses is an expression of its own.
    have hword : ∀ rest, Reads (rules (n + 1)).expression [(.text, Text.quoteList ds)]
        ((.operator, [')']) :: rest) fun e =>
          ∃ span, e = .literal (.value (.text (String.ofList ds))) span := by
      intro rest
      have hclosing : Script.Grammar.Closes (.operator, [')']) := .inl rfl
      have hne : ∀ {w : List Char}, ((.text, Text.quoteList ds) : Lexeme) ≠ (.keyword, w) :=
        fun heq => by cases (Prod.mk.inj heq).1
      exact Script.Grammar.reads_expression_awaited hne hne (by simp) hclosing
        (Script.Grammar.reads_awaited hne (Script.Grammar.reads_primary hclosing.ne_trailer
          (reads_atom_quoteList ds hclosing.ne_text)))
    refine (Script.Grammar.reads_awaited (by decide) (Script.Grammar.reads_primary_call (by simp)
      (fun _ => Script.Grammar.fails_walrus (by simp)) hword hx)).imp ?_
    rintro e ⟨argument, span, span'', he, span', hargument⟩
    rw [he, hargument]
    exact denotes_word hcs hy span span' span''

/-- An operand starts with no keyword that is an operator, and with no operator. -/
theorem Operand.opens (h : Operand v cs xs) :
    ∃ y ys, xs = y :: ys ∧ Script.Grammar.Opens y ∧
      ∀ r rest, Fails (Script.Grammar.walrus r) (xs ++ rest) := by
  have hkind : ∀ {k : Script.TokenKind} {ds : List Char}, k ≠ .keyword ∧ k ≠ .operator →
      Script.Grammar.Opens (k, ds) := fun hk =>
    ⟨fun _ _ heq => hk.1 (Prod.mk.inj heq).1, fun _ heq => hk.2 (Prod.mk.inj heq).1⟩
  cases h with
  | bool b =>
    refine ⟨_, _, rfl, ⟨?_, fun _ heq => by cases (Prod.mk.inj heq).1⟩,
      fun r rest => Script.Grammar.fails_walrus (by simp)⟩
    cases b <;> decide
  | numeral hp hpad hv h =>
    exact ⟨_, _, rfl, hkind (by decide), fun r rest => Script.Grammar.fails_walrus (by simp)⟩
  | text ds =>
    exact ⟨_, _, rfl, hkind (by decide), fun r rest => Script.Grammar.fails_walrus (by simp)⟩
  | word ds hcs hy =>
    exact ⟨_, _, rfl, hkind (by decide),
      fun r rest => Script.Grammar.fails_walrus_name (by decide)⟩

theorem Operand.reads_factor (h : Operand v cs xs) (n : ℕ) (hx : Script.Grammar.Closes x) :
    Reads (rules (n + 2)).factor xs (x :: rest) (Denotes v) := by
  have hawaited : Reads _ _ (x :: rest) _ := h.reads_awaited n hx
  obtain ⟨y, ys, rfl, hopens, -⟩ := h.opens
  exact Script.Grammar.reads_factor hopens.2 (Script.Grammar.reads_power hx hawaited)

/-- **The grammar reads a constant**, and folding it gives its value. -/
theorem Constant.reads (h : Constant v cs xs) (n : ℕ) (hx : Script.Grammar.Closes x) :
    Reads (rules (n + 3)).expression xs (x :: rest) (Denotes v) := by
  cases h with
  | operand h =>
    have hfactor : Reads _ _ (x :: rest) _ := h.reads_factor (n + 1) hx
    obtain ⟨y, ys, rfl, hopens, -⟩ := h.opens
    exact Script.Grammar.reads_expression (hopens.1 "lambda" (by simp)) (hopens.1 "not" (by simp)) hx
      hfactor
  | negative h hw =>
    -- Folding puts the sign back to the value.
    refine Script.Grammar.reads_expression (by decide) (by decide) hx
      ((Script.Grammar.reads_minus (h.reads_factor n hx)).imp ?_)
    rintro e ⟨operand, span, rfl, hoperand⟩ scope
    rw [constant, hoperand scope]
    show blame span ((Value.applyUnary .minus _).mapError .operation) = _
    rw [hw]
    rfl

/-- No constant starts as a name with `:=` after it, or with a closing parenthesis. -/
theorem Constant.opens (h : Constant v cs xs) :
    ∃ y ys, xs = y :: ys ∧ y ≠ (.operator, [')']) ∧
      ∀ r rest, Fails (Script.Grammar.walrus r) (xs ++ rest) := by
  cases h with
  | operand h =>
    obtain ⟨y, ys, hxs, hopens, hwalrus⟩ := h.opens
    exact ⟨y, ys, hxs, hopens.2 _, hwalrus⟩
  | negative h hw =>
    exact ⟨_, _, rfl, by decide, fun r rest => Script.Grammar.fails_walrus (by decide)⟩

end

end SpriteStage
