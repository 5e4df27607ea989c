import SpriteStage.Proofs.Script.Reading
import SpriteStage.Script.Grammar.Expression

/-!
# Reading expressions

The grammar looks for an operand through all levels of operators.  Where no operator stands before or
after an operand, each level gives what the level below gives.  This module follows the levels up from
the operands and the calls that a listing is made of.

## Main definitions

* `Script.Grammar.Closes` are the lexemes that may follow an expression in a listing
* `Script.Grammar.Opens` are the lexemes before which no level takes an operator
-/

namespace SpriteStage.Script.Grammar

open SpriteStage.Script.Parser

/-- The lexemes that may follow an expression in a listing. -/
def Closes (x : Lexeme) : Prop :=
  x = (.operator, [')']) ∨ x = (.operator, [':']) ∨ x = (.newline, [])

section

variable {x : Lexeme} (hx : Closes x)

include hx

theorem Closes.ne_operator {s : String} (h : s.toList ≠ [')'] ∧ s.toList ≠ [':']) :
    x ≠ (.operator, s.toList) := by
  rintro rfl
  rcases hx with heq | heq | heq
  · exact h.1 (Prod.mk.inj heq).2
  · exact h.2 (Prod.mk.inj heq).2
  · cases (Prod.mk.inj heq).1

theorem Closes.ne_keyword {cs : List Char} : x ≠ (.keyword, cs) := by
  rintro rfl
  rcases hx with heq | heq | heq <;> cases (Prod.mk.inj heq).1

theorem Closes.ne_text : x.1 ≠ .text := by
  rcases hx with rfl | rfl | rfl <;> decide

end

/-- The lexemes before which no level of expressions takes an operator. -/
def Opens (y : Lexeme) : Prop :=
  (∀ s : String, s ∈ ["lambda", "not", "await"] → y ≠ (.keyword, s.toList)) ∧
    ∀ cs, y ≠ (.operator, cs)

/-! ## Levels of operators -/

section

variable {r : Rules} {x y : Lexeme} {ys rest : List Lexeme} {operand : Parser Expr}
  {Q : Expr → Prop}

/-- No operator of a level comes after an expression. -/
theorem fails_infixOf {ops : List (String × Infix)} (hops : ops ∈ levels) (hx : Closes x) :
    Fails (infixOf ops) (x :: rest) :=
  Fails.bind_look Reads.peek fun t ht => by
    -- All operators are looked through, whatever the level is.
    have hall : ∀ ops ∈ levels, ∀ op ∈ ops, op.1.toList ≠ [')'] ∧ op.1.toList ≠ [':'] := by decide
    have hnone : ops.find? (t.isOperator ·.1) = none := by
      rw [List.find?_eq_none]
      intro op hop
      rw [isOperator_eq, ht, beq_iff_eq]
      exact hx.ne_operator (hall ops hops op hop)
    rw [hnone]
    exact .stuck

theorem reads_chain {ops : List (String × Infix)} (hops : ops ∈ levels) (hx : Closes x)
    (h : Reads operand ys (x :: rest) Q) : Reads (chain ops operand) ys (x :: rest) Q :=
  Reads.here.bind_look fun _ _ => h.bind_then fun _ he =>
    Reads.grow (.stop (fails_infixOf hops hx).bind_left he)

/-- The levels of operators between two operands give the operand. -/
theorem reads_chains {found : List (List (String × Infix))} (hfound : ∀ ops ∈ found, ops ∈ levels)
    (hx : Closes x) (h : Reads operand ys (x :: rest) Q) :
    Reads (chains found operand) ys (x :: rest) Q := by
  induction found with
  | nil => exact h
  | cons ops found ih =>
    exact reads_chain (hfound ops List.mem_cons_self) hx
      (ih fun ops' hops' => hfound ops' (List.mem_cons_of_mem ops hops'))

theorem reads_power (hx : Closes x) (h : Reads operand ys (x :: rest) Q) :
    Reads (power r operand) ys (x :: rest) Q :=
  Reads.here.bind_look fun _ _ => h.bind_then fun _ he =>
    .orElse_right (Fails.op (hx.ne_operator (by decide))).bind_left (.pure he)

/-- No sign comes before an operand. -/
theorem reads_factor (hy : ∀ cs, y ≠ (.operator, cs)) (h : Reads operand (y :: ys) (x :: rest) Q) :
    Reads (factor r operand) (y :: ys) (x :: rest) Q :=
  Reads.bind_ahead Reads.peek fun t ht => by
    have hnone : signs.find? (t.isOperator ·.1) = none := by
      rw [List.find?_eq_none]
      intro op _
      rw [isOperator_eq, ht, beq_iff_eq]
      exact hy _
    rw [hnone]
    exact h

/-- A minus sign before an operand. -/
theorem reads_minus (h : Reads r.factor ys rest Q) :
    Reads (factor r operand) ((.operator, ['-']) :: ys) rest fun e =>
      ∃ operand span, e = .sign (.arithmetic .minus) operand span ∧ Q operand :=
  Reads.bind_ahead Reads.peek fun t ht => by
    have hsign : signs.find? (t.isOperator ·.1) = some ("-", .arithmetic .minus) := by
      simp only [isOperator_eq, ht]
      rfl
    rw [hsign]
    exact Reads.spanned (Reads.bind_one Reads.skip fun _ _ =>
      h.bind_then fun e he => .pure fun span => ⟨e, span, rfl, he⟩)

/-- No comparison comes after an operand. -/
theorem fails_comparator (hx : Closes x) : Fails comparator (x :: rest) :=
  Fails.bind_look Reads.peek fun t ht => by
    have hall : ∀ s ∈ ["==", "!=", "<=", "<", ">=", ">"], s.toList ≠ [')'] ∧ s.toList ≠ [':'] := by
      decide
    have hword : ∀ s, t.isKeyword s = false := fun s => by
      rw [isKeyword_eq, ht, beq_eq_false_iff_ne]
      exact hx.ne_keyword
    have hnone : ["==", "!=", "<=", "<", ">=", ">"].any (t.isOperator ·) = false := by
      rw [List.any_eq_false]
      intro s hs
      rw [isOperator_eq, ht, beq_iff_eq]
      exact hx.ne_operator (hall s hs)
    rw [hword, hword, hword, hnone]
    exact .stuck

theorem reads_comparison (hx : Closes x) (h : Reads operand ys (x :: rest) Q) :
    Reads (comparison operand) ys (x :: rest) Q :=
  Reads.here.bind_look fun _ _ => h.bind_then fun e he =>
    (Reads.many_nil (fails_comparator hx).bind_left).bind_look fun found hfound => by
      subst hfound
      exact .pure he

theorem reads_inversion (hy : y ≠ (.keyword, "not".toList)) (hx : Closes x)
    (h : Reads operand (y :: ys) (x :: rest) Q) :
    Reads (inversion r operand) (y :: ys) (x :: rest) Q :=
  Reads.bind_ahead (Reads.nextWord_ne hy) fun b hb => by
    subst hb
    exact reads_comparison hx h

/-- No connective comes after an operand. -/
theorem reads_connected {s : String} (hx : Closes x) (h : Reads operand ys (x :: rest) Q) :
    Reads (connected s operand) ys (x :: rest) Q :=
  Reads.here.bind_look fun _ _ => h.bind_then fun e he =>
    (Reads.many_nil (Fails.word hx.ne_keyword).bind_left).bind_look fun found hfound => by
      subst hfound
      exact .pure he

/-- **An operand is an expression** where no operator comes before or after it. -/
theorem reads_expression (hlambda : y ≠ (.keyword, "lambda".toList))
    (hnot : y ≠ (.keyword, "not".toList)) (hx : Closes x)
    (h : Reads (factor r (power r (awaited r))) (y :: ys) (x :: rest) Q) :
    Reads (expression r) (y :: ys) (x :: rest) Q := by
  -- Up through the levels: operators, comparisons, negations and connectives.
  have hdisjunction : Reads (disjunction r) (y :: ys) (x :: rest) Q :=
    reads_connected hx (reads_connected hx (reads_inversion hnot hx
      (reads_chains (fun _ => id) hx h)))
  refine Reads.bind_ahead (Reads.nextWord_ne hlambda) fun b hb => ?_
  subst hb
  refine Reads.outlook.bind_look fun start hstart => Reads.here.bind_look fun _ _ =>
    hdisjunction.bind_then fun e he => ?_
  -- What is often meant by an expression without `else` is looked for in the other mode only.
  rw [hstart]
  refine Reads.bind_end (Reads.nextWord_ne hx.ne_keyword) fun b hb => ?_
  subst hb
  exact .pure he

/-- A single expression has no comma after it. -/
theorem reads_starExpressions (hy : y ≠ (.operator, "*".toList)) (hx : Closes x)
    (h : Reads (expression r) (y :: ys) (x :: rest) Q) :
    Reads (starExpressions r) (y :: ys) (x :: rest) Q := by
  have hstar : Reads (starExpression r) (y :: ys) (x :: rest) Q := by
    refine Reads.bind_ahead (Reads.nextOp_ne hy) fun b hb => ?_
    subst hb
    exact h
  have hcomma : x ≠ (.operator, [',']) := hx.ne_operator (s := ",") (by decide)
  refine Reads.here.bind_look fun _ _ => hstar.bind_then fun e he =>
    (Reads.many_nil (Fails.op hcomma).bind_left).bind_look fun more hmore =>
      (Reads.trailingComma hcomma).bind_look fun comma hcomma => ?_
  subst hmore hcomma
  exact .pure he

end

/-! ## Operands -/

section

variable {r : Rules} {x : Lexeme} {ys rest : List Lexeme} {Q : Expr → Prop}

/-- A name is an operand. -/
theorem reads_atom_name {cs : List Char} :
    Reads (atom r) [(.name, cs)] rest fun e => ∃ span, e = .name (identifier cs) span :=
  Reads.here.bind_look fun _ _ => Reads.bind_ahead Reads.peek fun t ht => by
    rw [kind_eq ht]
    refine Reads.bind_then Reads.skip fun _ _ => Reads.spanFrom.bind_look fun span _ => .pure ?_
    rw [(Prod.mk.inj ht).2]
    exact ⟨span, rfl⟩

/-- A truth value is an operand. -/
theorem reads_atom_bool (b : Bool) :
    Reads (atom r) [(.keyword, (if b then "True" else "False").toList)] rest fun e =>
      ∃ span, e = .literal (.value (.bool b)) span :=
  Reads.here.bind_look fun _ _ => Reads.bind_ahead Reads.peek fun t ht => by
    have hconstant : constantOf? t = some (.value (.bool b)) := by
      simp only [constantOf?, isKeyword_eq, ht]
      cases b <;> rfl
    rw [kind_eq ht]
    dsimp only
    rw [hconstant]
    exact Reads.bind_then Reads.skip fun _ _ => Reads.spanFrom.bind_look fun span _ =>
      .pure ⟨span, rfl⟩

/-- A numeral is an operand. -/
theorem reads_atom_numeral {cs : List Char} {l : Literal} (h : Literal.ofNumeral cs = .ok l) :
    Reads (atom r) [(.numeral, cs)] rest fun e => ∃ span, e = .literal l span :=
  Reads.here.bind_look fun _ _ => Reads.bind_ahead Reads.peek fun t ht => by
    rw [kind_eq ht]
    refine Reads.spanned ((Reads.token fun t ht => by rw [kind_eq ht]; rfl).bind_then
      fun t ht => ?_)
    rw [(Prod.mk.inj ht).2, h]
    exact .pure fun span => ⟨span, rfl⟩

/-- A quoted text is an operand, unless another one follows. -/
theorem reads_atom_text {cs : List Char} {codes : List ℕ} (h : QuotedPart.ofToken cs = .ok (.text codes))
    (hx : x.1 ≠ .text) :
    Reads (atom r) [(.text, cs)] (x :: rest) fun e =>
      ∃ span, e = .literal (.value (.text (Quotation.textOf codes))) span :=
  Reads.here.bind_look fun _ _ => Reads.bind_ahead Reads.peek fun t ht => by
    rw [kind_eq ht]
    -- Texts that stand side by side would be joined.
    have hstop : Fails (Parser.token (·.kind == .text)) (x :: rest) := Fails.token fun t ht => by
      rw [kind_eq ht]
      exact beq_eq_false_iff_ne.2 hx
    have htokens : Reads (some' (Parser.token (·.kind == .text))) [(.text, cs)] (x :: rest)
        fun found => ∃ t : Token, found = [t] ∧ t.chars = cs :=
      (Reads.token fun t ht => by rw [kind_eq ht]; rfl).bind_then fun t ht =>
        (Reads.many_nil hstop).bind_look fun more hmore =>
          .pure ⟨t, by rw [hmore], (Prod.mk.inj ht).2⟩
    refine Reads.spanned (htokens.bind_then fun found ⟨t, hfound, hchars⟩ => ?_)
    subst hfound
    rw [joinTexts, hchars, h]
    exact .pure fun span => ⟨span, rfl⟩

/-! ## Calls and attributes -/

/-- No call, attribute or subscript comes before some lexemes. -/
theorem fails_trailer {start : Position} {e : Expr}
    (hx : x ≠ (.operator, ['.']) ∧ x ≠ (.operator, ['(']) ∧ x ≠ (.operator, ['['])) :
    Fails (trailer r start e) (x :: rest) :=
  Fails.bind_look Reads.peek fun t ht => by
    have hop : ∀ s : String, x ≠ (.operator, s.toList) → t.isOperator s = false := fun s hs => by
      rw [isOperator_eq, ht]
      exact beq_eq_false_iff_ne.2 hs
    rw [hop "." hx.1, hop "(" hx.2.1, hop "[" hx.2.2]
    exact .stuck

theorem reads_attribute {start : Position} {e : Expr} {cs : List Char} :
    Reads (trailer r start e) [(.operator, ['.']), (.name, cs)] rest fun found =>
      ∃ span, found = .attribute e (identifier cs) span :=
  Reads.bind_ahead Reads.peek fun t ht => by
    have hpoint : t.isOperator "." = true := by
      rw [isOperator_eq, ht]
      rfl
    rw [hpoint]
    refine Reads.bind_one Reads.skip fun _ _ => Reads.name.bind_then fun id hid =>
      Reads.spanFrom.bind_look fun span _ => .pure ⟨span, ?_⟩
    rw [hid]

/-- **An argument** is an expression that no name and `:=` start. -/
theorem reads_callArguments {opening : Position} {y : Lexeme}
    (hy : y ≠ (.operator, [')']))
    (hwalrus : Fails (walrus r) (y :: ys ++ (.operator, [')']) :: rest))
    (h : Reads r.expression (y :: ys) ((.operator, [')']) :: rest) Q) :
    Reads (callArguments r opening) (y :: ys ++ [(.operator, [')'])]) rest fun found =>
      ∃ e, found = ([e], []) ∧ Q e := by
  have helement : Reads (element r) (y :: ys) ((.operator, [')']) :: rest) Q :=
    .orElse_right hwalrus (h.bind_then fun e he =>
      (Reads.notOp (by decide)).bind_look fun _ _ => .pure he)
  have hcomma : ((.operator, [')']) : Lexeme) ≠ (.operator, [',']) := by decide
  -- Neither a generator nor a further argument comes after the first one.
  have hafter : ∀ e, Q e → Reads (afterElement r opening e) [(.operator, [')'])] rest fun found =>
      ∃ e, found = ([e], []) ∧ Q e := by
    intro e he
    refine Reads.bind_ahead (Reads.nextIs (b := false) fun t ht => ?_) fun b hb => ?_
    · rw [isKeyword_eq, isKeyword_eq, ht]
      rfl
    subst hb
    refine Reads.bind_ahead (Reads.notOp (by decide)) fun _ _ =>
      (Reads.many_nil (Fails.op hcomma).bind_left).bind_look fun more hmore =>
        (Reads.optional_none (Fails.op hcomma).bind_left).bind_look fun named hnamed =>
          (Reads.trailingComma hcomma).bind_look fun _ _ =>
            Reads.op.bind_then fun _ _ => .pure ⟨e, ?_, he⟩
    subst hmore hnamed
    rfl
  refine Reads.bind_ahead (Reads.nextOp_ne hy) fun b hb => ?_
  subst hb
  exact .orElse_left (helement.bind hafter)

/-- A call after an operand. -/
theorem reads_call {start : Position} {e : Expr} {y : Lexeme} (hy : y ≠ (.operator, [')']))
    (hwalrus : Fails (walrus r) (y :: ys ++ (.operator, [')']) :: rest))
    (h : Reads r.expression (y :: ys) ((.operator, [')']) :: rest) Q) :
    Reads (trailer r start e) ((.operator, ['(']) :: (y :: ys ++ [(.operator, [')'])])) rest
      fun found => ∃ argument span, found = .call e [argument] [] span ∧ Q argument :=
  Reads.bind_ahead Reads.peek fun t ht => by
    have hpoint : t.isOperator "." = false := by
      rw [isOperator_eq, ht]
      rfl
    have hopening : t.isOperator "(" = true := by
      rw [isOperator_eq, ht]
      rfl
    rw [hpoint, hopening]
    refine Reads.bind_one Reads.skip fun _ _ =>
      (reads_callArguments hy hwalrus h).bind_then fun found ⟨argument, hfound, hargument⟩ =>
        Reads.spanFrom.bind_look fun span _ => .pure ⟨argument, span, ?_, hargument⟩
    subst hfound
    rfl

/-! ## Operands with what comes after them -/

/-- An operand with nothing after it. -/
theorem reads_primary (hx : x ≠ (.operator, ['.']) ∧ x ≠ (.operator, ['(']) ∧ x ≠ (.operator, ['[']))
    (h : Reads (atom r) ys (x :: rest) Q) : Reads (primary r) ys (x :: rest) Q :=
  Reads.here.bind_look fun _ _ => h.bind_then fun _ he => Reads.grow (.stop (fails_trailer hx) he)

theorem Closes.ne_trailer (hx : Closes x) :
    x ≠ (.operator, ['.']) ∧ x ≠ (.operator, ['(']) ∧ x ≠ (.operator, ['[']) :=
  ⟨hx.ne_operator (s := ".") (by decide), hx.ne_operator (s := "(") (by decide),
    hx.ne_operator (s := "[") (by decide)⟩

section

variable {y : Lexeme} (hy : y ≠ (.operator, [')']))
  (hwalrus : ∀ rest, Fails (walrus r) (y :: ys ++ (.operator, [')']) :: rest))
  (h : ∀ rest, Reads r.expression (y :: ys) ((.operator, [')']) :: rest) Q) (hx : Closes x)

include hy hwalrus h hx

theorem reads_primary_call {cs : List Char} :
    Reads (primary r) ((.name, cs) :: (.operator, ['(']) :: (y :: ys ++ [(.operator, [')'])]))
      (x :: rest) fun e => ∃ argument span span',
        e = .call (.name (identifier cs) span) [argument] [] span' ∧ Q argument := by
  refine Reads.here.bind_look fun start _ =>
    Reads.bind_one reads_atom_name fun e ⟨span, he⟩ => Reads.grow ?_
  subst he
  exact .last (reads_call hy (hwalrus _) (h _)) (fun _ => fails_trailer hx.ne_trailer)
    fun found ⟨argument, span', hfound, hargument⟩ => ⟨argument, span, span', hfound, hargument⟩

theorem reads_primary_method {owner name : List Char} :
    Reads (primary r) ((.name, owner) :: (.operator, ['.']) :: (.name, name) ::
        (.operator, ['(']) :: (y :: ys ++ [(.operator, [')'])]))
      (x :: rest) fun e => ∃ argument span span' span'',
        e = .call (.attribute (.name (identifier owner) span) (identifier name) span')
          [argument] [] span'' ∧ Q argument := by
  refine Reads.here.bind_look fun start _ =>
    Reads.bind_one reads_atom_name fun e ⟨span, he⟩ => Reads.grow ?_
  subst he
  -- First the attribute, then its call.
  refine Grows.step (show Reads _ [_, _] _ _ from reads_attribute) fun found ⟨span', hfound⟩ => ?_
  subst hfound
  exact .last (reads_call hy (hwalrus _) (h _)) (fun _ => fails_trailer hx.ne_trailer)
    fun found ⟨argument, span'', hfound, hargument⟩ =>
      ⟨argument, span, span', span'', hfound, hargument⟩

end

/-- What is awaited. -/
theorem reads_await (h : Reads (primary r) ys rest Q) :
    Reads (awaited r) ((.keyword, "await".toList) :: ys) rest fun e =>
      ∃ operand span, e = .await operand span ∧ Q operand :=
  Reads.bind_ahead Reads.nextWord fun b hb => by
    subst hb
    exact Reads.spanned (Reads.bind_one Reads.skip fun _ _ =>
      h.bind_then fun e he => .pure fun span => ⟨e, span, rfl, he⟩)

/-- An operand that is not awaited. -/
theorem reads_awaited {y : Lexeme} (hy : y ≠ (.keyword, "await".toList))
    (h : Reads (primary r) (y :: ys) rest Q) : Reads (awaited r) (y :: ys) rest Q :=
  Reads.bind_ahead (Reads.nextWord_ne hy) fun b hb => by
    subst hb
    exact h

/-- An operand without operators is an expression. -/
theorem reads_expression_awaited {y : Lexeme} (hlambda : y ≠ (.keyword, "lambda".toList))
    (hnot : y ≠ (.keyword, "not".toList)) (hsign : ∀ cs, y ≠ (.operator, cs)) (hx : Closes x)
    (h : Reads (awaited r) (y :: ys) (x :: rest) Q) :
    Reads (expression r) (y :: ys) (x :: rest) Q :=
  reads_expression hlambda hnot hx (reads_factor hsign (reads_power hx h))

/-- A call of a name is an expression. -/
theorem reads_expression_call {cs : List Char} {y : Lexeme} (hy : y ≠ (.operator, [')']))
    (hwalrus : ∀ rest, Fails (walrus r) (y :: ys ++ (.operator, [')']) :: rest))
    (h : ∀ rest, Reads r.expression (y :: ys) ((.operator, [')']) :: rest) Q) (hx : Closes x) :
    Reads (expression r) ((.name, cs) :: (.operator, ['(']) :: (y :: ys ++ [(.operator, [')'])]))
      (x :: rest) fun e => ∃ argument span span',
        e = .call (.name (identifier cs) span) [argument] [] span' ∧ Q argument :=
  reads_expression_awaited (by simp) (by simp) (by simp) hx
    (reads_awaited (by simp) (reads_primary_call hy hwalrus h hx))

/-! ## Expressions that assign on the way -/

/-- What starts with no name assigns nothing on the way. -/
theorem fails_walrus (hx : x.1 ≠ .name) : Fails (walrus r) (x :: rest) :=
  (Fails.spanned (Fails.name hx).bind_left).bind_left.spanned

/-- What starts with a name assigns nothing on the way unless `:=` follows the name. -/
theorem fails_walrus_name {cs : List Char} (hx : x ≠ (.operator, ":=".toList)) :
    Fails (walrus r) ((.name, cs) :: x :: rest) :=
  Fails.spanned (Fails.bind_one (Q := fun _ => True)
    (Reads.spanned (Reads.name.bind_then fun _ _ => .pure fun _ => trivial))
    fun _ _ => (Fails.op hx).bind_left)

end

end SpriteStage.Script.Grammar
