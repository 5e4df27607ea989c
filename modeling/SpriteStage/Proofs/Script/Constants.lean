import SpriteStage.Proofs.Script.Reading
import SpriteStage.Script.Reading

/-!
# The constants of a script

A constant that a script writes is a number, a text or a truth value, or no value that a program may
use.  So no list and no object gets into a program by way of a text.  `isPlain_of_read` carries this
through the grammar, from the tokens of constants up to whole scripts.

## Main definitions

* `Value.isScalar` holds of numbers, texts and truth values
* `Script.Expr.isPlain` says that the operands of an expression that may be constants are scalars
* `Script.Parser.Yields` says that what a parser reads has a property
-/

namespace SpriteStage

/-- Whether a value is a truth value, a number or a text. -/
def Value.isScalar : Value → Bool
  | .bool _ | .int _ | .float _ | .text _ => true
  | .null | .list _ | .object _ => false

namespace Script

/-- Whether a constant is a scalar if programs may use it. -/
def Literal.isPlain : Literal → Bool
  | .value .null => true
  | .value v => v.isScalar
  | .ellipsis | .imaginary _ | .bytes _ => true

mutual

/-- Whether the constants of an expression are plain, wherever a program may use them. -/
def Expr.isPlain : Expr → Bool
  | .literal value _ => value.isPlain
  | .sign _ operand _ => operand.isPlain
  | .binary _ left right _ => left.isPlain && right.isPlain
  | .call _ arguments _ _ => Expr.arePlain arguments
  | .await operand _ => operand.isPlain
  | .name .. | .attribute .. | .other .. => true

/-- Whether the constants of expressions are plain. -/
def Expr.arePlain : List Expr → Bool
  | [] => true
  | e :: rest => e.isPlain && Expr.arePlain rest

end

mutual

/-- Whether the constants of a statement are plain, wherever a program may use them. -/
def Stmt.isPlain : Stmt → Bool
  | .expr value _ => value.isPlain
  | .loop _ range body _ _ => range.isPlain && Stmt.arePlain body
  | .raise exception cause _ => exception.all Expr.isPlain && cause.all Expr.isPlain
  | .pass _ | .other .. => true

/-- Whether the constants of statements are plain. -/
def Stmt.arePlain : List Stmt → Bool
  | [] => true
  | s :: rest => s.isPlain && Stmt.arePlain rest

end

theorem Expr.arePlain_eq_all (es : List Expr) : Expr.arePlain es = es.all Expr.isPlain := by
  induction es with
  | nil => rfl
  | cons e es ih => rw [arePlain, ih, List.all_cons]

theorem Stmt.arePlain_eq_all (ss : List Stmt) : Stmt.arePlain ss = ss.all Stmt.isPlain := by
  induction ss with
  | nil => rfl
  | cons s ss ih => rw [arePlain, ih, List.all_cons]

/-! ## What parsers yield -/

namespace Parser

variable {α β : Type}

/-- What a parser reads has a property. -/
def Yields (p : Parser α) (Q : α → Prop) : Prop := ∀ s a t, p s = .ok a t → Q a

variable {p q : Parser α} {f : α → Parser β} {Q : α → Prop} {R : β → Prop}

theorem Yields.any : Yields p fun _ => True := fun _ _ _ _ => trivial

theorem Yields.pure {a : α} (ha : Q a) : Yields (Pure.pure a) Q := by
  rintro s b t ⟨⟩
  exact ha

theorem Yields.stuck : Yields (Parser.stuck : Parser α) Q := by
  rintro s a t ⟨⟩

theorem Yields.object {cause : Cause} {place : Place} :
    Yields (Parser.object cause place : Parser α) Q := by
  rintro s a t ⟨⟩

/-- What comes last in a sequence is what it yields. -/
theorem Yields.bind (h : Yields p Q) (hf : ∀ a, Q a → Yields (f a) R) : Yields (p >>= f) R := by
  intro s b t heq
  rw [bind_apply] at heq
  split at heq
  · rename_i a u hp
    exact hf a (h s a u hp) u b t heq
  · cases heq
  · cases heq

/-- What is read first may not matter. -/
theorem Yields.after (hf : ∀ a, Yields (f a) R) : Yields (p >>= f) R :=
  Yields.any.bind fun a _ => hf a

theorem Yields.map {g : α → β} (h : Yields p fun a => R (g a)) : Yields (g <$> p) R :=
  h.bind fun _ ha => .pure ha

theorem Yields.seqLeft {r : Parser β} (h : Yields p Q) : Yields (p <* r) Q :=
  h.bind fun _ ha => .after fun _ => .pure ha

theorem Yields.seqRight {r : Parser β} (h : Yields r R) : Yields (p *> r) R :=
  .after fun _ => h

theorem Yields.orElse (hp : Yields p Q) (hq : Yields q Q) : Yields (p <|> q) Q := by
  intro s a t heq
  rw [orElse_apply] at heq
  split at heq
  · exact hq _ a t heq
  · exact hp s a t heq

theorem Yields.ite {c : Prop} [Decidable c] (hp : Yields p Q) (hq : Yields q Q) :
    Yields (if c then p else q) Q := by
  split
  · exact hp
  · exact hq

theorem Yields.imp {Q' : α → Prop} (h : Yields p Q) (himp : ∀ a, Q a → Q' a) : Yields p Q' :=
  fun s a t heq => himp a (h s a t heq)

theorem Yields.optional (h : Yields p Q) : Yields (optional p) fun o => ∀ a ∈ o, Q a := by
  apply Yields.orElse
  · exact .map (h.imp fun a ha => by simpa using ha)
  · exact .pure (by simp)

/-- What all repetitions keep holds after them. -/
theorem Yields.grow {part : α → Parser α} {a : α} (ha : Q a)
    (hpart : ∀ a, Q a → Yields (part a) Q) : Yields (grow part a) Q := by
  have hfrom : ∀ n a, Q a → Yields (growFrom part n a) Q := by
    intro n
    induction n with
    | zero => exact fun a ha => .pure ha
    | succ n ih =>
      intro a ha s b t heq
      rw [growFrom_succ_apply] at heq
      split at heq
      · rename_i c u hc
        exact ih c (hpart a ha s c u hc) u b t heq
      · cases heq
        exact ha
      · cases heq
  exact fun s b t heq => hfrom _ a ha s b t heq

theorem Yields.many (h : Yields p Q) : Yields (many p) fun found => ∀ a ∈ found, Q a := by
  have hgrow : Yields (Parser.grow (fun found => (· :: found) <$> p) [])
      fun found => ∀ a ∈ found, Q a := by
    apply Yields.grow
    · simp
    · exact fun found hfound => .map (h.imp fun a ha => by simpa using ⟨ha, hfound⟩)
  exact .map (hgrow.imp fun found hfound => by simpa using hfound)

theorem Yields.some' (h : Yields p Q) : Yields (some' p) fun found => ∀ a ∈ found, Q a :=
  h.bind fun a ha => h.many.bind fun found hfound => .pure (by simpa using ⟨ha, hfound⟩)

theorem Yields.separated {s : String} (h : Yields p Q) :
    Yields (separated s p) fun found => ∀ a ∈ found, Q a :=
  h.bind fun a ha => (Yields.seqRight h).many.bind fun found hfound =>
    .pure (by simpa using ⟨ha, hfound⟩)

theorem Yields.spanned {p : Parser (Span → α)} (h : Yields p fun f => ∀ span, Q (f span)) :
    Yields (spanned p) Q :=
  .after fun _ => h.bind fun _ hf => .after fun span => .pure (hf span)

end Parser

/-! ## Constants -/

/-- A numeral is plain. -/
theorem Literal.isPlain_of_ofNumeral {cs : List Char} {v : Literal} (h : ofNumeral cs = .ok v) :
    v.isPlain = true := by
  simp only [ofNumeral] at h
  split at h
  · cases h
    rfl
  · split at h
    · split at h
      · cases h
      · cases h
        rfl
    · split at h <;> cases h <;> rfl

namespace Grammar

open Script.Parser

/-- What a parser of expressions reads is plain. -/
abbrev Plain (p : Parser Expr) : Prop := p.Yields fun e => e.isPlain = true

theorem plain_texts : Plain texts := by
  apply Yields.spanned
  refine .after fun tokens => .after fun found => ?_
  cases found with
  | text cs => exact .pure fun _ => rfl
  | bytes bs => exact .pure fun _ => rfl
  | template => exact .pure fun _ => rfl

theorem plain_numeral : Plain numeral := by
  apply Yields.spanned
  refine .after fun t => ?_
  cases h : Literal.ofNumeral t.chars with
  | ok v => exact .pure fun _ => Literal.isPlain_of_ofNumeral h
  | error cause => exact .object

theorem isPlain_of_constantOf? {t : Token} {v : Literal} (h : constantOf? t = some v) :
    v.isPlain = true := by
  simp only [constantOf?] at h
  split at h
  · cases h; rfl
  split at h
  · cases h; rfl
  split at h
  · cases h; rfl
  split at h
  · cases h; rfl
  · cases h

/-! ## Arguments of calls -/

/-- Whether an argument of a call is plain, if it is one without a name. -/
def Argument.isPlain : Argument → Bool
  | .positional value => value.isPlain
  | .named _ => true

theorem isPlain_append {first : List Argument} {more : Option (List Argument)}
    (hfirst : ∀ x ∈ first, x.isPlain = true) (hmore : ∀ found ∈ more, ∀ x ∈ found, x.isPlain = true) :
    ∀ x ∈ first ++ more.getD [], x.isPlain = true := by
  intro x hx
  rcases List.mem_append.1 hx with hx | hx
  · exact hfirst x hx
  · cases more with
    | none => cases hx
    | some found => exact hmore found rfl x hx

theorem arePlain_values {found : List Argument} (h : ∀ x ∈ found, x.isPlain = true) :
    Expr.arePlain (Argument.values found) = true := by
  rw [Expr.arePlain_eq_all, List.all_eq_true]
  intro e he
  obtain ⟨x, hx, hxe⟩ := List.mem_filterMap.1 he
  cases x with
  | positional value =>
    cases hxe
    exact h _ hx
  | named keyword => cases hxe

/-! ## Rules -/

/-- The rules for the parts of a part read plain expressions. -/
structure Rules.Plain (r : Rules) : Prop where
  primary : Grammar.Plain r.primary
  factor : Grammar.Plain r.factor
  bitwiseOr : Grammar.Plain r.bitwiseOr
  inversion : Grammar.Plain r.inversion
  disjunction : Grammar.Plain r.disjunction
  expression : Grammar.Plain r.expression
  named : Grammar.Plain r.named
  starNamed : Grammar.Plain r.starNamed
  starExpressions : Grammar.Plain r.starExpressions
  yieldExpr : Grammar.Plain r.yieldExpr

section

variable {r : Rules}

/-! ### Brackets -/

theorem plain_inParentheses (hr : Rules.Plain r) (start : Position) :
    Plain (inParentheses r start) := by
  refine .after fun isEmpty => .ite (.after fun _ => .after fun _ => .pure rfl) ?_
  refine .orElse (.after fun isYield => .ite hr.yieldExpr.seqLeft ?_)
    (.after fun _ => .after fun _ => .stuck)
  -- Only a single expression is itself what the parentheses hold.
  refine hr.starNamed.bind fun e he => .after fun isTuple => .ite ?_ ?_
  · exact .after fun rest => .after fun _ =>
      .ite (.after fun _ => .pure rfl) (.after fun _ => .pure rfl)
  · exact .after fun _ => .after fun isClause =>
      .ite (.after fun _ => .after fun _ => .after fun _ => .pure rfl) (.after fun _ => .pure he)

theorem plain_inSquareBrackets (start : Position) : Plain (inSquareBrackets r start) := by
  refine .after fun isEmpty => .ite (.after fun _ => .after fun _ => .pure rfl) ?_
  refine .orElse (.after fun e => .after fun isClause => .ite ?_ ?_)
    (.after fun _ => .after fun _ => .stuck)
  · exact .after fun _ => .after fun _ => .after fun _ => .pure rfl
  · exact .after fun _ => .after fun _ => .after fun _ => .pure rfl

theorem plain_moreEntries (start : Position) : Plain (moreEntries r start) :=
  .after fun _ => .after fun _ => .after fun _ => .after fun _ => .pure rfl

theorem plain_moreElements (start : Position) (first : Expr) :
    Plain (moreElements r start first) := by
  refine .after fun isClause => .ite ?_ ?_
  · exact .after fun _ => .after fun _ => .after fun _ => .pure rfl
  · exact .after fun _ => .after fun _ => .after fun _ => .pure rfl

theorem plain_inBraces (start : Position) : Plain (inBraces r start) := by
  refine .after fun isEmpty => .ite (.after fun _ => .after fun _ => .pure rfl) ?_
  refine .orElse (.after fun isUnpacked => .ite ?_ (.after fun isStarred => .ite ?_ ?_)) ?_
  · exact .after fun _ => .after fun _ => plain_moreEntries start
  · exact .after fun e => plain_moreElements start e
  · refine .orElse (.after fun e => plain_moreElements start e) ?_
    refine .after fun before => .after fun e => .after fun isEntry => .ite ?_ ?_
    · refine .after fun _ => .after fun _ => .after fun isClause => .ite ?_ (plain_moreEntries start)
      exact .after fun _ => .after fun _ => .after fun _ => .pure rfl
    · exact .after fun _ => .after fun _ => plain_moreElements start e
  · exact .after fun _ => .after fun _ => .after fun _ => .after fun _ => .stuck

/-! ### Operands -/

theorem plain_atom (hr : Rules.Plain r) : Plain (atom r) := by
  refine .after fun start => .after fun t => ?_
  split
  case h_1 => exact .after fun _ => .after fun _ => .pure rfl
  case h_2 => exact plain_numeral
  case h_3 => exact plain_texts
  case h_4 | h_5 =>
    cases h : constantOf? t with
    | some v => exact .after fun _ => .after fun _ => .pure (isPlain_of_constantOf? h)
    | none =>
      refine .ite (.after fun _ => plain_inParentheses hr start) ?_
      refine .ite (.after fun _ => plain_inSquareBrackets start) ?_
      exact .ite (.after fun _ => plain_inBraces start) .stuck
  case h_6 => exact .stuck

theorem plain_starred : Plain (starred r) := by
  apply Yields.spanned
  exact .after fun _ => .after fun _ => .pure fun _ => rfl

theorem plain_walrus : Plain (walrus r) := by
  apply Yields.spanned
  exact .after fun _ => .after fun _ => .after fun _ => .pure fun _ => rfl

theorem plain_element (hr : Rules.Plain r) : Plain (element r) := by
  refine .orElse plain_walrus ?_
  exact hr.expression.bind fun e he => .after fun _ => .pure he

theorem plain_positional (hr : Rules.Plain r) : Plain (positional r) := by
  refine .after fun isStar => .ite plain_starred ?_
  exact (plain_element hr).bind fun e he => .after fun _ => .pure he

/-! ### Arguments -/

theorem plain_labelledOrStarred : (labelledOrStarred r).Yields fun x => x.isPlain = true := by
  refine .after fun _ => .orElse (.map (.imp .any fun _ _ => rfl)) (.map plain_starred)

theorem plain_labelledOrDoubleStarred :
    (labelledOrDoubleStarred r).Yields fun x => x.isPlain = true :=
  .after fun _ => .orElse (.map (.imp .any fun _ _ => rfl)) (.map (.imp .any fun _ _ => rfl))

theorem plain_keywordPart : (keywordPart r).Yields fun found => ∀ x ∈ found, x.isPlain = true := by
  refine .orElse ?_ plain_labelledOrDoubleStarred.separated
  refine plain_labelledOrStarred.separated.bind fun first hfirst => ?_
  refine (Yields.seqRight plain_labelledOrDoubleStarred.separated).optional.bind fun more hmore => ?_
  exact .pure (isPlain_append hfirst hmore)

theorem plain_argumentList (hr : Rules.Plain r) :
    (argumentList r).Yields fun found => ∀ x ∈ found, x.isPlain = true := by
  refine .orElse ?_ plain_keywordPart
  refine (plain_positional hr).separated.bind fun first hfirst => ?_
  refine (Yields.seqRight plain_keywordPart).optional.bind fun more hmore => ?_
  refine .pure (isPlain_append ?_ hmore)
  simpa [Argument.isPlain] using hfirst

theorem plain_afterElement (hr : Rules.Plain r) (opening : Position) {first : Expr}
    (hfirst : first.isPlain = true) :
    (afterElement r opening first).Yields fun found => Expr.arePlain found.1 = true := by
  refine .after fun isClause => .ite ?_ ?_
  · exact .after fun _ => .after fun _ => .after fun _ => .pure rfl
  · refine .after fun _ => ?_
    refine (Yields.seqRight (plain_positional hr)).many.bind fun more hmore => ?_
    refine (Yields.seqRight plain_keywordPart).optional.bind fun found hfound => ?_
    refine .after fun _ => .after fun _ => .pure ?_
    have hnone : ∀ x ∈ ([] : List Argument), x.isPlain = true := by simp
    have hvalues : Expr.arePlain (Argument.values (found.getD [])) = true :=
      arePlain_values (isPlain_append hnone hfound)
    rw [Expr.arePlain_eq_all, List.all_eq_true] at hvalues ⊢
    intro e he
    rcases List.mem_append.1 he with he | he
    · rcases List.mem_cons.1 he with rfl | he
      · exact hfirst
      · exact hmore e he
    · exact hvalues e he

theorem plain_callArguments (hr : Rules.Plain r) (opening : Position) :
    (callArguments r opening).Yields fun found => Expr.arePlain found.1 = true := by
  refine .after fun isEmpty => .ite (.after fun _ => .pure rfl) ?_
  refine .orElse ((plain_element hr).bind fun first hfirst => plain_afterElement hr opening hfirst) ?_
  refine .orElse ?_ (.after fun _ => .stuck)
  refine (plain_argumentList hr).bind fun found hfound => .after fun _ => .after fun _ => .pure ?_
  exact arePlain_values hfound

theorem plain_trailer (hr : Rules.Plain r) (start : Position) (e : Expr) :
    Plain (trailer r start e) := by
  refine .after fun t => .ite ?_ (.ite ?_ (.ite ?_ .stuck))
  · exact .after fun _ => .after fun _ => .after fun _ => .pure rfl
  · exact .after fun _ => (plain_callArguments hr _).bind fun found hfound =>
      .after fun _ => .pure hfound
  · exact .after fun _ => .after fun _ => .after fun _ => .after fun _ => .pure rfl

theorem plain_primary (hr : Rules.Plain r) : Plain (primary r) := by
  refine .after fun start => (plain_atom hr).bind fun e he => ?_
  exact .grow he fun e _ => plain_trailer hr start e

theorem plain_awaited (hr : Rules.Plain r) : Plain (awaited r) := by
  refine .after fun isAwaited => .ite ?_ (plain_primary hr)
  apply Yields.spanned
  exact .after fun _ => (plain_primary hr).bind fun e he => .pure fun _ => he

theorem plain_named {expression : Parser Expr} (h : Plain expression) :
    Plain (named r expression) := by
  refine .orElse plain_walrus (.after fun start => ?_)
  exact h.bind fun e he => .after fun _ => .after fun _ => .pure he

theorem plain_starNamed {named : Parser Expr} (h : Plain named) :
    Plain (starNamed r named) := by
  refine .after fun isStar => .ite ?_ h
  apply Yields.spanned
  exact .after fun _ => .after fun _ => .pure fun _ => rfl

/-! ### Operators -/

theorem plain_chain {operand : Parser Expr} (h : Plain operand) (ops : List (String × Infix)) :
    Plain (chain ops operand) := by
  refine .after fun start => h.bind fun first hfirst => .grow hfirst fun left hleft => ?_
  refine .after fun op => h.bind fun right hright => .after fun _ => .pure ?_
  rw [Expr.isPlain, hleft, hright]
  rfl

theorem plain_chains {operand : Parser Expr} (h : Plain operand)
    (levels : List (List (String × Infix))) : Plain (chains levels operand) := by
  induction levels with
  | nil => exact h
  | cons ops levels ih => exact plain_chain ih ops

theorem plain_factor (hr : Rules.Plain r) {power : Parser Expr} (h : Plain power) :
    Plain (factor r power) := by
  refine .after fun t => ?_
  split
  · apply Yields.spanned
    exact .after fun _ => hr.factor.bind fun e he => .pure fun _ => he
  · exact h

theorem plain_power (hr : Rules.Plain r) {operand : Parser Expr} (h : Plain operand) :
    Plain (power r operand) := by
  refine .after fun start => h.bind fun base hbase => .orElse (.after fun _ => ?_) (.pure hbase)
  refine hr.factor.bind fun exponent hexponent => .after fun _ => .pure ?_
  rw [Expr.isPlain, hbase, hexponent]
  rfl

theorem plain_comparison {operand : Parser Expr} (h : Plain operand) :
    Plain (comparison operand) := by
  refine .after fun start => h.bind fun first hfirst => .after fun found => ?_
  cases found with
  | nil => exact .pure hfirst
  | cons isIn found => exact .after fun _ => .pure rfl

theorem plain_inversion (hr : Rules.Plain r) {operand : Parser Expr} (h : Plain operand) :
    Plain (inversion r operand) := by
  refine .after fun isNegated => .ite ?_ (plain_comparison h)
  apply Yields.spanned
  exact .after fun _ => hr.inversion.bind fun e he => .pure fun _ => he

theorem plain_connected {operand : Parser Expr} (h : Plain operand) (connective : String) :
    Plain (connected connective operand) := by
  refine .after fun start => h.bind fun first hfirst => .after fun found => ?_
  cases found with
  | nil => exact .pure hfirst
  | cons e found => exact .after fun _ => .pure rfl

/-! ### Expressions -/

theorem plain_bitwiseOr (hr : Rules.Plain r) : Plain (bitwiseOr r) :=
  plain_chains (plain_factor hr (plain_power hr (plain_awaited hr))) _

theorem plain_inverted (hr : Rules.Plain r) : Plain (inverted r) :=
  plain_inversion hr (plain_bitwiseOr hr)

theorem plain_disjunction (hr : Rules.Plain r) : Plain (disjunction r) :=
  plain_connected (plain_connected (plain_inverted hr) _) _

theorem plain_expression (hr : Rules.Plain r) : Plain (expression r) := by
  refine .after fun isLambda => .ite ?_ ?_
  · apply Yields.spanned
    exact .after fun _ => .after fun _ => .after fun _ => .after fun _ => .pure fun _ => rfl
  · refine .after fun start => .after fun position => ?_
    refine (plain_disjunction hr).bind fun first hfirst => ?_
    -- What is often meant is only looked at in between.
    extract_lets sequel
    have hsequel : ∀ u, Plain (sequel u) := by
      refine fun u => .after fun isConditional => .ite (.orElse ?_ (.pure hfirst)) (.pure hfirst)
      exact .after fun _ => .after fun _ => .after fun _ => .after fun _ => .after fun _ => .pure rfl
    exact .ite (.after fun u => hsequel u) (hsequel ())

theorem plain_starExpression (hr : Rules.Plain r) : Plain (starExpression r) := by
  refine .after fun isStar => .ite ?_ (plain_expression hr)
  apply Yields.spanned
  exact .after fun _ => .after fun _ => .pure fun _ => rfl

theorem plain_starExpressions (hr : Rules.Plain r) : Plain (starExpressions r) := by
  refine .after fun start => (plain_starExpression hr).bind fun first hfirst => ?_
  refine .after fun rest => .after fun comma => .ite (.pure hfirst) ?_
  exact .after fun _ => .pure rfl

theorem plain_yieldExpr : Plain (yieldExpr r) := by
  apply Yields.spanned
  refine .after fun _ => .after fun isFrom => .ite ?_ ?_
  · exact .after fun _ => .after fun _ => .pure fun _ => rfl
  · exact .after fun _ => .pure fun _ => rfl

end

/-- All rules read plain expressions. -/
theorem plain_rules (n : Nat) : Rules.Plain (rules n) := by
  induction n with
  | zero => exact ⟨.stuck, .stuck, .stuck, .stuck, .stuck, .stuck, .stuck, .stuck, .stuck, .stuck⟩
  | succ n ih =>
    exact
      { primary := plain_primary ih
        factor := plain_factor ih (plain_power ih (plain_awaited ih))
        bitwiseOr := plain_bitwiseOr ih
        inversion := plain_inverted ih
        disjunction := plain_disjunction ih
        expression := plain_expression ih
        named := plain_named (plain_expression ih)
        starNamed := plain_starNamed (plain_named (plain_expression ih))
        starExpressions := plain_starExpressions ih
        yieldExpr := plain_yieldExpr }

/-! ## Statements -/

/-- What a parser of statements reads is plain. -/
abbrev PlainAll (p : Parser (List Stmt)) : Prop := p.Yields fun ss => ∀ s ∈ ss, s.isPlain = true

section

variable {r : Rules} {block : Parser (List Stmt)}

/-- A form that no program may use has no constants. -/
theorem plain_formed (p : Parser StmtForm) : (formed p).Yields fun s => s.isPlain = true := by
  apply Yields.spanned
  exact .after fun form => .pure fun _ => rfl

theorem plain_decorated : (decorated r block).Yields fun s => s.isPlain = true := by
  refine .after fun _ => .after fun t => .ite (plain_formed _) (.ite (plain_formed _) ?_)
  exact plain_formed _

theorem plain_raised (hr : Rules.Plain r) : (raised r).Yields fun s => s.isPlain = true := by
  apply Yields.spanned
  refine .after fun _ => ?_
  have hfound : (do
      let e ← r.expression
      let cause ← optional (word "from" *> r.expression)
      return (e, cause)).Yields fun found =>
        found.1.isPlain = true ∧ ∀ e ∈ found.2, e.isPlain = true :=
    hr.expression.bind fun e he => hr.expression.seqRight.optional.bind fun cause hcause =>
      .pure ⟨he, hcause⟩
  refine hfound.optional.bind fun found h => .pure fun span => ?_
  rw [Stmt.isPlain, Bool.and_eq_true]
  cases found with
  | none => exact ⟨rfl, rfl⟩
  | some found =>
    obtain ⟨e, cause⟩ := found
    obtain ⟨he, hcause⟩ := h (e, cause) rfl
    refine ⟨he, ?_⟩
    cases cause with
    | none => rfl
    | some c => exact hcause c rfl

theorem plain_expressionOrAssignment (hr : Rules.Plain r) :
    (expressionOrAssignment r).Yields fun s => s.isPlain = true := by
  refine .after fun start => .after fun before => ?_
  refine (plain_starExpressions hr).bind fun e he => .orElse ?_ ?_
  · exact .after fun form => .after fun _ => .pure rfl
  · refine .after fun isCommitted => ?_
    extract_lets sequel
    have hsequel : ∀ u, (sequel u).Yields fun s => s.isPlain = true :=
      fun u => .after fun _ => .pure he
    exact .ite (.after fun u => hsequel u) (hsequel ())

theorem plain_simple (hr : Rules.Plain r) : (simple r).Yields fun s => s.isPlain = true := by
  refine .after fun t => ?_
  repeat' apply Yields.ite
  all_goals try exact plain_formed _
  -- What is left is a `raise`, a `pass`, a `yield` and an expression.
  · exact plain_raised hr
  · apply Yields.spanned
    exact .after fun _ => .pure fun _ => rfl
  · apply Yields.spanned
    exact plain_yieldExpr.bind fun e he => .pure fun _ => he
  · exact plain_expressionOrAssignment hr

theorem plain_simples (hr : Rules.Plain r) : PlainAll (simples r) :=
  (plain_simple hr).separated.bind fun _ hfound => .after fun _ => .after fun _ => .pure hfound

theorem plain_body (hblock : PlainAll block) (what : String) (line : Nat) :
    PlainAll (body block what line) := .after fun _ => hblock

theorem plain_loop (hr : Rules.Plain r) (hblock : PlainAll block) :
    (loop r block).Yields fun f => ∀ span, (f span).isPlain = true := by
  refine .after fun l => .after fun _ => .after fun target => ?_
  refine hr.starExpressions.bind fun range hrange => .after fun _ => ?_
  refine (plain_body hblock _ _).bind fun inside hinside => .after fun after => .pure fun span => ?_
  rw [Stmt.isPlain, hrange, Stmt.arePlain_eq_all, List.all_eq_true.2 hinside]
  rfl

theorem plain_statement (hr : Rules.Plain r) (hblock : PlainAll block) :
    PlainAll (statement r block) := by
  have hsingle : ∀ {p : Parser Stmt}, p.Yields (fun s => s.isPlain = true) →
      PlainAll (List.singleton <$> p) := by
    intro p hp
    refine .map (hp.imp fun s hs => ?_)
    simpa [List.singleton] using hs
  refine .after fun t => ?_
  extract_lets single
  repeat' apply Yields.ite
  all_goals try exact hsingle (plain_formed _)
  -- What is left is a decorated definition, a loop, a `match` and simple statements.
  · exact hsingle plain_decorated
  · exact hsingle (.spanned (plain_loop hr hblock))
  · exact .orElse (hsingle (plain_formed _)) (plain_simples hr)
  · exact plain_simples hr

theorem plain_statements (hr : Rules.Plain r) (hblock : PlainAll block) :
    PlainAll (statements r block) := by
  refine .map ((plain_statement hr hblock).some'.imp fun found hfound => ?_)
  intro s hs
  obtain ⟨ss, hss, hs⟩ := List.mem_flatten.1 hs
  exact hfound ss hss s hs

theorem plain_block (hr : Rules.Plain r) (fuel : Nat) : PlainAll (Grammar.block r fuel) := by
  induction fuel with
  | zero => exact .stuck
  | succ fuel ih =>
    refine .after fun isIndented => .ite ?_ (plain_simples hr)
    refine .after fun _ => .after fun _ => .after fun _ => ?_
    exact (plain_statements hr ih).bind fun inside hinside => .after fun _ => .pure hinside

theorem plain_script (hr : Rules.Plain r) (fuel : Nat) : PlainAll (script r fuel) := by
  refine (plain_statements hr (plain_block hr fuel)).optional.bind fun found hfound => ?_
  refine .after fun _ => .pure ?_
  cases found with
  | none => simp
  | some found => exact hfound found rfl

end

end Grammar

/-- **The constants of a script are plain**, wherever a program may use them. -/
theorem isPlain_of_read {text : List Char} {script : List Stmt} (h : read text = .ok script) :
    ∀ s ∈ script, s.isPlain = true := by
  simp only [read, ofTokens] at h
  split at h
  · rename_i found s heq
    cases h
    exact Grammar.plain_script (Grammar.plain_rules _) _ _ _ _ heq
  · cases h
  · split at h <;> cases h

theorem arePlain_of_read {text : List Char} {script : List Stmt} (h : read text = .ok script) :
    Stmt.arePlain script = true := by
  rw [Stmt.arePlain_eq_all, List.all_eq_true]
  exact isPlain_of_read h

end Script

end SpriteStage
