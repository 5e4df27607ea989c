import SpriteStage.Proofs.Script.Abreast.Operand
import SpriteStage.Script.Grammar.Pattern

/-!
# Expressions and patterns abreast

The rules of two fuels agree from the place on from which both fuels last for the tokens that are left.

## Main results

* `sameRules` says from where on the rules agree
* `abreast_patterns` compares patterns
-/

namespace SpriteStage.Script.Grammar

open Pairing

variable {g : Pairing} {k n : ℕ} {r r' : Rules}

/-! ## Parameters -/

section

variable (hr : g.SameRules k r r')

include hr

theorem abreast_annotated (hn : k ≤ n) (annotated isStar : Bool) :
    g.Along 0 n ( annotation r annotated isStar) ( annotation r' annotated isStar) fun _ _ => True := by
  refine .ite (fun _ => ?_) fun _ => .pure trivial
  refine (Along.optional (d := 1) (V := fun _ _ => True) ?_).bind fun _ _ _ _ _ => .pure trivial
  refine Along.op.bind fun m hm _ _ _ => .look .nextOp fun b b' hb => ?_
  obtain ⟨rfl, hw⟩ := hb
  refine .ite (fun hb => ?_) fun _ =>
    (hr.expression m (hm.of_le hn)).weak.bind fun _ _ _ _ _ => .pure trivial
  rw [Bool.and_eq_true] at hb
  exact (Along.skip (hw hb.2)).weak.bind fun i hi _ _ _ =>
    (hr.bitwiseOr i (hi.of_le (hm.of_le hn))).weak.bind fun _ _ _ _ _ => .pure trivial

theorem abreast_star (hn : k ≤ n) (hw : g.Written n) (annotated : Bool) (closing : String)
    (ps : Parameters) :
    g.Along 1 n (star r annotated closing ps) (star r' annotated closing ps) Eq := by
  refine .look .require fun _ _ _ => .peek fun t span depth firstLine _ => ?_
  refine (Along.skip hw).bind fun m hm _ _ _ => .look .diagnose fun _ _ _ => .look .nextOp fun b b' hb => ?_
  obtain ⟨rfl, -⟩ := hb
  refine .ite (fun _ => .pure rfl) fun _ => Along.name.weak.bind fun i hi _ _ _ => ?_
  exact (abreast_annotated hr (hi.of_le (hm.of_le hn)) _ _).bind fun _ _ _ _ _ => .pure rfl

theorem abreast_doubleStar (hn : k ≤ n) (hw : g.Written n) (annotated : Bool) (ps : Parameters) :
    g.Along 1 n (doubleStar r annotated ps) (doubleStar r' annotated ps) Eq := by
  refine .look .require fun _ _ _ => (Along.skip hw).bind fun m hm _ _ _ => ?_
  refine Along.name.weak.bind fun i hi _ _ _ => ?_
  exact (abreast_annotated hr (hi.of_le (hm.of_le hn)) _ _).bind fun _ _ _ _ _ => .pure rfl

theorem abreast_plainParameter (hn : k ≤ n) (annotated : Bool) (closing : String) (ps : Parameters) :
    g.Along 1 n (plainParameter r annotated closing ps) (plainParameter r' annotated closing ps) Eq := by
  refine .look .require fun _ _ _ => .look .here fun _ _ _ => Along.name.bind fun m hm _ _ _ => ?_
  refine (abreast_annotated hr (hm.of_le hn) _ _).bind fun i hi _ _ _ => .look .nextOp fun b b' hb => ?_
  obtain ⟨rfl, hw⟩ := hb
  refine .ite (fun hb => ?_) fun _ => .ite (fun _ => .look .diagnose fun _ _ _ => .stuck)
    fun _ => .pure rfl
  exact (Along.skip (hw hb)).weak.bind fun j hj _ _ _ =>
    (hr.expression j (hj.of_le (hi.of_le (hm.of_le hn)))).weak.bind fun _ _ _ _ _ => .pure rfl

theorem abreast_parameter (hn : k ≤ n) (annotated : Bool) (closing : String) (ps : Parameters) :
    g.Along 1 n (parameter r annotated closing ps) (parameter r' annotated closing ps) Eq := by
  refine .peek fun t span depth firstLine hp => ?_
  have hwritten {s : String} (ht : t.isOperator s = true) : g.Written n :=
    ⟨_, hp, Token.isWritten_of_isOperator ht⟩
  refine .ite (fun ht => ?_) fun _ => .ite (fun ht => abreast_star hr hn (hwritten ht) _ _ _) fun _ =>
    .ite (fun ht => abreast_doubleStar hr hn (hwritten ht) _ _) fun _ => abreast_plainParameter hr hn _ _ _
  exact .look .require fun _ _ _ => (Along.skip (hwritten ht)).bind fun _ _ _ _ _ => .pure rfl

theorem abreast_parameters (hn : k ≤ n) (annotated : Bool) (closing : String) :
    g.Along 0 n (parameters r annotated closing) (parameters r' annotated closing) fun _ _ => True := by
  refine .look .nextOp fun b b' hb => ?_
  obtain ⟨rfl, -⟩ := hb
  refine .ite (fun _ => .pure trivial) fun _ => ?_
  refine (abreast_parameter hr hn _ _ _).weak.bind fun m hm ps ps' hps => ?_
  refine (Along.grow (V := Eq) hps fun i hi ps ps' hps => ?_).bind fun i hi ps ps' hps => ?_
  · subst hps
    exact Along.op.seqRight fun j hj =>
      (abreast_parameter hr (hj.of_le (hi.of_le (hm.of_le hn))) _ _ _).weak
  · subst hps
    refine Along.trailingComma.bind fun _ _ _ _ _ => .look .require fun _ _ _ => .look .nextOp ?_
    rintro b b' ⟨rfl, -⟩
    exact Looks.require.along

end

/-! ## Expressions -/

section

variable (hr : g.SameRules k r r')

include hr

theorem abreast_bitwiseOr {i : ℕ} (hi : k ≤ i + 1) : g.From i (bitwiseOr r) (bitwiseOr r') := by
  refine abreast_chains _ fun n hn => ?_
  have hk : k ≤ n + 1 := by omega
  exact abreast_factor hr hk (abreast_power hr hk (abreast_awaited hr hk))

theorem abreast_inverted {i : ℕ} (hi : k ≤ i + 1) : g.From i (inverted r) (inverted r') := fun n hn =>
  abreast_inversion hr (by omega) (abreast_bitwiseOr hr (by omega))

theorem abreast_disjunction {i : ℕ} (hi : k ≤ i + 1) :
    g.From i (disjunction r) (disjunction r') :=
  abreast_connected _ (abreast_connected _ (abreast_inverted hr hi))

theorem abreast_lambda (hn : k ≤ n + 1) :
    g.Along 1 n (lambda r) (lambda r') (Expr.Alike g.Spans) := by
  refine .spanned (Along.word.bind fun m hm _ _ _ => ?_)
  refine (abreast_parameters hr (hm.of_lt hn) _ _).bind fun i hi _ _ _ => Along.op.weak.bind fun j hj _ _ _ => ?_
  exact (hr.expression j (hj.of_le (hi.of_le (hm.of_lt hn)))).weak.bind fun _ _ _ _ _ =>
    .pure fun _ _ hspan => .other .nil hspan

theorem abreast_expression (hn : k ≤ n + 1) :
    g.Along 1 n (expression r) (expression r') (Expr.Alike g.Spans) := by
  refine .look .nextWord fun b b' hb => ?_
  obtain ⟨rfl, -⟩ := hb
  refine .ite (fun _ => abreast_lambda hr hn) fun _ => .look .outlook fun s s' hs => ?_
  refine .look .here fun a b hstart => ?_
  refine (abreast_disjunction hr hn n le_rfl).bind fun m hm e d hed => ?_
  extract_lets sequel sequel'
  -- What is often meant is not looked for in the plain mode.
  rw [hs.1, hs.2]
  show g.Along 0 m (sequel ()) (sequel' ()) _
  refine .look .nextWord fun b b' hb => ?_
  obtain ⟨rfl, hw⟩ := hb
  refine .ite (fun hb => .orElse ?_ (.pure hed)) fun _ => .pure hed
  refine (Along.skip (hw hb)).weak.bind fun i hi _ _ _ => ?_
  have hi' := hi.of_le (hm.of_lt hn)
  refine (hr.disjunction i hi').weak.bind fun j hj c c' hc => Along.word.weak.bind fun l hl _ _ _ => ?_
  refine (hr.expression l (hl.of_le (hj.of_le hi'))).weak.bind fun l' hl' e' d' hed' => ?_
  exact .look (.spanFrom hstart ((((hm.after hi).after hj).after hl).after hl')) fun _ _ hspan =>
    .pure (.other (.cons hc (.cons hed (.cons hed' .nil))) hspan)

theorem abreast_starExpression (hn : k ≤ n + 1) :
    g.Along 1 n (starExpression r) (starExpression r') (Expr.Alike g.Spans) := by
  refine .look .nextOp fun b b' hb => ?_
  obtain ⟨rfl, hw⟩ := hb
  refine .ite (fun hb => .spanned ?_) fun _ => abreast_expression hr hn
  exact (Along.skip (hw hb)).bind fun m hm _ _ _ => (hr.bitwiseOr m (hm.of_lt hn)).weak.bind
    fun _ _ _ _ hed => .pure fun _ _ hspan => .other (.cons hed .nil) hspan

theorem abreast_starExpressions (hn : k ≤ n + 1) :
    g.Along 1 n (starExpressions r) (starExpressions r') (Expr.Alike g.Spans) := by
  refine .look .here fun a b hstart => (abreast_starExpression hr hn).bind fun m hm e d hed => ?_
  have hmore := Along.many fun i hi => Along.op (g := g) (s := ",").seqRight fun j hj =>
    (abreast_starExpression hr ((hj.of_le (hi.of_le (hm.of_lt hn))).trans j.le_succ)).weak
  refine hmore.bind fun i hi es ds heds => Along.trailingComma.bind fun j hj comma comma' hcomma => ?_
  subst hcomma
  have hempty : ds.isEmpty = es.isEmpty := by cases heds <;> rfl
  rw [hempty]
  refine .ite (fun _ => .pure hed) fun _ => ?_
  exact .look (.spanFrom hstart ((hm.after hi).after hj)) fun _ _ hspan =>
    .pure (.other (.cons hed heds) hspan)

theorem abreast_yieldExpr (hn : k ≤ n + 1) :
    g.Along 1 n (yieldExpr r) (yieldExpr r') (Expr.Alike g.Spans) := by
  refine .spanned (Along.word.bind fun m hm _ _ _ => .look .nextWord fun b b' hb => ?_)
  obtain ⟨rfl, hw⟩ := hb
  have hm' := hm.of_lt hn
  refine .ite (fun hb => ?_) fun _ => ?_
  · exact (Along.skip (hw hb)).weak.bind fun i hi _ _ _ => (hr.expression i (hi.of_le hm')).weak.bind
      fun _ _ _ _ hed => .pure fun _ _ hspan => .other (.cons hed .nil) hspan
  · refine (abreast_starExpressions hr (hm'.trans m.le_succ)).optional.bind fun _ _ o o' ho =>
      .pure fun _ _ hspan => .other ?_ hspan
    cases ho with
    | none => exact .nil
    | some hed => exact .cons hed .nil

end

/-- **The rules agree from where on their fuels last.** -/
theorem sameRules {fuel fuel' : ℕ} (h : g.pairs.length ≤ k + fuel) (h' : g.pairs.length ≤ k + fuel') :
    g.SameRules k (rules fuel) (rules fuel') := by
  induction fuel generalizing k fuel' with
  | zero => exact .of_end h _ _
  | succ fuel ih =>
    cases fuel' with
    | zero => exact .of_end h' _ _
    | succ fuel' =>
      have hr : g.SameRules (k + 1) (rules fuel) (rules fuel') := ih (by omega) (by omega)
      have hexpression {n : ℕ} (hn : k + 1 ≤ n + 1) := abreast_expression (n := n) hr hn
      exact
        { primary := fun n hn => abreast_primary hr (by omega)
          factor := fun n hn => by
            have hk : k + 1 ≤ n + 1 := by omega
            exact abreast_factor hr hk (abreast_power hr hk (abreast_awaited hr hk))
          bitwiseOr := abreast_bitwiseOr hr le_rfl
          inversion := abreast_inverted hr le_rfl
          disjunction := abreast_disjunction hr le_rfl
          expression := fun n hn => hexpression (by omega)
          named := fun n hn => abreast_named hr (by omega) (hexpression (by omega))
          starNamed := fun n hn => abreast_starNamed hr (by omega)
            (abreast_named hr (by omega) (hexpression (by omega)))
          starExpressions := fun n hn => abreast_starExpressions hr (by omega)
          yieldExpr := fun n hn => abreast_yieldExpr hr (by omega) }

/-! ## Patterns -/

theorem abreast_capture : g.Along 1 n capture capture fun _ _ => True := by
  refine (Along.token (fun _ _ _ _ => rfl) fun t ht => ?_).bind fun _ _ _ _ _ =>
    .look .notOp fun _ _ _ => .look .notOp fun _ _ _ => Looks.notOp.along
  rw [Bool.and_eq_true, beq_iff_eq] at ht
  rw [Token.isWritten, ht.1]

theorem abreast_numberPattern : g.Along 1 n numberPattern numberPattern fun _ _ => True := by
  refine Along.op.optional.bind_last fun _ _ _ _ _ => abreast_numeral.bind fun _ _ _ _ _ => ?_
  refine .look .nextOp fun b b' hb => .look .nextOp fun c c' hc => ?_
  obtain ⟨rfl, hw⟩ := hb
  obtain ⟨rfl, hw'⟩ := hc
  refine .ite (fun h => ?_) fun _ => .pure trivial
  exact (Along.skip ((Bool.or_eq_true _ _ ▸ h).elim hw hw')).weak.bind fun _ _ _ _ _ =>
    abreast_numeral.weak.bind fun _ _ _ _ _ => .pure trivial

theorem abreast_literalPattern : g.Along 1 n literalPattern literalPattern fun _ _ => True := by
  refine .peek fun t span depth firstLine hp => .ite (fun _ => abreast_numberPattern) fun _ =>
    .ite (fun _ => abreast_texts.bind fun _ _ _ _ _ => .pure trivial) fun _ => ?_
  refine (Along.token (fun _ _ _ _ => rfl) fun t ht => ?_).bind fun _ _ _ _ _ => .pure trivial
  obtain ⟨s, -, hs⟩ := List.any_eq_true.1 ht
  exact Token.isWritten_of_isKeyword hs

theorem abreast_dottedNames : g.Along 1 n dottedNames dottedNames Eq :=
  (Along.separated fun _ _ => Along.name).bind fun _ _ _ _ h => .pure (by
    rw [List.forall₂_eq_eq_eq] at h
    rw [h])

/-- Parsers that agree from a place on, and what they read is not kept. -/
def Onward (g : Pairing) (k : ℕ) (p q : Parser Unit) : Prop :=
  ∀ n, k ≤ n → g.Along 1 n p q fun _ _ => True

section

variable {pattern pattern' : Parser Unit} (h : Onward g k pattern pattern')

include h

theorem abreast_starPattern : Onward g k (starPattern pattern) (starPattern pattern') := by
  refine fun n hn => .look .nextOp fun b b' hb => ?_
  obtain ⟨rfl, hw⟩ := hb
  refine .ite (fun hb => ?_) fun _ => h n hn
  exact (Along.skip (hw hb)).bind fun _ _ _ _ _ => .orElse abreast_capture.weak Along.softWord.weak

theorem abreast_sequencePattern (closing : String) :
    Onward g k (sequencePattern pattern closing) (sequencePattern pattern' closing) := by
  refine fun n hn => .look .nextOp fun b b' hb => ?_
  obtain ⟨rfl, hw⟩ := hb
  refine .ite (fun hb => Along.skip (hw hb)) fun _ => ?_
  exact (Along.separated fun _ hm => abreast_starPattern h _ (hm.of_le hn)).bind fun _ _ _ _ _ =>
    Along.trailingComma.bind fun _ _ _ _ _ => Along.op.weak

theorem abreast_groupPattern : Onward g k (groupPattern pattern) (groupPattern pattern') := by
  refine fun n hn => .orElse ((h n hn).seqRight fun _ _ => Along.op.weak) (.look .nextOp fun b b' hb => ?_)
  obtain ⟨rfl, hw⟩ := hb
  refine .ite (fun hb => Along.skip (hw hb)) fun _ => (abreast_starPattern h n hn).bind fun m hm _ _ _ => ?_
  exact Along.op.weak.bind fun i hi _ _ _ =>
    (abreast_sequencePattern h _ i (hi.of_le (hm.of_le hn))).weak

theorem abreast_entryPattern : Onward g k (entryPattern pattern) (entryPattern pattern') := by
  refine fun n hn => .look .nextOp fun b b' hb => ?_
  obtain ⟨rfl, hw⟩ := hb
  refine .ite (fun hb => (Along.skip (hw hb)).bind fun _ _ _ _ _ => abreast_capture.weak) fun _ => ?_
  have hkey : g.Along 1 n (literalPattern <|> do Parser.require (← dottedNames))
      (literalPattern <|> do Parser.require (← dottedNames)) fun _ _ => True :=
    .orElse abreast_literalPattern (abreast_dottedNames.bind fun _ _ _ _ hdots => by
      rw [hdots]
      exact Looks.require.along)
  exact hkey.bind fun m hm _ _ _ => Along.op.weak.bind fun i hi _ _ _ =>
    (h i (hi.of_le (hm.of_le hn))).weak

theorem abreast_argumentPattern (labelled : Bool) (hn : k ≤ n) :
    g.Along 1 n (argumentPattern pattern labelled) (argumentPattern pattern' labelled) Eq := by
  refine .look (.ahead abreast_label) fun o o' ho => ?_
  rw [ho]
  refine .ite (fun _ => ?_) fun _ => ?_
  · exact abreast_label.bind fun m hm _ _ _ => (h m (hm.of_le hn)).weak.bind fun _ _ _ _ _ => .pure rfl
  · exact .look .require fun _ _ _ => (h n hn).bind fun _ _ _ _ _ => .pure rfl

theorem abreast_classPattern : Onward g k (classPattern pattern) (classPattern pattern') := by
  refine fun n hn => .look .nextOp fun b b' hb => ?_
  obtain ⟨rfl, hw⟩ := hb
  refine .ite (fun hb => Along.skip (hw hb)) fun _ => ?_
  refine (abreast_argumentPattern h _ hn).bind fun m hm labelled labelled' hlabelled => ?_
  refine (Along.grow (V := Eq) hlabelled fun i hi _ _ hlabelled => ?_).bind fun _ _ _ _ _ =>
    Along.trailingComma.bind fun _ _ _ _ _ => Along.op.weak
  subst hlabelled
  exact Along.op.seqRight fun j hj =>
    (abreast_argumentPattern h _ (hj.of_le (hi.of_le (hm.of_le hn)))).weak

theorem abreast_closedPattern (hn : k ≤ n + 1) :
    g.Along 1 n (closedPattern pattern) (closedPattern pattern') fun _ _ => True := by
  refine .peek fun t span depth firstLine hp => ?_
  have hskip {s : String} (ht : t.isOperator s = true) :
      g.Along 1 n Parser.skip Parser.skip fun _ _ => True :=
    .skip ⟨_, hp, Token.isWritten_of_isOperator ht⟩
  refine .ite (fun ht => .skip ⟨_, hp, Token.isWritten_of_isName ht⟩) fun _ => .ite (fun _ => ?_) fun _ =>
    .ite (fun ht => ?_) fun _ => .ite (fun ht => ?_) fun _ => .ite (fun ht => ?_) fun _ =>
      abreast_literalPattern
  · refine abreast_dottedNames.bind fun m hm _ _ _ => .look .nextOp fun b b' hb => ?_
    obtain ⟨rfl, hw⟩ := hb
    refine .ite (fun hb => ?_) fun _ => Looks.notOp.along
    exact (Along.skip (hw hb)).weak.bind fun i hi _ _ _ =>
      (abreast_classPattern h i (hi.of_le (hm.of_lt hn))).weak
  · exact (hskip ht).bind fun m hm _ _ _ => (abreast_groupPattern h m (hm.of_lt hn)).weak
  · exact (hskip ht).bind fun m hm _ _ _ => (abreast_sequencePattern h _ m (hm.of_lt hn)).weak
  · refine (hskip ht).bind fun m hm _ _ _ => .look .nextOp fun b b' hb => ?_
    obtain ⟨rfl, hw⟩ := hb
    refine .ite (fun hb => (Along.skip (hw hb)).weak) fun _ => ?_
    have hentries := Along.separated (s := ",") fun _ hi =>
      abreast_entryPattern h _ (hi.of_le (hm.of_lt hn))
    exact hentries.weak.bind fun _ _ _ _ _ => Along.trailingComma.bind fun _ _ _ _ _ => Along.op.weak

end

theorem abreast_pattern {fuel fuel' : ℕ} (h : g.pairs.length ≤ k + fuel)
    (h' : g.pairs.length ≤ k + fuel') : Onward g k (pattern fuel) (pattern fuel') := by
  induction fuel generalizing k fuel' with
  | zero => exact fun n hn hlt => absurd hlt (by omega)
  | succ fuel ih =>
    cases fuel' with
    | zero => exact fun n hn hlt => absurd hlt (by omega)
    | succ fuel' =>
      have hpattern : Onward g (k + 1) (pattern fuel) (pattern fuel') := ih (by omega) (by omega)
      refine fun n hn => (Along.separated fun m hm =>
        abreast_closedPattern hpattern (by have := hm.of_le hn; omega)).bind fun m _ _ _ _ => ?_
      exact (Along.word.seqRight fun _ _ => abreast_capture.weak).optional.bind fun _ _ _ _ _ =>
        .pure trivial

theorem abreast_patterns {fuel fuel' : ℕ} (h : g.pairs.length ≤ n + fuel)
    (h' : g.pairs.length ≤ n + fuel') :
    g.Along 1 n (patterns fuel) (patterns fuel') fun _ _ => True := by
  have hstar := abreast_starPattern (abreast_pattern h h')
  refine .look .nextOp fun b b' hb => (hstar n le_rfl).bind fun m hm _ _ _ => .look .nextOp fun c c' hc => ?_
  obtain ⟨rfl, -⟩ := hb
  obtain ⟨rfl, hw⟩ := hc
  refine .ite (fun hc => (Along.skip (hw hc)).weak.bind fun i hi _ _ _ => ?_) fun _ =>
    Looks.require.along
  have hmore := Along.separated (s := ",") fun j hj => hstar j (hj.of_le (hi.of_le (hm.of_le le_rfl)))
  exact hmore.optional.bind fun _ _ _ _ _ => Along.trailingComma.bind fun _ _ _ _ _ => .pure trivial

end SpriteStage.Script.Grammar
