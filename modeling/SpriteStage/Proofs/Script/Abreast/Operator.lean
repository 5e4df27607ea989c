import SpriteStage.Proofs.Script.Abreast.Basic
import SpriteStage.Script.Grammar.Comprehension

/-!
# Chains of operators and comprehensions abreast

What the rules read for parts of an expression may be assumed to agree from some place on: a part comes
after a token of the whole at least, so the assumption moves on with every level of nesting, and the fuel
of the rules needs to last for the rest of the tokens only.

## Main definitions

* `Script.Pairing.From` says that two parsers of expressions agree from a place on
* `Script.Pairing.SameRules` says it of all rules
-/

namespace SpriteStage.Script

namespace Pairing

variable (g : Pairing) (k : ℕ)

/-- Parsers of expressions that agree from a place on. -/
def From (p q : Parser Expr) : Prop := ∀ n, k ≤ n → g.Along 1 n p q (Expr.Alike g.Spans)

/-- Rules that agree from a place on. -/
structure SameRules (r r' : Rules) : Prop where
  primary : g.From k r.primary r'.primary
  factor : g.From k r.factor r'.factor
  bitwiseOr : g.From k r.bitwiseOr r'.bitwiseOr
  inversion : g.From k r.inversion r'.inversion
  disjunction : g.From k r.disjunction r'.disjunction
  expression : g.From k r.expression r'.expression
  named : g.From k r.named r'.named
  starNamed : g.From k r.starNamed r'.starNamed
  starExpressions : g.From k r.starExpressions r'.starExpressions
  yieldExpr : g.From k r.yieldExpr r'.yieldExpr

variable {g k} {n m : ℕ}

/-- After the pairs there is no place left from which something could be read. -/
theorem SameRules.of_end (hk : g.pairs.length ≤ k) (r r' : Rules) : g.SameRules k r r' := by
  have hend {p q : Parser Expr} : g.From k p q := fun n hn hlt => absurd hlt (by omega)
  exact ⟨hend, hend, hend, hend, hend, hend, hend, hend, hend, hend⟩

theorem SameRules.mono {r r' : Rules} {l : ℕ} (hr : g.SameRules k r r') (hkl : k ≤ l) :
    g.SameRules l r r' :=
  ⟨fun n hn => hr.primary n (hkl.trans hn), fun n hn => hr.factor n (hkl.trans hn),
    fun n hn => hr.bitwiseOr n (hkl.trans hn), fun n hn => hr.inversion n (hkl.trans hn),
    fun n hn => hr.disjunction n (hkl.trans hn), fun n hn => hr.expression n (hkl.trans hn),
    fun n hn => hr.named n (hkl.trans hn), fun n hn => hr.starNamed n (hkl.trans hn),
    fun n hn => hr.starExpressions n (hkl.trans hn), fun n hn => hr.yieldExpr n (hkl.trans hn)⟩

/-- A place after one that is far enough on is too. -/
theorem Leads.of_le {d : ℕ} (h : g.Leads d n m) (hk : k ≤ n) : k ≤ m := by
  have := h.le
  omega

/-- A part comes after a token at least. -/
theorem Leads.of_lt (h : g.Leads 1 n m) (hk : k ≤ n + 1) : k ≤ m := hk.trans h.le

end Pairing

namespace Grammar

open Pairing

variable {g : Pairing} {k n : ℕ} {r r' : Rules}

/-! ## Chains -/

section

variable {operand operand' : Parser Expr}

theorem abreast_infixOf (ops : List (String × Infix)) :
    g.Along 1 n (infixOf ops) (infixOf ops) Eq := by
  refine .peek fun t span depth firstLine hp => ?_
  have hfind : ops.find? ((Token.mk t.kind t.chars span depth firstLine).isOperator ·.1) =
      ops.find? (t.isOperator ·.1) := rfl
  rw [hfind]
  cases h : ops.find? (t.isOperator ·.1) with
  | none => exact .stuck
  | some op =>
    have hop := List.find?_some h
    exact (Along.skip ⟨_, hp, Token.isWritten_of_isOperator hop⟩).bind fun _ _ _ _ _ => .pure rfl

theorem abreast_chain (ops : List (String × Infix)) (h : g.From k operand operand') :
    g.From k (chain ops operand) (chain ops operand') := by
  intro n hn
  refine .look .here fun a b hstart => (h n hn).bind fun m hm e d hed => ?_
  refine .grow hed fun i hi e d hed => (abreast_infixOf ops).bind fun j hj op op' hop => ?_
  subst hop
  refine (h j (hj.of_le (hi.of_le (hm.of_le hn)))).weak.bind fun l hl e' d' hed' => ?_
  have hspan := ((hm.after hi).after hj).after hl
  exact .look (.spanFrom hstart hspan) fun _ _ hspan => .pure (.binary hed hed' hspan)

theorem abreast_chains (levels : List (List (String × Infix))) (h : g.From k operand operand') :
    g.From k (chains levels operand) (chains levels operand') := by
  induction levels with
  | nil => exact h
  | cons ops levels ih => exact abreast_chain ops ih

theorem abreast_factor (hr : g.SameRules k r r') {power power' : Parser Expr}
    (hn : k ≤ n + 1) (h : g.Along 1 n power power' (Expr.Alike g.Spans)) :
    g.Along 1 n (factor r power) (factor r' power') (Expr.Alike g.Spans) := by
  refine .peek fun t span depth firstLine hp => ?_
  have hfind : signs.find? ((Token.mk t.kind t.chars span depth firstLine).isOperator ·.1) =
      signs.find? (t.isOperator ·.1) := rfl
  rw [hfind]
  cases hsign : signs.find? (t.isOperator ·.1) with
  | none => exact h
  | some sign =>
    have hop := List.find?_some hsign
    refine .spanned ((Along.skip ⟨_, hp, Token.isWritten_of_isOperator hop⟩).bind fun m hm _ _ _ => ?_)
    exact (hr.factor m (hm.of_lt hn)).weak.bind fun _ _ _ _ hed => .pure fun _ _ hspan => .sign hed hspan

theorem abreast_power (hr : g.SameRules k r r') (hn : k ≤ n + 1)
    (h : g.Along 1 n operand operand' (Expr.Alike g.Spans)) :
    g.Along 1 n (power r operand) (power r' operand') (Expr.Alike g.Spans) := by
  refine .look .here fun a b hstart => h.bind fun m hm e d hed => .orElse ?_ (.pure hed)
  refine Along.op.weak.bind fun i hi _ _ _ => ?_
  refine (hr.factor i (hi.of_le (hm.of_lt hn))).weak.bind fun j hj e' d' hed' => ?_
  exact .look (.spanFrom hstart ((hm.after hi).after hj)) fun _ _ hspan =>
    .pure (.binary hed hed' hspan)

theorem abreast_comparator : g.Along 1 n comparator comparator Eq := by
  refine .peek fun t span depth firstLine hp => ?_
  have hskip {s : String} (ht : t.isKeyword s = true) : g.Along 1 n Parser.skip Parser.skip _ :=
    .skip ⟨_, hp, Token.isWritten_of_isKeyword ht⟩
  refine .ite (fun ht => (hskip ht).bind fun _ _ _ _ _ => .pure rfl) fun _ => .ite (fun ht => ?_) fun _ =>
    .ite (fun ht => ?_) fun _ => .ite (fun ht => ?_) fun _ => .stuck
  · exact (hskip ht).bind fun _ _ _ _ _ => Along.word.weak.bind fun _ _ _ _ _ => .pure rfl
  · exact (hskip ht).bind fun _ _ _ _ _ => Along.word.optional.bind fun _ _ _ _ _ => .pure rfl
  · obtain ⟨s, -, hs⟩ := List.any_eq_true.1 ht
    exact (Along.skip ⟨_, hp, Token.isWritten_of_isOperator hs⟩).bind fun _ _ _ _ _ => .pure rfl

theorem abreast_comparison (h : g.From k operand operand') :
    g.From k (comparison operand) (comparison operand') := by
  intro n hn
  refine .look .here fun a b hstart => (h n hn).bind fun m hm e d hed => ?_
  have hpart : g.Along 0 m (Parser.many do
      let isIn ← comparator
      let _ ← operand
      return isIn) (Parser.many do
      let isIn ← comparator
      let _ ← operand'
      return isIn) (List.Forall₂ Eq) :=
    .many fun i hi => abreast_comparator.bind fun j hj _ _ hisIn =>
      (h j (hj.of_le (hi.of_le (hm.of_le hn)))).weak.bind fun _ _ _ _ _ => .pure hisIn
  refine hpart.bind fun i hi found found' hfound => ?_
  rw [List.forall₂_eq_eq_eq] at hfound
  subst hfound
  cases found with
  | nil => exact .pure hed
  | cons isIn found =>
    exact .look (.spanFrom hstart (hm.after hi)) fun _ _ hspan => .pure (.other (.cons hed .nil) hspan)

theorem abreast_inversion (hr : g.SameRules k r r') (hn : k ≤ n + 1)
    (h : g.From n operand operand') :
    g.Along 1 n (inversion r operand) (inversion r' operand') (Expr.Alike g.Spans) := by
  refine .look .nextWord fun b b' hb => ?_
  obtain ⟨rfl, hw⟩ := hb
  refine .ite (fun hb => .spanned ?_) fun _ => abreast_comparison h n le_rfl
  exact (Along.skip (hw hb)).bind fun m hm _ _ _ => (hr.inversion m (hm.of_lt hn)).weak.bind
    fun _ _ _ _ hed => .pure fun _ _ hspan => .sign hed hspan

theorem abreast_connected (connective : String) (h : g.From k operand operand') :
    g.From k (connected connective operand) (connected connective operand') := by
  intro n hn
  refine .look .here fun a b hstart => (h n hn).bind fun m hm e d hed => ?_
  have hpart : g.Along 0 m (Parser.many (Parser.word connective *> operand))
      (Parser.many (Parser.word connective *> operand')) (List.Forall₂ (Expr.Alike g.Spans)) :=
    .many fun i hi => Along.word.seqRight fun j hj =>
      (h j (hj.of_le (hi.of_le (hm.of_le hn)))).weak
  refine hpart.bind fun i hi found found' hfound => ?_
  cases hfound with
  | nil => exact .pure hed
  | cons hhead htail =>
    exact .look (.spanFrom hstart (hm.after hi)) fun _ _ hspan =>
      .pure (.other (.cons hed (.cons hhead htail)) hspan)

end

/-! ## Targets and comprehensions -/

section

variable (hr : g.SameRules k r r')

include hr

theorem abreast_target (hn : k ≤ n) :
    g.Along 1 n (target r) (target r') (Expr.Alike g.Spans) := by
  refine (hr.primary n hn).bind fun m _ e d hed => ?_
  rw [hed.isNone_intruder?]
  exact .look .require fun _ _ _ => .pure hed

theorem abreast_starTarget (hn : k ≤ n) :
    g.Along 1 n (starTarget r) (starTarget r') (Expr.Alike g.Spans) := by
  refine .look .nextOp fun b b' hb => ?_
  obtain ⟨rfl, hw⟩ := hb
  refine .ite (fun hb => .spanned ?_) fun _ => abreast_target hr hn
  exact (Along.skip (hw hb)).bind fun m hm _ _ _ => (abreast_target hr (hm.of_le hn)).weak.bind
    fun _ _ _ _ hed => .pure fun _ _ hspan => .other (.cons hed .nil) hspan

theorem abreast_targets (hn : k ≤ n) :
    g.Along 1 n (targets r) (targets r') (Expr.Alike g.Spans) := by
  refine .look .here fun a b hstart => (abreast_starTarget hr hn).bind fun m hm e d hed => ?_
  have hmore : g.Along 0 m (Parser.many (Parser.op "," *> starTarget r))
      (Parser.many (Parser.op "," *> starTarget r')) (List.Forall₂ (Expr.Alike g.Spans)) :=
    .many fun i hi => Along.op.seqRight fun j hj =>
      (abreast_starTarget hr (hj.of_le (hi.of_le (hm.of_le hn)))).weak
  refine hmore.bind fun i hi es ds heds => Along.trailingComma.bind fun j hj comma comma' hcomma => ?_
  subst hcomma
  have hempty : ds.isEmpty = es.isEmpty := by cases heds <;> rfl
  rw [hempty]
  refine .ite (fun _ => .pure hed) fun _ => ?_
  exact .look (.spanFrom hstart ((hm.after hi).after hj)) fun _ _ hspan =>
    .pure (.other (.cons hed heds) hspan)

theorem abreast_targetsIn (hn : k ≤ n) :
    g.Along 1 n (targetsIn r) (targetsIn r') (Expr.Alike g.Spans) :=
  .orElse ((abreast_targets hr hn).seqLeft fun _ _ => Along.word.weak)
    (.look .diagnose fun _ _ _ => .stuck)

theorem abreast_clause (hn : k ≤ n) : g.Along 1 n (clause r) (clause r') fun _ _ => True := by
  refine Along.word.optional.bind_last fun m hm _ _ _ => Along.word.bind fun i hi _ _ _ => ?_
  have hki := hi.of_le (hm.of_le hn)
  refine (abreast_targetsIn hr hki).weak.bind fun j hj _ _ _ => ?_
  refine (hr.disjunction j (hj.of_le hki)).weak.bind fun l hl _ _ _ => ?_
  have hkl := hl.of_le (hj.of_le hki)
  have hconditions := Along.many fun i hi => Along.word (s := "if").seqRight fun j hj =>
    (hr.disjunction j (hj.of_le (hi.of_le hkl))).weak
  exact hconditions.bind fun _ _ _ _ _ => .pure trivial

theorem abreast_clauses (hn : k ≤ n) : g.Along 1 n (clauses r) (clauses r') fun _ _ => True :=
  (Along.some' fun _ hm => abreast_clause hr (hm.of_le hn)).bind fun _ _ _ _ _ => .pure trivial

theorem abreast_starred (hn : k ≤ n + 1) :
    g.Along 1 n (starred r) (starred r') (Expr.Alike g.Spans) :=
  .spanned (Along.op.bind fun m hm _ _ _ => (hr.expression m (hm.of_lt hn)).weak.bind
    fun _ _ _ _ hed => .pure fun _ _ hspan => .other (.cons hed .nil) hspan)

end

/-- Whether a clause comes next depends on the kind and the characters of the next token. -/
theorem looks_nextIsClause : g.Looks n nextIsClause nextIsClause fun b b' => b' = b :=
  fun hn => (Looks.nextIs (fun _ _ _ _ => rfl) hn).imp fun _ _ _ h => ⟨h.1, h.2.1⟩

theorem isStarred_of_alike {P : Span → Span → Prop} {e d : Expr} (h : Expr.Alike P e d) :
    isStarred d = isStarred e := by
  cases h with
  | @other form => cases form <;> rfl
  | _ => rfl

end Grammar

end SpriteStage.Script
