import SpriteStage.Proofs.Script.Abreast.Block
import SpriteStage.Script.Grammar.Simple

/-!
# Simple statements abreast

A simple statement stays within its line; only the end of the line comes after it.

## Main results

* `abreast_simples` compares the simple statements of a line
-/

namespace SpriteStage.Script.Grammar

open Pairing

variable {g : Pairing} {k n : ℕ} {r r' : Rules}

theorem isSingleTarget_of_alike {P : Span → Span → Prop} {e d : Expr} (h : Expr.Alike P e d) :
    isSingleTarget d = isSingleTarget e := by
  cases h with
  | @other form => cases form <;> rfl
  | _ => rfl

/-! ## Expressions and assignments -/

theorem abreast_augmentedOperator :
    g.Along 1 n augmentedOperator augmentedOperator fun _ _ => True := by
  refine (Along.token (fun _ _ _ _ => rfl) fun t ht => ?_).bind fun _ _ _ _ _ => .pure trivial
  obtain ⟨s, -, hs⟩ := List.any_eq_true.1 ht
  exact Token.isWritten_of_isOperator hs

section

variable (hr : g.SameRules k r r')

include hr

theorem abreast_assigned (hn : k ≤ n) :
    g.Along 1 n (assigned r) (assigned r') (Expr.Alike g.Spans) := by
  refine .look .nextWord fun b b' hb => ?_
  obtain ⟨rfl, -⟩ := hb
  exact .ite (fun _ => hr.yieldExpr n hn) fun _ => hr.starExpressions n hn

theorem abreast_assignments (hn : k ≤ n) {i j : ℕ} (hi : g.pairs.length ≤ n + i)
    (hj : g.pairs.length ≤ n + j) {e d : Expr} (hed : Expr.Alike g.Spans e d) :
    g.Along 1 n (assignments r i e) (assignments r' j d) fun _ _ => True := by
  induction i generalizing n j e d with
  | zero => exact fun hlt => absurd hlt (by omega)
  | succ i ih =>
    cases j with
    | zero => exact fun hlt => absurd hlt (by omega)
    | succ j =>
      rw [assignments, assignments, hed.isNone_intruder?]
      refine .look .require fun _ _ _ => Along.op.bind fun m hm _ _ _ => ?_
      have hm' := hm.of_le hn
      refine (abreast_assigned hr hm').weak.bind fun l hl e d hed => .look .nextOp fun b b' hb => ?_
      obtain ⟨rfl, -⟩ := hb
      have hle := (hm.after hl).le
      exact .ite (fun _ => (ih (hl.of_le hm') (by omega) (by omega) hed).weak) fun _ => .pure trivial

theorem abreast_assignment (hn : k ≤ n) {e d : Expr} (hed : Expr.Alike g.Spans e d) :
    g.Along 1 n (assignment r e) (assignment r' d) Eq := by
  refine .look .nextOp fun b b' hb => ?_
  obtain ⟨rfl, -⟩ := hb
  refine .ite (fun _ => .look .fuel fun i j hij => ?_) fun _ => ?_
  · exact (abreast_assignments hr hn hij.1 hij.2 hed).bind fun _ _ _ _ _ => .pure rfl
  · rw [isSingleTarget_of_alike hed]
    refine .look .require fun _ _ _ => .look .nextOp fun b b' hb => ?_
    obtain ⟨rfl, hw⟩ := hb
    refine .ite (fun hb => ?_) fun _ => ?_
    · refine (Along.skip (hw hb)).bind fun m hm _ _ _ => (hr.expression m (hm.of_le hn)).weak.bind
        fun i hi _ _ _ => ?_
      exact (Along.op.seqRight fun j hj =>
        (abreast_assigned hr (hj.of_le (hi.of_le (hm.of_le hn)))).weak).optional.bind
          fun _ _ _ _ _ => .pure rfl
    · exact abreast_augmentedOperator.bind fun m hm _ _ _ =>
        (abreast_assigned hr (hm.of_le hn)).weak.bind fun _ _ _ _ _ => .pure rfl

omit hr in
theorem looks_blameAssignment {s s' : Outlook} (hs : s.diagnosing = false ∧ s'.diagnosing = false)
    {e d : Expr} : g.Looks n (blameAssignment r s e) (blameAssignment r' s' d) fun _ _ => True :=
  (Looks.diagnoseFrom hs).bind fun _ _ _ => (Looks.diagnoseFrom hs).bind fun _ _ _ =>
    (Looks.diagnoseFrom hs).bind fun _ _ _ => (Looks.diagnoseFrom hs).bind fun _ _ _ =>
      (Looks.diagnoseFrom hs).bind fun _ _ _ => .diagnose

omit hr in
theorem looks_isCommitted {e d : Expr} (hed : Expr.Alike g.Spans e d) :
    g.Looks n (isCommitted e) (isCommitted d) Eq :=
  (Looks.ahead abreast_augmentedOperator).bind fun _ _ ho => .pure (by
    rw [isSingleTarget_of_alike hed, ho])

theorem abreast_expressionOrAssignment (hn : k ≤ n) :
    g.Along 1 n (expressionOrAssignment r) (expressionOrAssignment r') (Stmt.Alike g.Spans) := by
  refine .look .here fun a b hstart => .look .outlook fun s s' hs => ?_
  refine (abreast_starExpressions hr (hn.trans n.le_succ)).bind fun m hm e d hed => .orElse ?_ ?_
  · refine (abreast_assignment hr (hm.of_le hn) hed).weak.bind fun i hi form _ hform => ?_
    subst hform
    exact .look (.spanFrom hstart (hm.after hi)) fun _ _ hspan => .pure (.other hspan)
  · refine .look (looks_isCommitted hed) fun c c' hc => ?_
    subst hc
    have hspan : g.Along 0 m (do return Stmt.expr e (← Parser.spanFrom a))
        (do return Stmt.expr d (← Parser.spanFrom b)) (Stmt.Alike g.Spans) :=
      .look (.spanFrom hstart hm) fun _ _ hspan => .pure (.expr hed hspan)
    exact .ite (fun _ => .look (looks_blameAssignment hs) fun _ _ _ => hspan) fun _ => hspan

end

/-! ## Imports -/

theorem abreast_dottedName : g.Along 1 n dottedName dottedName fun _ _ => True :=
  (Along.separated fun _ _ => Along.name).bind fun _ _ _ _ _ => .pure trivial

theorem abreast_newName : g.Along 0 n newName newName fun _ _ => True :=
  (Along.word.seqRight fun _ _ => Along.name.weak).optional.bind fun _ _ _ _ _ => .pure trivial

theorem abreast_importNames : g.Along 1 n importNames importNames Eq :=
  Along.word.bind fun _ _ _ _ _ => (Along.separated fun _ _ =>
    abreast_dottedName.seqRight fun _ _ => abreast_newName).weak.bind fun _ _ _ _ _ => .pure rfl

theorem abreast_importTargets : g.Along 1 n importTargets importTargets fun _ _ => True := by
  have hnames {n : ℕ} : g.Along 1 n (Parser.separated "," (Parser.name *> newName))
      (Parser.separated "," (Parser.name *> newName)) _ :=
    .separated fun _ _ => Along.name.seqRight fun _ _ => abreast_newName
  refine .look .nextOp fun b b' hb => ?_
  obtain ⟨rfl, hw⟩ := hb
  refine .ite (fun hb => ?_) fun _ => .look .nextOp fun b b' hb => ?_
  · exact (Along.skip (hw hb)).bind fun _ _ _ _ _ => hnames.weak.bind fun _ _ _ _ _ =>
      Along.trailingComma.bind fun _ _ _ _ _ => Along.op.weak
  obtain ⟨rfl, hw⟩ := hb
  refine .ite (fun hb => Along.skip (hw hb)) fun _ => ?_
  exact hnames.bind fun _ _ _ _ _ => .look .diagnose fun _ _ _ => Looks.notOp.along

theorem abreast_importFrom : g.Along 1 n importFrom importFrom Eq := by
  refine Along.word.bind fun m hm _ _ _ => ?_
  have hdots := Along.many (g := g) (n := m) fun _ _ =>
    Along.token (f := fun t => t.isOperator "." || t.isOperator "...") (fun _ _ _ _ => rfl) fun t ht =>
      ((Bool.or_eq_true _ _).mp ht).elim Token.isWritten_of_isOperator Token.isWritten_of_isOperator
  refine hdots.bind fun i hi ts us htus => ?_
  have hempty : us.isEmpty = ts.isEmpty := by cases htus <;> rfl
  rw [hempty]
  have hsequel {n : ℕ} : g.Along 0 n (do Parser.word "import"; importTargets; return StmtForm.importFrom)
      (do Parser.word "import"; importTargets; return StmtForm.importFrom) Eq :=
    Along.word.weak.bind fun _ _ _ _ _ => abreast_importTargets.weak.bind fun _ _ _ _ _ => .pure rfl
  exact .ite (fun _ => abreast_dottedName.weak.bind fun _ _ _ _ _ => hsequel)
    fun _ => abreast_dottedName.optional.bind fun _ _ _ _ _ => hsequel

/-! ## Other simple statements -/

theorem abreast_outerNames (keyword : String) (form : StmtForm) :
    g.Along 1 n (outerNames keyword form) (outerNames keyword form) Eq :=
  Along.word.bind fun _ _ _ _ _ => (Along.separated fun _ _ => Along.name).weak.bind
    fun _ _ _ _ _ => .pure rfl

theorem abreast_lone (hw : g.Written n) (form : StmtForm) :
    g.Along 1 n (lone form) (lone form) Eq :=
  (Along.skip hw).bind fun _ _ _ _ _ => .pure rfl

theorem abreast_formed {p q : Parser StmtForm} (h : g.Along 1 n p q Eq) :
    g.Along 1 n (formed p) (formed q) (Stmt.Alike g.Spans) :=
  .spanned (h.bind fun _ _ _ _ hform => .pure fun _ _ hspan => hform ▸ .other hspan)

section

variable (hr : g.SameRules k r r') (hn : k ≤ n)

include hr hn

theorem abreast_delete : g.Along 1 n (delete r) (delete r') Eq := by
  refine Along.word.bind fun m hm _ _ _ => .orElse ?_ (.look .diagnose fun _ _ _ => .stuck)
  have htargets := Along.separated (s := ",") (g := g) (n := m) (V := fun _ _ => True)
    (p := do let e ← r.primary; Parser.require (e.intruder? .deletion).isNone)
    (q := do let e ← r'.primary; Parser.require (e.intruder? .deletion).isNone)
    fun i hi => (hr.primary i (hi.of_le (hm.of_le hn))).bind fun _ _ _ _ hed => by
      rw [hed.isNone_intruder?]
      exact Looks.require.along
  refine htargets.weak.bind fun _ _ _ _ _ => Along.trailingComma.bind fun _ _ _ _ _ => ?_
  refine .look (.nextIs fun _ _ _ _ => rfl) fun b b' hb => ?_
  obtain ⟨rfl, -⟩ := hb
  exact .look .require fun _ _ _ => .pure rfl

theorem abreast_returned : g.Along 1 n (returned r) (returned r') Eq :=
  Along.word.bind fun m hm _ _ _ => (hr.starExpressions m (hm.of_le hn)).optional.bind
    fun _ _ _ _ _ => .pure rfl

theorem abreast_assertion : g.Along 1 n (assertion r) (assertion r') Eq := by
  refine Along.word.bind fun m hm _ _ _ => (hr.expression m (hm.of_le hn)).weak.bind fun i hi _ _ _ => ?_
  exact (Along.op.seqRight fun j hj =>
    (hr.expression j (hj.of_le (hi.of_le (hm.of_le hn)))).weak).optional.bind fun _ _ _ _ _ => .pure rfl

theorem abreast_raised : g.Along 1 n (raised r) (raised r') (Stmt.Alike g.Spans) := by
  refine .spanned (Along.word.bind fun m hm _ _ _ => ?_)
  have hm' := hm.of_le hn
  have hfound : g.Along 1 m
      (do
        let e ← r.expression
        let cause ← Parser.optional (Parser.word "from" *> r.expression)
        return (e, cause))
      (do
        let e ← r'.expression
        let cause ← Parser.optional (Parser.word "from" *> r'.expression)
        return (e, cause))
      fun x y => Expr.Alike g.Spans x.1 y.1 ∧ Option.Rel (Expr.Alike g.Spans) x.2 y.2 :=
    (hr.expression m hm').bind fun i hi _ _ hed => (Along.word.seqRight fun j hj =>
      (hr.expression j (hj.of_le (hi.of_le hm'))).weak).optional.bind fun _ _ _ _ hcause =>
        .pure ⟨hed, hcause⟩
  refine hfound.optional.bind fun _ _ x y hxy => .pure fun _ _ hspan => ?_
  cases hxy with
  | none => exact .raise .none .none hspan
  | some h => exact .raise (.some h.1) h.2 hspan

theorem abreast_simple : g.Along 1 n (simple r) (simple r') (Stmt.Alike g.Spans) := by
  refine .peek fun t span depth firstLine hp => ?_
  have hwritten {s : String} (ht : t.isKeyword s = true) : g.Written n :=
    ⟨_, hp, Token.isWritten_of_isKeyword ht⟩
  refine .ite (fun _ => abreast_formed (abreast_returned hr hn)) fun _ =>
    .ite (fun _ => abreast_formed abreast_importNames) fun _ =>
    .ite (fun _ => abreast_formed abreast_importFrom) fun _ =>
    .ite (fun _ => abreast_raised hr hn) fun _ =>
    .ite (fun ht => .spanned ((Along.skip (hwritten ht)).bind fun _ _ _ _ _ =>
      .pure fun _ _ hspan => .pass hspan)) fun _ =>
    .ite (fun _ => abreast_formed (abreast_delete hr hn)) fun _ =>
    .ite (fun _ => .spanned ((abreast_yieldExpr hr (hn.trans n.le_succ)).bind fun _ _ _ _ hed =>
      .pure fun _ _ hspan => .expr hed hspan)) fun _ =>
    .ite (fun _ => abreast_formed (abreast_assertion hr hn)) fun _ =>
    .ite (fun ht => abreast_formed (abreast_lone (hwritten ht) _)) fun _ =>
    .ite (fun ht => abreast_formed (abreast_lone (hwritten ht) _)) fun _ =>
    .ite (fun _ => abreast_formed (abreast_outerNames _ _)) fun _ =>
    .ite (fun _ => abreast_formed (abreast_outerNames _ _)) fun _ => ?_
  exact abreast_expressionOrAssignment hr hn

/-- **The simple statements of a line** are read abreast, and the end of the line with them. -/
theorem abreast_simples :
    g.Crosses 1 n (simples r) (simples r') (List.Forall₂ (Stmt.Alike g.Spans)) := by
  have hfound := Along.separated (s := ";") fun _ hm => abreast_simple hr (hm.of_le hn)
  refine hfound.cross fun _ _ _ _ hfound => Along.op.optional.cross fun _ _ _ _ _ => ?_
  exact Crosses.newline.weak.bind fun _ _ _ _ _ => .pure hfound

end

end SpriteStage.Script.Grammar
