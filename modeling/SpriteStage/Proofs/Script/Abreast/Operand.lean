import SpriteStage.Proofs.Script.Abreast.Operator
import SpriteStage.Script.Grammar.Operand

/-!
# Arguments and operands abreast

What is read in brackets comes after the opening bracket, so the rules for it may be assumed to agree from
there on.

## Main results

* `abreast_callArguments` compares the arguments of calls
* `abreast_primary` and `abreast_awaited` compare operands
-/

namespace SpriteStage.Script.Grammar

open Pairing

variable {g : Pairing} {k n : ℕ} {r r' : Rules}

/-! ## Arguments -/

/-- Arguments that differ in their stretches of text only. -/
inductive Argument.Alike (P : Span → Span → Prop) : Argument → Argument → Prop
  | positional {e d : Expr} (value : Expr.Alike P e d) : Alike P (.positional e) (.positional d)
  | named {k l : Keyword} (name : k.name = l.name) : Alike P (.named k) (.named l)

section

variable {P : Span → Span → Prop} {as bs : List Argument}

theorem Argument.alike_values (h : List.Forall₂ (Alike P) as bs) :
    List.Forall₂ (Expr.Alike P) (values as) (values bs) := by
  induction h with
  | nil => exact .nil
  | cons h _ ih =>
    cases h with
    | positional hed => exact .cons hed ih
    | named => exact ih

theorem Argument.map_name_keywords (h : List.Forall₂ (Alike P) as bs) :
    (keywords as).map Keyword.name = (keywords bs).map Keyword.name := by
  induction h with
  | nil => rfl
  | cons h _ ih =>
    cases h with
    | positional => exact ih
    | named hname => exact congrArg₂ List.cons hname ih

/-- Arguments that may be missing. -/
theorem forall₂_getD {α β : Type} {R : α → β → Prop} {o : Option (List α)} {o' : Option (List β)}
    (h : Option.Rel (List.Forall₂ R) o o') : List.Forall₂ R (o.getD []) (o'.getD []) := by
  cases h with
  | none => exact .nil
  | some h => exact h

theorem forall₂_map_positional {es ds : List Expr} (h : List.Forall₂ (Expr.Alike P) es ds) :
    List.Forall₂ (Argument.Alike P) (es.map .positional) (ds.map .positional) := by
  rw [List.forall₂_map_left_iff, List.forall₂_map_right_iff]
  exact h.imp fun _ _ => .positional

end

section

variable (hr : g.SameRules k r r')

include hr

theorem abreast_walrus (hn : k ≤ n + 1) :
    g.Along 1 n (walrus r) (walrus r') (Expr.Alike g.Spans) := by
  have htarget : g.Along 1 n (Parser.spanned do let id ← Parser.name; return Expr.name id)
      (Parser.spanned do let id ← Parser.name; return Expr.name id) (Expr.Alike g.Spans) := by
    refine .spanned (Along.name.bind fun _ _ id id' hid => .pure fun _ _ hspan => ?_)
    subst hid
    exact .name hspan
  refine .spanned (htarget.bind fun m hm e d hed => Along.op.weak.bind fun i hi _ _ _ => ?_)
  exact (hr.expression i (hi.of_le (hm.of_lt hn))).weak.bind fun _ _ _ _ hvalue =>
    .pure fun _ _ hspan => .other (.cons hed (.cons hvalue .nil)) hspan

theorem abreast_element (hn : k ≤ n) : g.Along 1 n (element r) (element r') (Expr.Alike g.Spans) :=
  .orElse (abreast_walrus hr (hn.trans n.le_succ)) ((hr.expression n hn).bind fun _ _ _ _ hed =>
    .look .notOp fun _ _ _ => .pure hed)

theorem abreast_positional (hn : k ≤ n) :
    g.Along 1 n (positional r) (positional r') (Expr.Alike g.Spans) := by
  refine .look .nextOp fun b b' hb => ?_
  obtain ⟨rfl, -⟩ := hb
  refine .ite (fun _ => abreast_starred hr (hn.trans n.le_succ)) fun _ => ?_
  exact (abreast_element hr hn).bind fun _ _ _ _ hed => .look .notOp fun _ _ _ => .pure hed

omit hr in
theorem abreast_label : g.Along 1 n label label Eq := Along.name.seqLeft fun _ _ => Along.op.weak

omit hr in
theorem looks_blameLabel : g.Looks n (blameLabel r) (blameLabel r') fun _ _ => True :=
  Looks.diagnose.bind fun _ _ _ => .diagnose

theorem abreast_labelled (hn : k ≤ n + 1) :
    g.Along 1 n (labelled r) (labelled r') fun k l => k.name = l.name := by
  refine .spanned (.look .here fun _ _ _ => abreast_label.bind fun m hm id id' hid => ?_)
  exact (hr.expression m (hm.of_lt hn)).weak.bind fun _ _ _ _ _ => .look .diagnose fun _ _ _ =>
    .pure fun _ _ _ => congrArg some hid

theorem abreast_labelledOrStarred (hn : k ≤ n + 1) :
    g.Along 1 n (labelledOrStarred r) (labelledOrStarred r') (Argument.Alike g.Spans) :=
  .look looks_blameLabel fun _ _ _ => .orElse (.map ((abreast_labelled hr hn).imp fun _ _ => .named))
    (.map ((abreast_starred hr hn).imp fun _ _ => .positional))

theorem abreast_labelledOrDoubleStarred (hn : k ≤ n + 1) :
    g.Along 1 n (labelledOrDoubleStarred r) (labelledOrDoubleStarred r') (Argument.Alike g.Spans) := by
  refine .look looks_blameLabel fun _ _ _ =>
    .orElse (.map ((abreast_labelled hr hn).imp fun _ _ => .named)) (.map (.spanned ?_))
  exact Along.op.bind fun m hm _ _ _ => (hr.expression m (hm.of_lt hn)).weak.bind fun _ _ _ _ _ =>
    .pure fun _ _ _ => .named rfl

theorem abreast_keywordPart (hn : k ≤ n) :
    g.Along 1 n (keywordPart r) (keywordPart r') (List.Forall₂ (Argument.Alike g.Spans)) := by
  have hdouble {n : ℕ} (hn : k ≤ n) : g.Along 1 n (Parser.separated "," (labelledOrDoubleStarred r))
      (Parser.separated "," (labelledOrDoubleStarred r')) (List.Forall₂ (Argument.Alike g.Spans)) :=
    .separated fun _ hm => abreast_labelledOrDoubleStarred hr ((hm.of_le hn).trans (Nat.le_succ _))
  refine .orElse ?_ (hdouble hn)
  refine (Along.separated fun _ hm =>
    abreast_labelledOrStarred hr ((hm.of_le hn).trans (Nat.le_succ _))).bind fun m hm _ _ hfirst => ?_
  have hmore := (Along.op (s := ",").seqRight fun _ hi => (hdouble (hi.of_le (hm.of_le hn))).weak).optional
  exact hmore.bind fun _ _ _ _ hmore => .pure (List.rel_append hfirst (forall₂_getD hmore))

theorem abreast_argumentList (hn : k ≤ n) :
    g.Along 1 n (argumentList r) (argumentList r') (List.Forall₂ (Argument.Alike g.Spans)) := by
  refine .orElse ?_ (abreast_keywordPart hr hn)
  refine (Along.separated fun _ hm => abreast_positional hr (hm.of_le hn)).bind fun m hm _ _ hfirst => ?_
  have hmore := (Along.op (s := ",").seqRight fun _ hi =>
    (abreast_keywordPart hr (hi.of_le (hm.of_le hn))).weak).optional
  exact hmore.bind fun _ _ _ _ hmore =>
    .pure (List.rel_append (forall₂_map_positional hfirst) (forall₂_getD hmore))

omit hr in
theorem looks_blameArguments :
    g.Looks n (blameArguments r) (blameArguments r') fun _ _ => True :=
  Looks.here.bind fun _ _ _ => Looks.diagnose.bind fun _ _ _ => Looks.diagnose.bind fun _ _ _ =>
    .diagnose

/-- The arguments of calls that differ in their stretches of text only. -/
def AlikeArguments (P : Span → Span → Prop) (x y : List Expr × List Keyword) : Prop :=
  List.Forall₂ (Expr.Alike P) x.1 y.1 ∧ x.2.map Keyword.name = y.2.map Keyword.name

theorem abreast_afterElement (hn : k ≤ n) {l : ℕ} {a b : Position} (hstart : g.Starts l a b)
    (hl : g.Leads 1 l n) {e d : Expr} (hed : Expr.Alike g.Spans e d) :
    g.Along 1 n (afterElement r a e) (afterElement r' b d) (AlikeArguments g.Spans) := by
  refine .look looks_nextIsClause fun c c' hc => ?_
  subst hc
  refine .ite (fun _ => ?_) fun _ => .look .notOp fun _ _ _ => ?_
  · refine (abreast_clauses hr hn).bind fun m hm _ _ _ => Along.op.weak.bind fun i hi _ _ _ => ?_
    exact .look (.spanFrom hstart ((hl.after hm).after hi)) fun _ _ hspan =>
      .pure ⟨.cons (.other (.cons hed .nil) hspan) .nil, rfl⟩
  · have hmore := Along.many fun _ hm => Along.op (g := g) (s := ",").seqRight fun _ hi =>
      (abreast_positional hr (hi.of_le (hm.of_le hn))).weak
    refine hmore.bind_last fun m hm es ds hes => ?_
    have hfound := (Along.op (s := ",").seqRight fun _ hi =>
      (abreast_keywordPart hr (hi.of_le (hm.of_le hn))).weak).optional
    refine hfound.bind_last fun _ _ _ _ hfound => Along.trailingComma.bind_last fun _ _ _ _ _ => ?_
    exact Along.op.bind fun _ _ _ _ _ => .pure ⟨.cons hed (List.rel_append hes
      (Argument.alike_values (forall₂_getD hfound))), Argument.map_name_keywords (forall₂_getD hfound)⟩

theorem abreast_callArguments (hn : k ≤ n) {l : ℕ} {a b : Position} (hstart : g.Starts l a b)
    (hl : g.Leads 1 l n) :
    g.Along 1 n (callArguments r a) (callArguments r' b) (AlikeArguments g.Spans) := by
  refine .look .nextOp fun c c' hc => ?_
  obtain ⟨rfl, hw⟩ := hc
  refine .ite (fun hc => (Along.skip (hw hc)).bind fun _ _ _ _ _ => .pure ⟨.nil, rfl⟩) fun _ => ?_
  refine .orElse ?_ (.orElse ?_ (.look looks_blameArguments fun _ _ _ => .stuck))
  · exact (abreast_element hr hn).bind fun m hm _ _ hed =>
      (abreast_afterElement hr (hm.of_le hn) hstart (hl.after hm) hed).weak
  · refine (abreast_argumentList hr hn).bind fun _ _ _ _ hfound => ?_
    exact Along.trailingComma.bind fun _ _ _ _ _ => Along.op.weak.bind fun _ _ _ _ _ =>
      .pure ⟨Argument.alike_values hfound, Argument.map_name_keywords hfound⟩

/-! ## Named expressions and subscripts -/

omit hr in
theorem looks_blameNamed {s s' : Outlook} (hs : s.diagnosing = false ∧ s'.diagnosing = false)
    {e d : Expr} : g.Looks n (blameNamed r s e) (blameNamed r' s' d) fun _ _ => True :=
  Looks.diagnose.bind fun _ _ _ => (Looks.diagnoseFrom hs).bind fun _ _ _ => .diagnoseFrom hs

theorem abreast_named (hn : k ≤ n + 1) {expression expression' : Parser Expr}
    (h : g.Along 1 n expression expression' (Expr.Alike g.Spans)) :
    g.Along 1 n (named r expression) (named r' expression') (Expr.Alike g.Spans) :=
  .orElse (abreast_walrus hr hn) (.look .outlook fun _ _ hs => h.bind fun _ _ _ _ hed =>
    .look (looks_blameNamed hs) fun _ _ _ => .look .notOp fun _ _ _ => .pure hed)

theorem abreast_starNamed (hn : k ≤ n + 1) {named named' : Parser Expr}
    (h : g.Along 1 n named named' (Expr.Alike g.Spans)) :
    g.Along 1 n (starNamed r named) (starNamed r' named') (Expr.Alike g.Spans) := by
  refine .look .nextOp fun b b' hb => ?_
  obtain ⟨rfl, hw⟩ := hb
  refine .ite (fun hb => .spanned ?_) fun _ => h
  exact (Along.skip (hw hb)).bind fun m hm _ _ _ => (hr.bitwiseOr m (hm.of_lt hn)).weak.bind
    fun _ _ _ _ hed => .pure fun _ _ hspan => .other (.cons hed .nil) hspan

theorem abreast_bounds (hn : k ≤ n) : g.Along 1 n (bounds r) (bounds r') fun _ _ => True := by
  refine Along.op.bind fun m hm _ _ _ => (hr.expression m (hm.of_le hn)).optional.bind fun i hi _ _ _ => ?_
  have hstep := (Along.op (s := ":").seqRight fun j hj =>
    (hr.expression j (hj.of_le (hi.of_le (hm.of_le hn)))).optional).optional
  exact hstep.bind fun _ _ _ _ _ => .pure trivial

theorem abreast_slice (hn : k ≤ n) : g.Along 1 n (slice r) (slice r') (Expr.Alike g.Spans) := by
  refine .look .here fun a b hstart => .look .nextOp fun c c' hc => ?_
  obtain ⟨rfl, -⟩ := hc
  refine .ite (fun _ => abreast_starred hr (hn.trans n.le_succ)) fun _ => .look .nextOp fun c c' hc => ?_
  obtain ⟨rfl, -⟩ := hc
  refine .ite (fun _ => ?_) fun _ => .orElse (abreast_walrus hr (hn.trans n.le_succ)) ?_
  · exact (abreast_bounds hr hn).bind fun m hm _ _ _ =>
      .look (.spanFrom hstart hm) fun _ _ hspan => .pure (.other .nil hspan)
  · refine .look .outlook fun s s' hs => (hr.expression n hn).bind fun m hm e d hed => ?_
    refine .look .nextOp fun c c' hc => ?_
    obtain ⟨rfl, -⟩ := hc
    refine .ite (fun _ => ?_) fun _ => .look (looks_blameNamed hs) fun _ _ _ =>
      .look .notOp fun _ _ _ => .pure hed
    exact (abreast_bounds hr (hm.of_le hn)).weak.bind fun i hi _ _ _ =>
      .look (.spanFrom hstart (hm.after hi)) fun _ _ hspan => .pure (.other (.cons hed .nil) hspan)

theorem abreast_slices (hn : k ≤ n) : g.Along 1 n (slices r) (slices r') (Expr.Alike g.Spans) := by
  refine .look .here fun a b hstart => (abreast_slice hr hn).bind fun m hm e d hed => ?_
  have hmore := Along.many fun i hi => Along.op (g := g) (s := ",").seqRight fun j hj =>
    (abreast_slice hr (hj.of_le (hi.of_le (hm.of_le hn)))).weak
  refine hmore.bind fun i hi es ds heds => Along.trailingComma.bind fun j hj comma comma' hcomma => ?_
  subst hcomma
  have hempty : ds.isEmpty = es.isEmpty := by cases heds <;> rfl
  rw [hempty, isStarred_of_alike hed]
  refine .ite (fun _ => .pure hed) fun _ => ?_
  exact .look (.spanFrom hstart ((hm.after hi).after hj)) fun _ _ hspan =>
    .pure (.other (.cons hed heds) hspan)

end

/-! ## Constants -/

/-- Tokens of the same kinds and characters write the same texts. -/
theorem abreast_joinTexts {ts us : List Token} (h : List.Forall₂ (fun t u => u.lexeme = t.lexeme) ts us)
    (found : Option Joined) : g.Along 0 n (joinTexts found ts) (joinTexts found us) Eq := by
  induction h generalizing found with
  | nil =>
    cases found with
    | none => exact .stuck
    | some found => exact .pure rfl
  | @cons t u ts us h _ ih =>
    rw [joinTexts, joinTexts, ← (Prod.mk.inj h).2]
    cases QuotedPart.ofToken u.chars with
    | error cause => exact .object
    | ok part =>
      dsimp only
      split
      · exact ih _
      · exact .object

theorem abreast_texts : g.Along 1 n texts texts (Expr.Alike g.Spans) := by
  refine .spanned ?_
  refine (Along.some' fun _ _ => .token (fun _ _ _ _ => rfl) fun t ht => by
    rw [Token.isWritten, beq_iff_eq.1 ht]).bind fun m hm ts us htus => ?_
  refine (abreast_joinTexts htus none).bind fun _ _ found _ hfound => ?_
  subst hfound
  cases found with
  | text | bytes => exact .pure fun _ _ hspan => .literal hspan
  | template => exact .pure fun _ _ hspan => .other .nil hspan

theorem abreast_numeral : g.Along 1 n numeral numeral (Expr.Alike g.Spans) := by
  refine .spanned ((Along.token (fun _ _ _ _ => rfl) fun t ht => by
    rw [Token.isWritten, beq_iff_eq.1 ht]).bind fun m hm t u htu => ?_)
  rw [(Prod.mk.inj htu).2]
  cases Literal.ofNumeral t.chars with
  | ok v => exact .pure fun _ _ hspan => .literal hspan
  | error cause => exact .object

/-! ## Brackets -/

section

variable (hr : g.SameRules k r r') (hn : k ≤ n)

include hr hn

theorem abreast_moreParts :
    g.Along 0 n (moreParts r) (moreParts r') (List.Forall₂ (Expr.Alike g.Spans)) := by
  have hmore := Along.many fun i hi => Along.op (g := g) (s := ",").seqRight fun j hj =>
    (hr.starNamed j (hj.of_le (hi.of_le hn))).weak
  exact hmore.seqLeft fun _ _ => Along.trailingComma

theorem abreast_entry : g.Along 1 n (entry r) (entry r') fun _ _ => True := by
  refine .look .nextOp fun b b' hb => ?_
  obtain ⟨rfl, hw⟩ := hb
  refine .ite (fun hb => ?_) fun _ => ?_
  · exact (Along.skip (hw hb)).bind fun m hm _ _ _ => (hr.bitwiseOr m (hm.of_le hn)).weak.bind
      fun _ _ _ _ _ => .pure trivial
  · exact (hr.expression n hn).bind fun m hm _ _ _ => Along.op.weak.bind fun i hi _ _ _ =>
      (hr.expression i (hi.of_le (hm.of_le hn))).weak.bind fun _ _ _ _ _ => .pure trivial

omit hr hn in
theorem looks_blameGroup : g.Looks n (blameGroup r) (blameGroup r') fun _ _ => True :=
  Looks.diagnose.bind fun _ _ _ => .diagnose

omit hr hn in
theorem looks_blameEntries : g.Looks n (blameEntries r) (blameEntries r') fun _ _ => True :=
  Looks.diagnose.bind fun _ _ _ => Looks.diagnose.bind fun _ _ _ => .diagnose

variable {l : ℕ} {a b : Position} (hstart : g.Starts l a b) (hl : g.Leads 1 l n)

include hstart hl

omit hr hn in
/-- What stands between an opening bracket and a closing one that comes next. -/
theorem abreast_close {s : String} {e : Span → Expr} {d : Span → Expr}
    (hed : ∀ σ τ, g.Spans σ τ → Expr.Alike g.Spans (e σ) (d τ)) :
    g.Along 1 n (do Parser.op s; return e (← Parser.spanFrom a))
      (do Parser.op s; return d (← Parser.spanFrom b)) (Expr.Alike g.Spans) :=
  Along.op.bind fun _ hm _ _ _ => .look (.spanFrom hstart (hl.after hm)) fun _ _ hspan =>
    .pure (hed _ _ hspan)

omit hr hn in
/-- A closing bracket that has been seen. -/
theorem abreast_closed (hw : g.Written n) {e : Span → Expr} {d : Span → Expr}
    (hed : ∀ σ τ, g.Spans σ τ → Expr.Alike g.Spans (e σ) (d τ)) :
    g.Along 1 n (do Parser.skip; return e (← Parser.spanFrom a))
      (do Parser.skip; return d (← Parser.spanFrom b)) (Expr.Alike g.Spans) :=
  (Along.skip hw).bind fun _ hm _ _ _ => .look (.spanFrom hstart (hl.after hm)) fun _ _ hspan =>
    .pure (hed _ _ hspan)

theorem abreast_inParentheses :
    g.Along 1 n (inParentheses r a) (inParentheses r' b) (Expr.Alike g.Spans) := by
  refine .look .nextOp fun c c' hc => ?_
  obtain ⟨rfl, hw⟩ := hc
  refine .ite (fun hc => abreast_closed hstart hl (hw hc) fun _ _ => .other .nil) fun _ => ?_
  refine .orElse (.look .nextWord fun c c' hc => ?_) (.look looks_blameGroup fun _ _ _ =>
    .look .diagnose fun _ _ _ => .stuck)
  obtain ⟨rfl, -⟩ := hc
  refine .ite (fun _ => (hr.yieldExpr n hn).seqLeft fun _ _ => Along.op.weak) fun _ => ?_
  refine (hr.starNamed n hn).bind fun m hm e d hed => .look .nextOp fun c c' hc => ?_
  obtain ⟨rfl, -⟩ := hc
  have hm' := hm.of_le hn
  refine .ite (fun _ => ?_) fun _ => ?_
  · -- Elements of a tuple follow.
    refine (abreast_moreParts hr hm').bind fun i hi es ds heds => Along.op.weak.bind fun j hj _ _ _ => ?_
    have hspan := Looks.spanFrom hstart (((hl.after hm).after hi).after hj)
    have hempty : ds.isEmpty = es.isEmpty := by cases heds <;> rfl
    rw [hempty]
    exact .ite (fun _ => .look hspan fun _ _ hspan => .pure (.other (.cons hed .nil) hspan))
      fun _ => .look hspan fun _ _ hspan => .pure (.other (.cons hed heds) hspan)
  · rw [isStarred_of_alike hed]
    refine .look .require fun _ _ _ => .look looks_nextIsClause fun c c' hc => ?_
    subst hc
    refine .ite (fun _ => ?_) fun _ => Along.op.weak.bind fun _ _ _ _ _ => .pure hed
    exact (abreast_clauses hr hm').weak.bind fun i hi _ _ _ =>
      (abreast_close hstart ((hl.after hm).after hi) fun _ _ => .other (.cons hed .nil)).weak

theorem abreast_inSquareBrackets :
    g.Along 1 n (inSquareBrackets r a) (inSquareBrackets r' b) (Expr.Alike g.Spans) := by
  refine .look .nextOp fun c c' hc => ?_
  obtain ⟨rfl, hw⟩ := hc
  refine .ite (fun hc => abreast_closed hstart hl (hw hc) fun _ _ => .other .nil) fun _ => ?_
  refine .orElse ?_ (.look .diagnose fun _ _ _ => .look .diagnose fun _ _ _ => .stuck)
  refine (hr.starNamed n hn).bind fun m hm e d hed => .look looks_nextIsClause fun c c' hc => ?_
  subst hc
  have hm' := hm.of_le hn
  rw [isStarred_of_alike hed]
  refine .ite (fun _ => ?_) fun _ => ?_
  · exact (abreast_clauses hr hm').weak.bind fun i hi _ _ _ =>
      (abreast_close hstart ((hl.after hm).after hi) fun _ _ => .other (.cons hed .nil)).weak
  · exact (abreast_moreParts hr hm').bind fun i hi es ds heds =>
      (abreast_close hstart ((hl.after hm).after hi) fun _ _ => .other (.cons hed heds)).weak

theorem abreast_moreEntries :
    g.Along 1 n (moreEntries r a) (moreEntries r' b) (Expr.Alike g.Spans) := by
  have hmore := Along.many fun i hi => Along.op (g := g) (s := ",").seqRight fun j hj =>
    (abreast_entry hr (hj.of_le (hi.of_le hn))).weak
  refine hmore.bind_last fun m hm _ _ _ => Along.trailingComma.bind_last fun i hi _ _ _ => ?_
  exact abreast_close hstart ((hl.after hm).after hi) fun _ _ => .other .nil

theorem abreast_moreElements {e d : Expr} (hed : Expr.Alike g.Spans e d) :
    g.Along 1 n (moreElements r a e) (moreElements r' b d) (Expr.Alike g.Spans) := by
  refine .look looks_nextIsClause fun c c' hc => ?_
  subst hc
  rw [isStarred_of_alike hed]
  refine .ite (fun _ => ?_) fun _ => ?_
  · exact (abreast_clauses hr hn).bind fun m hm _ _ _ =>
      (abreast_close hstart (hl.after hm) fun _ _ => .other (.cons hed .nil)).weak
  · exact (abreast_moreParts hr hn).bind_last fun m hm es ds heds =>
      abreast_close hstart (hl.after hm) fun _ _ => .other (.cons hed heds)

theorem abreast_inBraces :
    g.Along 1 n (inBraces r a) (inBraces r' b) (Expr.Alike g.Spans) := by
  refine .look .nextOp fun c c' hc => ?_
  obtain ⟨rfl, hw⟩ := hc
  refine .ite (fun hc => abreast_closed hstart hl (hw hc) fun _ _ => .other .nil) fun _ => ?_
  refine .orElse (.look .nextOp fun c c' hc => ?_) (.look looks_blameEntries fun _ _ _ =>
    .look .diagnose fun _ _ _ => .look .diagnose fun _ _ _ => .look .diagnose fun _ _ _ => .stuck)
  obtain ⟨rfl, hw⟩ := hc
  refine .ite (fun hc => ?_) fun _ => .look .nextOp fun c c' hc => ?_
  · refine (Along.skip (hw hc)).bind fun m hm _ _ _ => (hr.bitwiseOr m (hm.of_le hn)).weak.bind
      fun i hi _ _ _ => ?_
    exact (abreast_moreEntries hr (hi.of_le (hm.of_le hn)) hstart ((hl.after hm).after hi)).weak
  obtain ⟨rfl, -⟩ := hc
  refine .ite (fun _ => ?_) fun _ => .orElse ?_ (.look .outlook fun s s' hs => ?_)
  · exact (hr.starNamed n hn).bind fun m hm _ _ hed =>
      (abreast_moreElements hr (hm.of_le hn) hstart (hl.after hm) hed).weak
  · exact (abreast_walrus hr (hn.trans n.le_succ)).bind fun m hm _ _ hed =>
      (abreast_moreElements hr (hm.of_le hn) hstart (hl.after hm) hed).weak
  -- An expression is a key if a colon follows, and an element of a set if none does.
  refine (hr.expression n hn).bind fun m hm e d hed => .look .nextOp fun c c' hc => ?_
  obtain ⟨rfl, hw⟩ := hc
  have hm' := hm.of_le hn
  refine .ite (fun hc => ?_) fun _ => .look (looks_blameNamed hs) fun _ _ _ =>
    .look .notOp fun _ _ _ => (abreast_moreElements hr hm' hstart (hl.after hm) hed).weak
  refine (Along.skip (hw hc)).weak.bind fun i hi _ _ _ => (hr.expression i (hi.of_le hm')).weak.bind
    fun j hj _ _ _ => .look looks_nextIsClause fun c c' hc => ?_
  subst hc
  have hj' := hj.of_le (hi.of_le hm')
  have hlj := ((hl.after hm).after hi).after hj
  refine .ite (fun _ => ?_) fun _ => (abreast_moreEntries hr hj' hstart hlj).weak
  exact (abreast_clauses hr hj').weak.bind fun _ hi' _ _ _ =>
    (abreast_close hstart (hlj.after hi') fun _ _ => .other (.cons hed .nil)).weak

end

/-! ## Operands -/

section

variable (hr : g.SameRules k r r')

include hr

theorem abreast_atom (hn : k ≤ n + 1) :
    g.Along 1 n (atom r) (atom r') (Expr.Alike g.Spans) := by
  refine .look .here fun a b hstart => .peek fun t span depth firstLine hp => ?_
  have hskip (hw : t.isWritten = true) : g.Along 1 n Parser.skip Parser.skip fun _ _ => True :=
    .skip ⟨_, hp, hw⟩
  have hconstant : constantOf? ⟨t.kind, t.chars, span, depth, firstLine⟩ = constantOf? t := rfl
  dsimp only
  split
  case h_1 hkind =>
    refine (hskip (by rw [Token.isWritten, hkind])).bind fun m hm _ _ _ => ?_
    exact .look (.spanFrom hstart hm) fun _ _ hspan => .pure (.name hspan)
  case h_2 => exact abreast_numeral
  case h_3 => exact abreast_texts
  case h_4 hkind | h_5 hkind =>
    have hw : t.isWritten = true := by rw [Token.isWritten, hkind]
    rw [hconstant]
    cases constantOf? t with
    | some v =>
      exact (hskip hw).bind fun m hm _ _ _ =>
        .look (.spanFrom hstart hm) fun _ _ hspan => .pure (.literal hspan)
    | none =>
      refine .ite (fun _ => ?_) fun _ => .ite (fun _ => ?_) fun _ => .ite (fun _ => ?_) fun _ => .stuck
      · exact (hskip hw).bind fun m hm _ _ _ => (abreast_inParentheses hr (hm.of_lt hn) hstart hm).weak
      · exact (hskip hw).bind fun m hm _ _ _ => (abreast_inSquareBrackets hr (hm.of_lt hn) hstart hm).weak
      · exact (hskip hw).bind fun m hm _ _ _ => (abreast_inBraces hr (hm.of_lt hn) hstart hm).weak
  case h_6 => exact .stuck

theorem abreast_trailer (hn : k ≤ n + 1) {l : ℕ} {a b : Position} (hstart : g.Starts l a b)
    (hl : g.Leads 1 l n) {e d : Expr} (hed : Expr.Alike g.Spans e d) :
    g.Along 1 n (trailer r a e) (trailer r' b d) (Expr.Alike g.Spans) := by
  refine .peek fun t span depth firstLine hp => ?_
  have hskip {s : String} (ht : t.isOperator s = true) :
      g.Along 1 n Parser.skip Parser.skip fun _ _ => True :=
    .skip ⟨_, hp, Token.isWritten_of_isOperator ht⟩
  refine .ite (fun ht => ?_) fun _ => .ite (fun ht => ?_) fun _ => .ite (fun ht => ?_) fun _ => .stuck
  · refine (hskip ht).bind fun m hm _ _ _ => Along.name.weak.bind fun i hi id id' hid => ?_
    subst hid
    exact .look (.spanFrom hstart ((hl.after hm).after hi)) fun _ _ hspan => .pure (.attribute hed hspan)
  · -- The arguments start at the opening bracket.
    have hopening : g.Starts n t.span.start span.start := fun q hq => by
      cases hp.symm.trans hq
      exact ⟨rfl, rfl⟩
    refine (hskip ht).bind fun m hm _ _ _ =>
      (abreast_callArguments hr (hm.of_lt hn) hopening hm).weak.bind fun i hi x y hxy => ?_
    obtain ⟨es, ks⟩ := x
    obtain ⟨ds, ls⟩ := y
    exact .look (.spanFrom hstart ((hl.after hm).after hi)) fun _ _ hspan =>
      .pure (.call hed hxy.1 hxy.2 hspan)
  · refine (hskip ht).bind fun m hm _ _ _ => (abreast_slices hr (hm.of_lt hn)).weak.bind
      fun i hi _ _ hpart => Along.op.weak.bind fun j hj _ _ _ => ?_
    exact .look (.spanFrom hstart (((hl.after hm).after hi).after hj)) fun _ _ hspan =>
      .pure (.other (.cons hed (.cons hpart .nil)) hspan)

theorem abreast_primary (hn : k ≤ n + 1) :
    g.Along 1 n (primary r) (primary r') (Expr.Alike g.Spans) :=
  .look .here fun _ _ hstart => (abreast_atom hr hn).bind fun _ hm _ _ hed =>
    .grow hed fun _ hi _ _ hed => abreast_trailer hr ((hi.of_le (hm.of_lt hn)).trans (Nat.le_succ _))
      hstart (hm.after hi) hed

theorem abreast_awaited (hn : k ≤ n + 1) :
    g.Along 1 n (awaited r) (awaited r') (Expr.Alike g.Spans) := by
  refine .look .nextWord fun c c' hc => ?_
  obtain ⟨rfl, hw⟩ := hc
  refine .ite (fun hc => .spanned ?_) fun _ => abreast_primary hr hn
  exact (Along.skip (hw hc)).bind fun m hm _ _ _ =>
    (abreast_primary hr ((hm.of_lt hn).trans m.le_succ)).weak.bind fun _ _ _ _ hed =>
      .pure fun _ _ hspan => .await hed hspan

end

end SpriteStage.Script.Grammar
