import SpriteStage.Script.Tree
import Mathlib.Data.List.Forall2

/-!
# Trees that differ in their stretches of text

Two texts that are read in the same way give trees of the same form, and only the stretches of text that
their parts span are different ones.  `Expr.Alike` and `Stmt.Alike` relate such trees, for any relation
between the stretches.

## Main definitions

* `Expr.Alike` and `Stmt.Alike` relate trees that differ in their stretches of text only

## Main results

* `Expr.Alike.isNone_intruder?` says that the same expressions can be targets
-/

namespace SpriteStage.Script

variable {P : Span → Span → Prop}

/-- Expressions that differ in their stretches of text only, which `P` relates.  Of the named arguments
    the names count. -/
inductive Expr.Alike (P : Span → Span → Prop) : Expr → Expr → Prop
  | literal {v : Literal} {σ τ : Span} (span : P σ τ) : Alike P (.literal v σ) (.literal v τ)
  | name {id : String} {σ τ : Span} (span : P σ τ) : Alike P (.name id σ) (.name id τ)
  | sign {op : Sign} {e d : Expr} {σ τ : Span} (operand : Alike P e d) (span : P σ τ) :
    Alike P (.sign op e σ) (.sign op d τ)
  | binary {op : Infix} {e e' d d' : Expr} {σ τ : Span} (left : Alike P e d) (right : Alike P e' d')
    (span : P σ τ) : Alike P (.binary op e e' σ) (.binary op d d' τ)
  | attribute {id : String} {e d : Expr} {σ τ : Span} (owner : Alike P e d) (span : P σ τ) :
    Alike P (.attribute e id σ) (.attribute d id τ)
  | call {e d : Expr} {es ds : List Expr} {ks ls : List Keyword} {σ τ : Span} (function : Alike P e d)
    (arguments : List.Forall₂ (Alike P) es ds) (keywords : ks.map Keyword.name = ls.map Keyword.name)
    (span : P σ τ) : Alike P (.call e es ks σ) (.call d ds ls τ)
  | await {e d : Expr} {σ τ : Span} (operand : Alike P e d) (span : P σ τ) :
    Alike P (.await e σ) (.await d τ)
  | other {form : Form} {es ds : List Expr} {σ τ : Span} (parts : List.Forall₂ (Alike P) es ds)
    (span : P σ τ) : Alike P (.other form es σ) (.other form ds τ)

/-- Statements that differ in their stretches of text only, which `P` relates. -/
inductive Stmt.Alike (P : Span → Span → Prop) : Stmt → Stmt → Prop
  | expr {e d : Expr} {σ τ : Span} (value : Expr.Alike P e d) (span : P σ τ) :
    Alike P (.expr e σ) (.expr d τ)
  | pass {σ τ : Span} (span : P σ τ) : Alike P (.pass σ) (.pass τ)
  | loop {e e' d d' : Expr} {ss ss' ts ts' : List Stmt} {σ τ : Span} (target : Expr.Alike P e d)
    (range : Expr.Alike P e' d') (body : List.Forall₂ (Alike P) ss ts)
    (otherwise : List.Forall₂ (Alike P) ss' ts') (span : P σ τ) :
    Alike P (.loop e e' ss ss' σ) (.loop d d' ts ts' τ)
  | raise {e e' d d' : Option Expr} {σ τ : Span} (exception : Option.Rel (Expr.Alike P) e d)
    (cause : Option.Rel (Expr.Alike P) e' d') (span : P σ τ) : Alike P (.raise e e' σ) (.raise d d' τ)
  | other {form : StmtForm} {σ τ : Span} (span : P σ τ) : Alike P (.other form σ) (.other form τ)

namespace Expr

variable {e d : Expr} {es ds : List Expr}

/-- The stretches of text of whole expressions are related. -/
theorem Alike.spans (h : Alike P e d) : P e.span d.span := by
  cases h <;> assumption

mutual

/-- **The same expressions can be targets**. -/
theorem Alike.isNone_intruder? (use : TargetUse) :
    ∀ {e d : Expr}, Alike P e d → (e.intruder? use).isNone = (d.intruder? use).isNone
  | _, _, .name _ | _, _, .attribute _ _ => by simp only [intruder?]
  | _, _, .literal _ | _, _, .sign _ _ | _, _, .binary _ _ _ | _, _, .call _ _ _ _ | _, _, .await _ _ => by
    simp only [intruder?, Option.isNone_some]
  | _, _, @Alike.other _ form _ _ _ _ parts _ => by
    have hparts := isNone_intruderOf? use parts
    cases form with
    | list | tuple => simp only [intruder?, hparts]
    | starred | compare startsWithIn =>
      simp only [intruder?]
      split
      · simp [hparts, apply_ite Option.isNone]
      · simp [hparts]
    | _ => simp only [intruder?, Option.isNone_some]

/-- The same lists of expressions can be those of targets. -/
theorem isNone_intruderOf? (use : TargetUse) :
    ∀ {es ds : List Expr}, List.Forall₂ (Alike P) es ds →
      (intruderOf? use es).isNone = (intruderOf? use ds).isNone
  | _, _, .nil => rfl
  | _, _, .cons (a := e) (b := d) h hs => by
    have hhead := h.isNone_intruder? use
    have htail := isNone_intruderOf? use hs
    rw [intruderOf?, intruderOf?]
    cases he : e.intruder? use with
    | none =>
      rw [he, Option.isNone_none, eq_comm, Option.isNone_iff_eq_none] at hhead
      rw [hhead]
      exact htail
    | some part =>
      obtain ⟨part', hd⟩ : ∃ part', d.intruder? use = some part' := by
        rwa [he, Option.isNone_some, eq_comm, Option.isNone_eq_false_iff, Option.isSome_iff_exists] at hhead
      rw [hd]
      rfl

end

end Expr

end SpriteStage.Script
