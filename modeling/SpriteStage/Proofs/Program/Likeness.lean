import SpriteStage.Program.Compilation
import SpriteStage.Proofs.Failure
import SpriteStage.Proofs.Script.Abreast.Tree

/-!
# Compiling scripts that differ in their stretches of text

Where the parts of a script stand matters for the places in messages only: scripts that are alike compile
to the same program, or are refused for the same cause, and the warnings are the same up to their places.

## Main definitions

* `CompileError.Alike` and `Warning.Alike` relate what differs in its stretch of text only
* `Compiling.Alike` relates parts of a compilation with like results

## Main results

* `alike_compileStmts` compares the compilations of statements that are alike
-/

namespace SpriteStage

open Script (Span Expr Stmt Keyword)

/-- Errors that differ in their stretches of text only. -/
inductive CompileError.Alike (P : Span → Span → Prop) : CompileError → CompileError → Prop
  | refused {cause : RefusalCause} {σ τ : Span} (span : P σ τ) :
    Alike P (.refused cause σ) (.refused cause τ)
  | operation (error : OperationError) : Alike P (.operation error) (.operation error)

/-- Warnings that differ in their stretches of text only. -/
inductive Warning.Alike (P : Span → Span → Prop) : Warning → Warning → Prop
  | emptyLoop {σ τ : Span} (span : P σ τ) : Alike P (.emptyLoop σ) (.emptyLoop τ)
  | noOperation : Alike P .noOperation .noOperation

/-- Results that are the same, or fail with errors that are alike. -/
inductive Refusable.Alike {α : Type} (P : Span → Span → Prop) : Refusable α → Refusable α → Prop
  | ok (a : α) : Alike P (.ok a) (.ok a)
  | error {e e' : CompileError} (h : CompileError.Alike P e e') : Alike P (.error e) (.error e')

/-- Parts of a compilation with like results, which add warnings that are alike to those before. -/
def Compiling.Alike {α : Type} (P : Span → Span → Prop) (m m' : Compiling α) : Prop :=
  ∀ ws ws', Refusable.Alike P (m.run ws).1 (m'.run ws').1 ∧
    ∃ vs vs', (m.run ws).2 = ws ++ vs ∧ (m'.run ws').2 = ws' ++ vs' ∧
      List.Forall₂ (Warning.Alike P) vs vs'

variable {P : Span → Span → Prop} {α β : Type}

namespace Refusable.Alike

theorem refused {cause : RefusalCause} {σ τ : Span} (h : P σ τ) :
    Alike P (.error (.refused cause σ) : Refusable α) (.error (.refused cause τ)) :=
  .error (.refused h)

theorem bind {x y : Refusable α} {f f' : α → Refusable β} (h : Alike P x y)
    (hf : ∀ a, Alike P (f a) (f' a)) : Alike P (x >>= f) (y >>= f') := by
  cases h with
  | ok a => exact hf a
  | error h => exact .error h

theorem map {x y : Refusable α} (f : α → β) (h : Alike P x y) : Alike P (x.map f) (y.map f) := by
  cases h with
  | ok a => exact .ok (f a)
  | error h => exact .error h

theorem ite {c : Prop} [Decidable c] {x y x' y' : Refusable α} (h : Alike P x y) (h' : Alike P x' y') :
    Alike P (if c then x else x') (if c then y else y') := by
  split
  · exact h
  · exact h'

theorem blame {σ τ : Span} (h : P σ τ) (x : Except RefusalCause α) :
    Alike P (blame σ x) (SpriteStage.blame τ x) := by
  cases x with
  | ok a => exact .ok a
  | error cause => exact .refused h

end Refusable.Alike

/-! ## Constants -/

section

variable {e d : Expr} {es ds : List Expr} {ks ls : List Keyword} {σ τ : Span}

theorem isEmpty_of_map_name (h : ks.map Keyword.name = ls.map Keyword.name) : ls.isEmpty = ks.isEmpty := by
  rw [← List.isEmpty_map (f := Keyword.name), ← h, List.isEmpty_map]

theorem isEmpty_of_forall₂ {γ : Type} {R : γ → γ → Prop} {xs ys : List γ} (h : List.Forall₂ R xs ys) :
    ys.isEmpty = xs.isEmpty := by
  cases h <;> rfl

/-- A word for a double is one wherever it stands. -/
theorem alike_floatLiteral (hf : Expr.Alike P e d) (has : List.Forall₂ (Expr.Alike P) es ds)
    (hks : ks.map Keyword.name = ls.map Keyword.name) (hspan : P σ τ) :
    Refusable.Alike P (floatLiteral e es ks σ) (floatLiteral d ds ls τ) := by
  rw [floatLiteral.eq_def e, floatLiteral.eq_def d]
  split
  · cases hf
    cases has with
    | cons ha hnil =>
      cases ha
      cases hnil
      obtain rfl : ls = [] := List.map_eq_nil_iff.1 hks.symm
      refine .ite ?_ (.refused hspan)
      split
      · exact .ok _
      · exact .error (.operation _)
  · rename_i hleft
    split
    · -- What is a word on one side is one on the other.
      cases hf
      cases has with
      | cons ha hnil =>
        cases ha
        cases hnil
        obtain rfl : ks = [] := List.map_eq_nil_iff.1 hks
        exact (hleft _ _ _ rfl rfl rfl).elim
    · exact .refused hspan

theorem alike_literal (scope : List String) (l : Script.Literal) (hspan : P σ τ) :
    Refusable.Alike P (constant scope (.literal l σ)) (constant scope (.literal l τ)) := by
  cases l with
  | value v =>
    cases v with
    | null => exact .refused hspan
    | _ => exact .ok _
  | _ => exact .refused hspan

theorem alike_constant (scope : List String) : ∀ {e d : Expr}, Expr.Alike P e d →
    Refusable.Alike P (constant scope e) (constant scope d)
  | _, _, .literal hspan => alike_literal scope _ hspan
  | _, _, .name hspan | _, _, .attribute _ hspan | _, _, .await _ hspan | _, _, .other _ hspan =>
    .refused hspan
  | _, _, @Expr.Alike.sign _ op _ _ _ _ operand hspan => by
    cases op with
    | arithmetic op => exact (alike_constant scope operand).bind fun v => .blame hspan _
    | _ => exact .refused hspan
  | _, _, @Expr.Alike.binary _ op _ _ _ _ _ _ left right hspan => by
    cases op with
    | arithmetic op =>
      exact (alike_constant scope left).bind fun l => (alike_constant scope right).bind fun r =>
        .blame hspan _
    | _ => exact .refused hspan
  | _, _, .call function arguments keywords hspan =>
    alike_floatLiteral function arguments keywords hspan

theorem alike_mapM_constant (scope : List String) (h : List.Forall₂ (Expr.Alike P) es ds) :
    Refusable.Alike P (es.mapM (constant scope)) (ds.mapM (constant scope)) := by
  induction h with
  | nil => exact .ok []
  | cons hhead _ ih =>
    rw [List.mapM_cons, List.mapM_cons]
    exact (alike_constant scope hhead).bind fun v => ih.bind fun vs => .ok (v :: vs)

/-! ## Parts of statements -/

theorem alike_rangeOf (hspan : P σ τ) (bounds : List Value) :
    Refusable.Alike P (rangeOf σ bounds) (rangeOf τ bounds) := by
  have hlength (start stop step : Int) : Refusable.Alike P
      (if rangeLength start stop step ≤ Int64.maxValue.toInt then
        (.ok (rangeLength start stop step) : Refusable ℕ) else .error (.operation .lengthRange))
      (if rangeLength start stop step ≤ Int64.maxValue.toInt then
        .ok (rangeLength start stop step) else .error (.operation .lengthRange)) :=
    .ite (.ok _) (.error (.operation _))
  rw [rangeOf, rangeOf]
  split
  · exact hlength _ _ _
  · exact hlength _ _ _
  · exact .ite (.refused hspan) (hlength _ _ _)
  · exact .refused hspan

theorem alike_rounds (scope : List String) (h : Expr.Alike P e d) :
    Refusable.Alike P (rounds scope e) (rounds scope d) := by
  by_cases hrange : ∃ σ es ks τ, e = .call (.name "range" σ) es ks τ
  · obtain ⟨_, _, _, _, rfl⟩ := hrange
    cases h with
    | call hf hes hks hspan =>
      cases hf
      rw [rounds, rounds, isEmpty_of_map_name hks, isEmpty_of_forall₂ hes, hes.length_eq]
      refine .ite (.refused hspan) (.ite (.refused hspan) ?_)
      exact (alike_mapM_constant scope hes).bind fun bounds => alike_rangeOf hspan bounds
  · rw [rounds, rounds]
    · exact .refused h.spans
    · -- What is a range on one side is one on the other.
      rintro _ _ _ _ rfl
      cases h with
      | call hf =>
        cases hf
        exact hrange ⟨_, _, _, _, rfl⟩
    · rintro _ _ _ _ rfl
      exact hrange ⟨_, _, _, _, rfl⟩

theorem alike_callInstruction (handle : String) (scope : List String) (hspan : P σ τ)
    (hf : Expr.Alike P e d) (has : List.Forall₂ (Expr.Alike P) es ds)
    (hks : ks.map Keyword.name = ls.map Keyword.name) :
    Refusable.Alike P (callInstruction handle scope σ e es ks) (callInstruction handle scope τ d ds ls) := by
  cases hf with
  | «attribute» howner =>
    cases howner with
    | name =>
      rw [callInstruction, callInstruction, isEmpty_of_map_name hks]
      refine .ite (.refused hspan) ?_
      split
      · exact .refused hspan
      · refine .ite (.refused hspan) ?_
        cases has with
        | nil => exact .refused hspan
        | cons ha has =>
          cases has with
          | nil => exact (alike_constant scope ha).map _
          | cons => exact .refused hspan
    | _ => exact .refused hspan
  | _ => exact .refused hspan

theorem alike_failInstruction (scope : List String) (hspan : P σ τ) {o o' : Option Expr}
    (h : Option.Rel (Expr.Alike P) o o') :
    Refusable.Alike P (failInstruction scope σ o) (failInstruction scope τ o') := by
  cases h with
  | none => exact .refused hspan
  | some h =>
    cases h with
    | name => exact .ok _
    | call hf has hks =>
      cases hf with
      | name =>
        simp only [failInstruction]
        rw [isEmpty_of_map_name hks, has.length_eq]
        refine .ite (.refused hspan) ?_
        cases has with
        | nil => exact .ok _
        | cons ha has =>
          refine (alike_constant scope ha).bind fun v => ?_
          split
          · exact .ok _
          · exact .error (.operation _)
      | _ => exact .refused hspan
    | _ => exact .refused hspan

theorem alike_expressionInstruction (handle : String) (scope : List String) (hspan : P σ τ)
    (h : Expr.Alike P e d) :
    Refusable.Alike P (expressionInstruction handle scope σ e) (expressionInstruction handle scope τ d) := by
  cases h with
  | @literal l =>
    cases l with
    | value v =>
      cases v with
      | text s => exact .ok none
      | _ => exact .refused hspan
    | _ => exact .refused hspan
  | call hf has hks => exact (alike_callInstruction handle scope hspan hf has hks).map some
  | await h =>
    cases h with
    | call hf has hks => exact (alike_callInstruction handle scope hspan hf has hks).map some
    | _ => exact .refused hspan
  | _ => exact .refused hspan

end

/-! ## Statements -/

namespace Compiling.Alike

variable {m m' : Compiling α} {f f' : α → Compiling β}

theorem pure (a : α) : Alike P (Pure.pure a) (Pure.pure a) := fun ws ws' =>
  ⟨.ok a, [], [], (List.append_nil ws).symm, (List.append_nil ws').symm, .nil⟩

theorem lift {x y : Refusable α} (h : Refusable.Alike P x y) : Alike P (liftExcept x) (liftExcept y) := by
  intro ws ws'
  cases h with
  | ok a => exact pure a ws ws'
  | error h => exact ⟨.error h, [], [], (List.append_nil ws).symm, (List.append_nil ws').symm, .nil⟩

theorem refuse {cause : RefusalCause} {σ τ : Span} (h : P σ τ) :
    Alike P (SpriteStage.refuse cause σ : Compiling α) (SpriteStage.refuse cause τ) :=
  fun ws ws' => ⟨.refused h, [], [], (List.append_nil ws).symm, (List.append_nil ws').symm, .nil⟩

theorem warn {w w' : Warning} (h : Warning.Alike P w w') :
    Alike P (SpriteStage.warn w) (SpriteStage.warn w') :=
  fun _ _ => ⟨.ok (), [w], [w'], rfl, rfl, .cons h .nil⟩

theorem bind (h : Alike P m m') (hf : ∀ a, Alike P (f a) (f' a)) : Alike P (m >>= f) (m' >>= f') := by
  intro ws ws'
  obtain ⟨hresult, vs, vs', hvs, hvs', hwarnings⟩ := h ws ws'
  rw [run_bind_apply, run_bind_apply]
  rcases hm : m.run ws with ⟨x, us⟩
  rcases hm' : m'.run ws' with ⟨x', us'⟩
  rw [hm] at hresult hvs
  rw [hm'] at hresult hvs'
  obtain rfl : us = ws ++ vs := hvs
  obtain rfl : us' = ws' ++ vs' := hvs'
  cases hresult with
  | error h => exact ⟨.error h, vs, vs', rfl, rfl, hwarnings⟩
  | ok a =>
    obtain ⟨hresult, us, us', hus, hus', hmore⟩ := hf a (ws ++ vs) (ws' ++ vs')
    refine ⟨hresult, vs ++ us, vs' ++ us', ?_, ?_, List.rel_append hwarnings hmore⟩
    · rw [← List.append_assoc, ← hus]
    · rw [← List.append_assoc, ← hus']

theorem ite {c : Prop} [Decidable c] {k k' : Compiling α} (h : Alike P m m') (hk : Alike P k k') :
    Alike P (if c then m else k) (if c then m' else k') := by
  split
  · exact h
  · exact hk

end Compiling.Alike

section

variable (handle : String)

mutual

/-- Statements that are alike compile alike. -/
theorem alike_compileStmt (scope : List String) : ∀ {s t : Stmt}, Stmt.Alike P s t →
    Compiling.Alike P (compileStmt handle scope s) (compileStmt handle scope t)
  | _, _, .expr h hspan => by
    rw [compileStmt, compileStmt]
    exact .lift (alike_expressionInstruction handle scope hspan h)
  | _, _, .pass _ => by
    rw [compileStmt, compileStmt]
    exact .pure none
  | _, _, .raise h _ hspan => by
    rw [compileStmt, compileStmt]
    exact .lift ((alike_failInstruction scope hspan h).map some)
  | _, _, .other hspan => by
    rw [compileStmt, compileStmt]
    exact .refuse hspan
  | _, _, .loop htarget hrange hbody hotherwise hspan => by
    have hinside (id : String) := alike_compileStmts (id :: scope) hbody
    unfold compileStmt
    extract_lets rest rest'
    have hrest (u : PUnit) : Compiling.Alike P (rest u) (rest' u) := by
      simp only [rest, rest']
      cases htarget with
      | name =>
        refine .bind (.lift (alike_rounds scope hrange)) fun times => (hinside _).bind fun _ => ?_
        -- A loop that does not go round only warns.
        exact .ite ((Compiling.Alike.warn (.emptyLoop hspan)).bind fun _ => .pure _) (.pure _)
      | _ => exact .refuse hspan
    rw [isEmpty_of_forall₂ hotherwise]
    exact .ite ((Compiling.Alike.refuse hspan).bind hrest) (hrest ())

/-- Lists of statements that are alike compile alike. -/
theorem alike_compileStmts (scope : List String) : ∀ {ss ts : List Stmt},
    List.Forall₂ (Stmt.Alike P) ss ts →
      Compiling.Alike P (compileStmts handle scope ss) (compileStmts handle scope ts)
  | _, _, .nil => by
    rw [compileStmts]
    exact .pure []
  | _, _, .cons h hs => by
    rw [compileStmts, compileStmts]
    exact (alike_compileStmt scope h).bind fun head => (alike_compileStmts scope hs).bind fun rest =>
      .pure _

end

/-- Scripts that are alike compile alike. -/
theorem alike_compileScript {ss ts : List Stmt} (h : List.Forall₂ (Stmt.Alike P) ss ts) :
    Compiling.Alike P (compileScript handle ss) (compileScript handle ts) :=
  (alike_compileStmts handle [] h).bind fun program =>
    .ite ((Compiling.Alike.warn .noOperation).bind fun _ => .pure program) (.pure program)

end

end SpriteStage
