import SpriteStage.Proofs.Failure
import SpriteStage.Proofs.Script.Constants
import SpriteStage.Program.Compilation

/-!
# What compiling yields

A compiled program has operations on scalars, loops that count up to naturals, and failures, and
nothing else, at whatever depth: no group, no item that is no instruction, no list and no object.

## Main definitions

* `Program.isCompiled` holds of such programs
* `Compiling.Yields` says that what a part of a script is compiled to has a property
* `Compiled` says that a property is handed on from the statements of a script to the loops around them
-/

namespace SpriteStage

open Script (Expr Stmt)

mutual

/-- Whether an instruction may come from a script. -/
def Instruction.isCompiled : Instruction → Bool
  | .call _ argument => argument.isScalar
  | .loop (.int n) body => 0 ≤ n && Program.isCompiled body
  | .fail _ => true
  | .loop _ _ | .group _ | .unsupported _ => false

/-- Whether a program may come from a script. -/
def Program.isCompiled : List Instruction → Bool
  | [] => true
  | i :: rest => i.isCompiled && Program.isCompiled rest

end

/-! ## Constants -/

namespace Value

theorem isScalar_toValue (a : Number) : a.toValue.isScalar = true := by
  cases a <;> rfl

/-- An operation on a scalar gives a scalar. -/
theorem isScalar_applyUnary {op : UnaryOp} {v w : Value} (h : v.applyUnary op = .ok w) :
    w.isScalar = true := by
  simp only [applyUnary] at h
  split at h
  · cases h
    exact isScalar_toValue _
  · cases h
    exact isScalar_toValue _
  · cases h

/-- An operation on two scalars that are not both numbers gives a text. -/
theorem isScalar_applyOther {op : BinaryOp} {l r v : Value} (hl : l.isScalar = true)
    (hr : r.isScalar = true) (h : applyOther op l r = .ok v) : v.isScalar = true := by
  unfold applyOther at h
  split at h
  case h_1 | h_3 =>
    obtain ⟨n, -, rfl⟩ := exists_of_map_eq_ok h
    rfl
  case h_5 =>
    cases h
    rfl
  case h_7 | h_8 | h_9 => cases h
  -- Lists are no scalars.
  case h_2 | h_6 => cases hl
  case h_4 => cases hr

/-- An operation on two scalars gives a scalar. -/
theorem isScalar_apply {op : BinaryOp} {l r v : Value} (hl : l.isScalar = true)
    (hr : r.isScalar = true) (h : apply op l r = .ok v) : v.isScalar = true := by
  simp only [apply] at h
  split at h
  · obtain ⟨a, -, rfl⟩ := exists_of_map_eq_ok h
    exact isScalar_toValue a
  · exact isScalar_applyOther hl hr h

end Value

/-- What two scalars are folded to is a scalar. -/
theorem isScalar_foldBinary {op : BinaryOp} {l r v : Value} (hl : l.isScalar = true)
    (hr : r.isScalar = true) (h : foldBinary op l r = .ok v) : v.isScalar = true := by
  simp only [foldBinary] at h
  split at h
  · cases h
  · split at h
    · cases h
    · split at h <;> cases h
      rfl
    · rename_i happly
      cases h
      exact Value.isScalar_apply hl hr happly

theorem isScalar_floatLiteral {function : Expr} {arguments : List Expr}
    {keywords : List Script.Keyword} {span : Script.Span} {v : Value}
    (h : floatLiteral function arguments keywords span = .ok v) : v.isScalar = true := by
  unfold floatLiteral at h
  split at h
  · split at h
    · split at h <;> cases h
      rfl
    · cases h
  · cases h

/-- **A constant is a scalar.** -/
theorem isScalar_constant {scope : List String} {e : Expr} (he : e.isPlain = true) {v : Value}
    (h : constant scope e = .ok v) : v.isScalar = true := by
  fun_induction constant scope e generalizing v with
  | case2 v hv =>
    cases h
    cases v <;> simp_all [Expr.isPlain, Script.Literal.isPlain]
  | case4 op operand span ih =>
    obtain ⟨w, hw, hsign⟩ := exists_of_bind_eq_ok h
    exact Value.isScalar_applyUnary (eq_ok_of_mapError (eq_ok_of_mapError hsign))
  | case6 op left right span ihl ihr =>
    rw [Expr.isPlain, Bool.and_eq_true] at he
    obtain ⟨l, hl, h⟩ := exists_of_bind_eq_ok h
    obtain ⟨r, hr, h⟩ := exists_of_bind_eq_ok h
    exact isScalar_foldBinary (ihl he.1 hl) (ihr he.2 hr) (eq_ok_of_mapError h)
  | case8 function arguments keywords span => exact isScalar_floatLiteral h
  | _ => cases h

/-! ## What parts of a script compile to -/

namespace Compiling

variable {α β : Type} {m : Compiling α} {f : α → Compiling β} {Q : α → Prop} {R : β → Prop}

/-- What is compiled has a property. -/
def Yields (m : Compiling α) (Q : α → Prop) : Prop := ∀ ws a ws', m.run ws = (.ok a, ws') → Q a

theorem Yields.pure {a : α} (ha : Q a) : Yields (Pure.pure a) Q := by
  intro ws b ws' h
  cases h
  exact ha

theorem Yields.any : Yields m fun _ => True := fun _ _ _ _ => trivial

theorem Yields.bind (h : Yields m Q) (hf : ∀ a, Q a → Yields (f a) R) : Yields (m >>= f) R := by
  intro ws b ws'' heq
  rw [run_bind_apply] at heq
  split at heq
  · rename_i a ws' ha
    exact hf a (h ws a ws' ha) ws' b ws'' heq
  · cases heq

/-- What comes first may not matter. -/
theorem Yields.after (hf : ∀ a, Yields (f a) R) : Yields (m >>= f) R :=
  Yields.any.bind fun a _ => hf a

theorem Yields.ite {c : Prop} [Decidable c] {m' : Compiling α} (hm : Yields m Q)
    (hm' : Yields m' Q) : Yields (if c then m else m') Q := by
  split
  · exact hm
  · exact hm'

theorem Yields.lift {x : Refusable α} (h : ∀ a, x = .ok a → Q a) : Yields (liftExcept x) Q := by
  cases x with
  | error e =>
    intro ws a ws' heq
    cases heq
  | ok a => exact .pure (h a rfl)

theorem Yields.refuse {cause : RefusalCause} {span : Script.Span} :
    Yields (SpriteStage.refuse cause span : Compiling α) Q := by
  intro ws a ws' heq
  cases heq

end Compiling

/-- A call of an operation carries the constant that its only argument is worked out to. -/
theorem exists_callInstruction {handle : String} {scope : List String} {span : Script.Span}
    {function : Expr} {arguments : List Expr} {keywords : List Script.Keyword} {i : Instruction}
    (h : callInstruction handle scope span function arguments keywords = .ok i) :
    ∃ op argument v, arguments = [argument] ∧ constant scope argument = .ok v ∧ i = .call op v := by
  unfold callInstruction at h
  split at h
  case h_2 => cases h
  case h_1 =>
    split at h
    · cases h
    split at h
    · cases h
    split at h
    · cases h
    -- The call of an operation with one argument.
    split at h
    · rename_i argument
      obtain ⟨v, hv, rfl⟩ := exists_of_map_eq_ok h
      exact ⟨_, argument, v, rfl, hv, rfl⟩
    · cases h

/-- An expression that leaves an instruction behind is a call, which may be awaited. -/
theorem exists_expressionInstruction {handle : String} {scope : List String} {span : Script.Span}
    {e : Expr} {i : Instruction} (h : expressionInstruction handle scope span e = .ok (some i)) :
    ∃ op argument v, (e.isPlain = true → argument.isPlain = true) ∧
      constant scope argument = .ok v ∧ i = .call op v := by
  unfold expressionInstruction at h
  split at h
  case h_1 | h_4 => cases h
  case h_2 | h_3 =>
    obtain ⟨j, hj, heq⟩ := exists_of_map_eq_ok h
    obtain rfl := Option.some.inj heq
    obtain ⟨op, argument, v, rfl, hv, rfl⟩ := exists_callInstruction hj
    refine ⟨op, argument, v, fun he => ?_, hv, rfl⟩
    have harguments : Expr.arePlain [argument] = true := he
    rw [Expr.arePlain, Bool.and_eq_true] at harguments
    exact harguments.1

/-- A `raise` leaves a failure behind. -/
theorem exists_failInstruction {scope : List String} {span : Script.Span}
    {exception : Option Expr} {i : Instruction} (h : failInstruction scope span exception = .ok i) :
    ∃ message, i = .fail message := by
  unfold failInstruction at h
  split at h
  · cases h
  · cases h
    exact ⟨_, rfl⟩
  · split at h
    · cases h
    split at h
    · cases h
      exact ⟨_, rfl⟩
    · obtain ⟨v, -, h⟩ := exists_of_bind_eq_ok h
      split at h <;> cases h
      exact ⟨_, rfl⟩
  · cases h

/-! ## What scripts compile to -/

section

variable {handle : String} {Q : Instruction → Prop}

/-- A property of all that single statements compile to, and of loops whose bodies have it throughout. -/
structure Compiled (handle : String) (Q : Instruction → Prop) : Prop where
  expression {scope : List String} {span : Script.Span} {e : Expr} {i : Instruction} :
    e.isPlain = true → expressionInstruction handle scope span e = .ok (some i) → Q i
  failure {scope : List String} {span : Script.Span} {exception : Option Expr} {i : Instruction} :
    failInstruction scope span exception = .ok i → Q i
  loop {scope : List String} {range : Expr} {n : ℕ} {body : List Instruction} :
    rounds scope range = .ok n → (∀ i ∈ body, Q i) → Q (.loop (.int n) body)

mutual

/-- What a statement compiles to has such a property. -/
theorem yields_compileStmt (hQ : Compiled handle Q) (scope : List String) :
    ∀ s : Stmt, s.isPlain = true → (compileStmt handle scope s).Yields fun i => ∀ j ∈ i, Q j
  | .pass _, _ => by
    rw [compileStmt]
    exact .pure fun j hj => by cases hj
  | .expr value span, h => by
    rw [compileStmt]
    refine .lift fun i hi j hj => ?_
    obtain rfl := Option.mem_def.1 hj
    exact hQ.expression h hi
  | .raise exception _ span, _ => by
    rw [compileStmt]
    refine .lift fun i hi j hj => ?_
    obtain ⟨k, hk, rfl⟩ := exists_of_map_eq_ok hi
    obtain rfl := Option.some.inj hj
    exact hQ.failure hk
  | .other form span, _ => by
    rw [compileStmt]
    exact .refuse
  | .loop target range body otherwise span, h => by
    rw [Stmt.isPlain, Bool.and_eq_true] at h
    have hbody := fun id => yields_compileStmts hQ (id :: scope) body h.2
    unfold compileStmt
    extract_lets rest
    have hrest : ∀ u, (rest u).Yields fun i => ∀ j ∈ i, Q j := by
      intro u
      simp only [rest]
      split
      · refine (Compiling.Yields.lift fun _ hn => hn).bind fun times htimes =>
          (hbody _).bind fun body hbody => ?_
        -- A loop that does not go round only warns.
        have hloop : ∀ j ∈ some (Instruction.loop (.int times) body), Q j := fun j hj => by
          obtain rfl := Option.some.inj hj
          exact hQ.loop htimes hbody
        exact .ite (.after fun _ => .pure hloop) (.pure hloop)
      · exact .refuse
    exact .ite (.after fun u => hrest u) (hrest ())

/-- What statements compile to has such a property throughout. -/
theorem yields_compileStmts (hQ : Compiled handle Q) (scope : List String) :
    ∀ ss : List Stmt, Stmt.arePlain ss = true →
      (compileStmts handle scope ss).Yields fun p => ∀ i ∈ p, Q i
  | [], _ => by
    rw [compileStmts]
    exact .pure (by simp)
  | s :: rest, h => by
    rw [compileStmts]
    rw [Stmt.arePlain, Bool.and_eq_true] at h
    refine (yields_compileStmt hQ scope s h.1).bind fun i hi => ?_
    refine (yields_compileStmts hQ scope rest h.2).bind fun p hp => .pure ?_
    cases i with
    | none => exact hp
    | some i => exact List.forall_mem_cons.2 ⟨hi i rfl, hp⟩

end

/-- **What a text compiles to has every property that single statements hand on** to the loops around
    them. -/
theorem forall_of_compile (hQ : Compiled handle Q) {text : String} {p : Program}
    (h : (compile handle text).1 = .ok p) : ∀ i ∈ p, Q i := by
  unfold compile at h
  simp only at h
  split at h
  · cases h
  split at h
  · cases h
  rename_i script hscript
  have hplain : Stmt.arePlain script = true := Script.arePlain_of_read hscript
  have hyields : (compileScript handle script).Yields fun p => ∀ i ∈ p, Q i := by
    refine (yields_compileStmts hQ [] script hplain).bind fun q hq => ?_
    exact .ite (.after fun _ => .pure hq) (.pure hq)
  exact hyields [] p _ (Prod.ext h rfl)

end

theorem Program.isCompiled_iff (p : Program) :
    Program.isCompiled p = true ↔ ∀ i ∈ p, i.isCompiled = true := by
  induction p with
  | nil => simp [isCompiled]
  | cons i p ih => simp [isCompiled, ih]

/-- **What a text compiles to may come from a script**: operations on scalars, loops that count up to
    naturals, and failures. -/
theorem isCompiled_of_compile {handle text : String} {p : Program}
    (h : (compile handle text).1 = .ok p) : Program.isCompiled p = true := by
  refine (Program.isCompiled_iff p).2 (forall_of_compile ⟨?_, ?_, ?_⟩ h)
  · intro scope span e i he hi
    obtain ⟨op, argument, v, hplain, hv, rfl⟩ := exists_expressionInstruction hi
    exact isScalar_constant (hplain he) hv
  · intro scope span exception i hi
    obtain ⟨message, rfl⟩ := exists_failInstruction hi
    rfl
  · intro scope range n body _ hbody
    simpa [Instruction.isCompiled] using (Program.isCompiled_iff body).2 hbody

end SpriteStage
