import SpriteStage.Proofs.Program.Compiled
import SpriteStage.Proofs.Program.Descent

/-!
# What a compilation warns about

Every loop of a script that compiles is a loop of its program, and the warnings are about those among them
that do not go round.  A loop warns after its body, so the loops inside come before it.  A compilation that
fails has warned about the loops that were complete before the statement at which it fails, and about no
others.

These are the warnings of the compiler.  The reader may have remarked on the spelling of tokens before; it
does so whatever the loops are, and nothing else is told.

## Main definitions

* `HaveLoops` lists the loops that a script and its program have in the same places
* `FailsAt` says at which statement a script fails and which loops are complete before it

## Main results

* `compile_warns_about_its_empty_loops`
-/

namespace SpriteStage

open Script (Expr Stmt Span)

/-! ## Loops in a tree -/

namespace Script

mutual

/-- The places of the loops of a statement, those inside a loop before the loop. -/
def Stmt.loopSpans : Stmt → List Span
  | .loop _ _ body _ span => Stmt.loopSpansIn body ++ [span]
  | .pass _ | .expr .. | .raise .. | .other .. => []

/-- The places of the loops of some statements, those inside a loop before the loop. -/
def Stmt.loopSpansIn : List Stmt → List Span
  | [] => []
  | s :: rest => s.loopSpans ++ Stmt.loopSpansIn rest

end

end Script

mutual

/-- What the loops of an instruction count up to, those inside a loop before the loop. -/
def Instruction.loopTimes : Instruction → List Value
  | .loop times body => Program.loopTimes body ++ [times]
  | .group body => Program.loopTimes body
  | .call .. | .fail _ | .unsupported _ => []

/-- What the loops of a program count up to, those inside a loop before the loop. -/
def Program.loopTimes : List Instruction → List Value
  | [] => []
  | i :: rest => i.loopTimes ++ Program.loopTimes rest

end

/-- Statements and instructions have the same loops in the same places.  The list has the place of each of
    them in the text and the number of its rounds, those inside a loop before the loop. -/
inductive HaveLoops : List Stmt → List Instruction → List (Span × ℕ) → Prop where
  | nil : HaveLoops [] [] []
  | silent {s : Stmt} {ss p loops} (hs : s.isLoop = false) (h : HaveLoops ss p loops) :
    HaveLoops (s :: ss) p loops
  | single {s : Stmt} {i : Instruction} {ss p loops} (hs : s.isLoop = false) (hi : i.loopTimes = [])
    (h : HaveLoops ss p loops) : HaveLoops (s :: ss) (i :: p) loops
  | loop {target range : Expr} {body otherwise : List Stmt} {span : Span} {times : ℕ} {inside ss p loops later}
    (hbody : HaveLoops body inside loops) (h : HaveLoops ss p later) :
    HaveLoops (.loop target range body otherwise span :: ss) (.loop (.int times) inside :: p)
      (loops ++ [(span, times)] ++ later)

/-- The loops are all loops of the statements. -/
theorem HaveLoops.map_fst {ss : List Stmt} {p : List Instruction} {loops : List (Span × ℕ)}
    (h : HaveLoops ss p loops) : loops.map (·.1) = Stmt.loopSpansIn ss := by
  induction h with
  | nil => rfl
  | @silent s _ _ _ hs _ ih | @single s _ _ _ _ hs _ _ ih =>
    rw [Stmt.loopSpansIn, ih]
    cases s with
    | loop => cases hs
    | _ => rfl
  | loop hbody h ihbody ih =>
    rw [Stmt.loopSpansIn, Stmt.loopSpans, ← ihbody, ← ih, List.map_append, List.map_append]
    rfl

/-- The loops are all loops of the instructions. -/
theorem HaveLoops.map_snd {ss : List Stmt} {p : List Instruction} {loops : List (Span × ℕ)}
    (h : HaveLoops ss p loops) : loops.map (Value.int ·.2) = Program.loopTimes p := by
  induction h with
  | nil => rfl
  | silent hs h ih => exact ih
  | single hs hi h ih => rw [Program.loopTimes, hi, ih, List.nil_append]
  | loop hbody h ihbody ih =>
    rw [Program.loopTimes, Instruction.loopTimes, ← ihbody, ← ih, List.map_append, List.map_append]
    rfl

/-- Statements and instructions have only one list of loops. -/
theorem HaveLoops.unique {ss : List Stmt} {p : List Instruction} {xs ys : List (Span × ℕ)}
    (hxs : HaveLoops ss p xs) (hys : HaveLoops ss p ys) : xs = ys := by
  have hspans : xs.map Prod.fst = ys.map Prod.fst := hxs.map_fst.trans hys.map_fst.symm
  have htimes : xs.map Prod.snd = ys.map Prod.snd := by
    have hint : Function.Injective fun n : ℕ => Value.int n := fun m n h =>
      Int.ofNat.inj (Value.int.inj h)
    refine List.map_injective_iff.2 hint ?_
    rw [List.map_map, List.map_map]
    exact hxs.map_snd.trans hys.map_snd.symm
  rw [List.zip_of_prod hspans htimes, ← List.zip_of_prod rfl rfl]

/-- Among some loops, the warnings about those that do not go round. -/
def emptyAmong (loops : List (Span × ℕ)) : List Warning :=
  (loops.filter (·.2 = 0)).map fun loop => .emptyLoop loop.1

theorem emptyAmong_append (xs ys : List (Span × ℕ)) :
    emptyAmong (xs ++ ys) = emptyAmong xs ++ emptyAmong ys := by
  rw [emptyAmong, List.filter_append, List.map_append]
  rfl

/-- A loop is warned about if it does not go round. -/
theorem emptyAmong_singleton (span : Span) (times : ℕ) :
    emptyAmong [(span, times)] = warningsOf times span := by
  by_cases h : times = 0 <;> simp [emptyAmong, warningsOf, h]

/-! ## Scripts that compile -/

variable {handle : String}

/-- The instruction of a statement without a body is no loop. -/
theorem loopTimes_of_instruction {scope : List String} {s : Stmt} {i : Instruction}
    (h : s.instruction handle scope = .ok (some i)) : i.loopTimes = [] := by
  cases s with
  | pass => cases h
  | expr value span =>
    obtain ⟨op, argument, v, -, -, rfl⟩ := exists_expressionInstruction h
    rfl
  | raise exception cause span =>
    obtain ⟨j, hj, hsome⟩ := exists_of_map_eq_ok h
    cases hsome
    obtain ⟨message, rfl⟩ := exists_failInstruction hj
    rfl
  | loop => cases h
  | other => cases h

/-- A statement without a body has no loop. -/
theorem HaveLoops.cons_of_not_loop {scope : List String} {s : Stmt} (hs : s.isLoop = false)
    {i : Option Instruction} {ws : List Warning} (h : (compileStmt handle scope s).run [] = (.ok i, ws))
    {ss : List Stmt} {p : List Instruction} {later : List (Span × ℕ)} (hlater : HaveLoops ss p later) :
    HaveLoops (s :: ss) (i.toList ++ p) later ∧ ws = [] := by
  rw [run_compileStmt_of_not_loop _ _ _ hs] at h
  obtain ⟨hi, rfl⟩ := Prod.mk.inj h
  cases i with
  | none => exact ⟨.silent hs hlater, rfl⟩
  | some i => exact ⟨.single hs (loopTimes_of_instruction hi) hlater, rfl⟩

mutual

/-- A statement that compiles has warned about its loops that do not go round. -/
theorem exists_loops_of_compileStmt (scope : List String) :
    ∀ (s : Stmt) {ss : List Stmt} {p : List Instruction} {later : List (Span × ℕ)} {i : Option Instruction}
      {ws : List Warning}, (compileStmt handle scope s).run [] = (.ok i, ws) → HaveLoops ss p later →
      ∃ loops, HaveLoops (s :: ss) (i.toList ++ p) (loops ++ later) ∧ ws = emptyAmong loops
  | .loop target range body otherwise span, ss, p, later, i, ws, h, hlater => by
    obtain ⟨id, times, inside, vs, -, hbody, rfl, rfl⟩ := exists_of_compileStmt_loop_ok h
    obtain ⟨loops, hloops, rfl⟩ := exists_loops_of_compileStmts (id :: scope) body hbody
    refine ⟨loops ++ [(span, times)], .loop hloops hlater, ?_⟩
    rw [emptyAmong_append, emptyAmong_singleton]
  | .pass _, _, _, _, _, _, h, hlater | .expr _ _, _, _, _, _, _, h, hlater
  | .raise _ _ _, _, _, _, _, _, h, hlater | .other _ _, _, _, _, _, _, h, hlater =>
    ⟨[], hlater.cons_of_not_loop rfl h⟩

/-- Statements that compile have warned about their loops that do not go round. -/
theorem exists_loops_of_compileStmts (scope : List String) :
    ∀ (ss : List Stmt) {p : List Instruction} {ws : List Warning},
      (compileStmts handle scope ss).run [] = (.ok p, ws) →
      ∃ loops, HaveLoops ss p loops ∧ ws = emptyAmong loops
  | [], p, ws, h => by
    rw [run_compileStmts_nil] at h
    cases h
    exact ⟨[], .nil, rfl⟩
  | s :: rest, p, ws, h => by
    obtain ⟨i, vs, q, us, hs, hrest, rfl, rfl⟩ := exists_of_compileStmts_cons_ok h
    obtain ⟨later, hlater, rfl⟩ := exists_loops_of_compileStmts scope rest hrest
    obtain ⟨loops, hloops, rfl⟩ := exists_loops_of_compileStmt scope s hs hlater
    exact ⟨loops ++ later, hloops, (emptyAmong_append loops later).symm⟩

end

/-! ## Scripts that fail -/

/-- A statement fails by itself: it has no body, or it is a loop whose head fails. -/
def Script.Stmt.FailsWith (handle : String) (scope : List String) (e : CompileError) : Stmt → Prop
  | .loop target range _ otherwise span => compileHead scope target range otherwise span = .error e
  | s => s.instruction handle scope = .error e

/-- **Where statements fail**: all those before one of them compile, and that one fails by itself, or it is a
    loop in whose body one fails.  The list has the loops that are complete by then, each with the number of
    its rounds. -/
inductive FailsAt (handle : String) : List String → List Stmt → CompileError → List (Span × ℕ) → Prop where
  | statement {scope before s after p e loops}
    (hbefore : ((compileStmts handle scope before).run []).1 = .ok p) (hloops : HaveLoops before p loops)
    (hs : s.FailsWith handle scope e) : FailsAt handle scope (before ++ s :: after) e loops
  | inside {scope before target range body otherwise span after p e loops id times later}
    (hbefore : ((compileStmts handle scope before).run []).1 = .ok p) (hloops : HaveLoops before p loops)
    (hhead : compileHead scope target range otherwise span = .ok (id, times))
    (hbody : FailsAt handle (id :: scope) body e later) :
    FailsAt handle scope (before ++ .loop target range body otherwise span :: after) e (loops ++ later)

section

variable {scope : List String} {s : Stmt} {ss : List Stmt} {e : CompileError} {loops : List (Span × ℕ)}
  {ws : List Warning}

/-- A statement that fails by itself has warned of nothing. -/
theorem run_compileStmt_of_failsWith (h : s.FailsWith handle scope e) :
    (compileStmt handle scope s).run [] = (.error e, []) := by
  cases s with
  | loop target range body otherwise span =>
    have hhead : compileHead scope target range otherwise span = .error e := h
    rw [run_compileStmt_loop, hhead]
  | _ => exact (run_compileStmt_of_not_loop _ _ _ rfl).trans (congrArg (·, []) h)

/-- Statements that compile have the loops that they have warned about. -/
theorem snd_run_compileStmts {p : List Instruction} (h : ((compileStmts handle scope ss).run []).1 = .ok p)
    (hloops : HaveLoops ss p loops) : (compileStmts handle scope ss).run [] = (.ok p, emptyAmong loops) := by
  rcases hrun : (compileStmts handle scope ss).run [] with ⟨result, ws⟩
  rw [hrun] at h
  obtain rfl : result = .ok p := h
  obtain ⟨others, hothers, rfl⟩ := exists_loops_of_compileStmts scope ss hrun
  rw [hloops.unique hothers]

/-- Statements before a first failure have warned about their loops. -/
theorem FailsAt.run_compileStmts (h : FailsAt handle scope ss e loops) :
    (compileStmts handle scope ss).run [] = (.error e, emptyAmong loops) := by
  induction h with
  | statement hbefore hloops hs =>
    rw [run_compileStmts_append, snd_run_compileStmts hbefore hloops]
    dsimp only
    rw [SpriteStage.run_compileStmts, run_compileStmts_cons, run_compileStmt_of_failsWith hs]
    exact congrArg _ (List.append_nil _)
  | inside hbefore hloops hhead hbody ih =>
    rw [run_compileStmts_append, snd_run_compileStmts hbefore hloops]
    dsimp only
    rw [SpriteStage.run_compileStmts, run_compileStmts_cons, run_compileStmt_loop, hhead]
    dsimp only
    rw [ih, emptyAmong_append]

/-- A first statement may fail by itself. -/
theorem FailsAt.first (hs : s.FailsWith handle scope e) (after : List Stmt) :
    FailsAt handle scope (s :: after) e [] := by
  rw [← List.nil_append (s :: after)]
  exact .statement (congrArg Prod.fst (run_compileStmts_nil handle scope [])) .nil hs

/-- A first loop may fail in its body. -/
theorem FailsAt.firstInside {target range : Expr} {body otherwise : List Stmt} {span : Span} {id : String}
    {times : ℕ} (hhead : compileHead scope target range otherwise span = .ok (id, times))
    (hbody : FailsAt handle (id :: scope) body e loops) (after : List Stmt) :
    FailsAt handle scope (.loop target range body otherwise span :: after) e loops := by
  rw [← List.nil_append (_ :: after)]
  exact .inside (congrArg Prod.fst (run_compileStmts_nil handle scope [])) .nil hhead hbody

/-- A statement that compiles goes before where the others fail. -/
theorem FailsAt.cons {i : Option Instruction} (hs : (compileStmt handle scope s).run [] = (.ok i, ws))
    (h : FailsAt handle scope ss e loops) : ∃ more, FailsAt handle scope (s :: ss) e more := by
  have hcons {before : List Stmt} {p : List Instruction}
      (hbefore : ((compileStmts handle scope before).run []).1 = .ok p) :
      ((compileStmts handle scope (s :: before)).run []).1 = .ok (i.toList ++ p) := by
    rw [run_compileStmts_cons, hs]
    dsimp only
    rw [SpriteStage.run_compileStmts, hbefore]
  cases h with
  | statement hbefore hloops hfails =>
    obtain ⟨more, hmore, -⟩ := exists_loops_of_compileStmt scope s hs hloops
    exact ⟨_, .statement (hcons hbefore) hmore hfails⟩
  | inside hbefore hloops hhead hbody =>
    obtain ⟨more, hmore, -⟩ := exists_loops_of_compileStmt scope s hs hloops
    exact ⟨_, .inside (hcons hbefore) hmore hhead hbody⟩

mutual

/-- A statement that fails does so by itself, or in its body. -/
theorem exists_failsAt_of_compileStmt (scope : List String) (ss : List Stmt) : ∀ (s : Stmt) {ws : List Warning},
    (compileStmt handle scope s).run [] = (.error e, ws) → ∃ loops, FailsAt handle scope (s :: ss) e loops
  | .loop target range body otherwise span, ws, h => by
    rcases cases_of_compileStmt_loop_error h with ⟨hhead, -⟩ | ⟨id, times, hhead, hbody⟩
    · refine ⟨[], .first ?_ ss⟩
      exact hhead
    · obtain ⟨loops, hloops⟩ := exists_failsAt_of_compileStmts (id :: scope) body hbody
      exact ⟨loops, hloops.firstInside hhead ss⟩
  | .pass span, ws, h | .expr value span, ws, h | .raise exception cause span, ws, h
  | .other form span, ws, h => by
    rw [run_compileStmt_of_not_loop _ _ _ rfl] at h
    refine ⟨[], .first ?_ ss⟩
    exact (Prod.mk.inj h).1

/-- Statements that fail have a first failure. -/
theorem exists_failsAt_of_compileStmts (scope : List String) : ∀ (ss : List Stmt) {ws : List Warning},
    (compileStmts handle scope ss).run [] = (.error e, ws) → ∃ loops, FailsAt handle scope ss e loops
  | [], ws, h => by
    rw [run_compileStmts_nil] at h
    cases h
  | s :: rest, ws, h => by
    rcases cases_of_compileStmts_cons_error h with hs | ⟨i, vs, us, hs, hrest, -⟩
    · exact exists_failsAt_of_compileStmt scope rest s hs
    · obtain ⟨loops, hloops⟩ := exists_failsAt_of_compileStmts scope rest hrest
      exact hloops.cons hs

end

end

/-- The compiler has some warnings about a text and no others, and nothing else is told of it but the remarks of
    the reader, which come before.  These are known of a text without expressions in its quoted texts. -/
def TellsOnly (handle text : String) (warnings : List Warning) : Prop :=
  (compile handle text).2 = warnings ∧ (Script.hasTemplate text.toList = false →
    notices handle text = (Script.remarks text.toList).map .remark ++ warnings.map .warning)

theorem tellsOnly_of_warnings {text : String} {warnings : List Warning}
    (h : (compile handle text).2 = warnings) : TellsOnly handle text warnings :=
  ⟨h, fun _ => by rw [notices, h]⟩

/-- The warnings of a text are about its empty loops, or about those before it fails. -/
theorem warnings_eq_emptyAmong (handle text : String) :
    (∀ p, (compile handle text).1 = .ok p →
      ∃ script loops, Script.read text.toList = .ok script ∧ HaveLoops script p loops ∧
        (compile handle text).2 = emptyAmong loops ++ if p.isEmpty then [.noOperation] else []) ∧
    ∀ e, (compile handle text).1 = .error e →
      (('\x00' ∈ text.toList ∨ ∃ fault, Script.read text.toList = .error fault) ∧
        (compile handle text).2 = []) ∨
      ∃ script, Script.read text.toList = .ok script ∧
        (∃ loops, FailsAt handle [] script e loops) ∧
        ∀ loops, FailsAt handle [] script e loops → (compile handle text).2 = emptyAmong loops := by
  rw [compile_eq]
  by_cases hnull : text.toList.contains '\x00' = true
  · rw [if_pos hnull]
    exact ⟨nofun, fun e _ => .inl ⟨.inl (List.contains_iff_mem.1 hnull), rfl⟩⟩
  rw [if_neg hnull]
  rcases hread : Script.read text.toList with fault | script
  · exact ⟨nofun, fun e _ => .inl ⟨.inr ⟨fault, rfl⟩, rfl⟩⟩
  dsimp only
  rw [run_compileScript]
  rcases hrun : (compileStmts handle [] script).run [] with ⟨e | p, ws⟩
  · refine ⟨nofun, ?_⟩
    rintro _ ⟨⟩
    refine .inr ⟨script, rfl, exists_failsAt_of_compileStmts [] script hrun, fun loops hloops => ?_⟩
    rw [hloops.run_compileStmts] at hrun
    exact (congrArg Prod.snd hrun).symm
  · refine ⟨?_, nofun⟩
    rintro _ ⟨⟩
    obtain ⟨loops, hloops, rfl⟩ := exists_loops_of_compileStmts [] script hrun
    exact ⟨script, loops, rfl, hloops, rfl⟩

end SpriteStage
