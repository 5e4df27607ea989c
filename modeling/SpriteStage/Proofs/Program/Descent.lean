import SpriteStage.Proofs.Failure
import SpriteStage.Program.Compilation
import Mathlib.Data.Nat.Notation

/-!
# The compilation statement by statement

Statements are compiled one after the other, and the body of a loop between the count of its rounds and the
warning about them.  These equations say what each kind of statement gives and warns of, so that nobody
else has to take a compilation apart.

## Main results

* `run_compileStmt_loop` and `run_compileStmts_cons` take loops and lists of statements apart
-/

namespace SpriteStage

open Script (Expr Stmt Span)

variable (handle : String) (scope : List String) (ws : List Warning)

theorem run_liftExcept {α : Type} (x : Refusable α) (ws : List Warning) :
    (liftExcept x : Compiling α).run ws = (x, ws) := by
  cases x <;> rfl

/-- Whether a statement is a loop, which has a body. -/
def Script.Stmt.isLoop : Stmt → Bool
  | .loop .. => true
  | .pass _ | .expr .. | .raise .. | .other .. => false

/-- The instruction of a statement without a body. -/
def Script.Stmt.instruction : Stmt → Refusable (Option Instruction)
  | .pass _ => .ok none
  | .expr value span => expressionInstruction handle scope span value
  | .raise exception _ span => some <$> failInstruction scope span exception
  | .other form span => .error (.refused (.statement form.name) span)
  | .loop _ _ _ _ span => .error (.refused .loopTarget span)

/-- A statement without a body compiles to its instruction, without a warning. -/
theorem run_compileStmt_of_not_loop {s : Stmt} (h : s.isLoop = false) :
    (compileStmt handle scope s).run ws = (s.instruction handle scope, ws) := by
  cases s with
  | pass span =>
    rw [compileStmt]
    rfl
  | expr value span =>
    rw [compileStmt]
    exact run_liftExcept _ ws
  | raise exception cause span =>
    rw [compileStmt]
    exact run_liftExcept _ ws
  | other form span =>
    rw [compileStmt]
    rfl
  | loop target range body otherwise span => cases h

/-- What comes of the head of a loop: its variable and its number of rounds. -/
def compileHead (target range : Expr) (otherwise : List Stmt) (span : Span) : Refusable (String × ℕ) :=
  if otherwise.isEmpty then
    match target with
    | .name id _ => (rounds scope range).map (id, ·)
    | _ => .error (.refused .loopTarget span)
  else .error (.refused .loopElse span)

/-- The warning about a loop with a number of rounds. -/
def warningsOf (times : ℕ) (span : Span) : List Warning :=
  if times = 0 then [.emptyLoop span] else []

/-- **A loop** is compiled after its head, and it warns of no rounds after its body has warned. -/
theorem run_compileStmt_loop (target range : Expr) (body otherwise : List Stmt) (span : Span) :
    (compileStmt handle scope (.loop target range body otherwise span)).run ws =
      match compileHead scope target range otherwise span with
      | .error e => (.error e, ws)
      | .ok (id, times) =>
        match (compileStmts handle (id :: scope) body).run ws with
        | (.error e, ws) => (.error e, ws)
        | (.ok inside, ws) => (.ok (some (.loop (.int times) inside)), ws ++ warningsOf times span) := by
  unfold compileStmt
  extract_lets rest
  -- A loop without another branch is what its target and its range make of it.
  have hrest : (rest ()).run ws =
      match (match target with
        | .name id _ => (rounds scope range).map (id, ·)
        | _ => .error (.refused .loopTarget span) : Refusable (String × ℕ)) with
      | .error e => (.error e, ws)
      | .ok (id, times) =>
        match (compileStmts handle (id :: scope) body).run ws with
        | (.error e, ws) => (.error e, ws)
        | (.ok inside, ws) => (.ok (some (.loop (.int times) inside)), ws ++ warningsOf times span) := by
    simp only [rest]
    cases target with
    | name id τ =>
      rw [run_bind_apply, run_liftExcept]
      cases rounds scope range with
      | error e => rfl
      | ok times =>
        dsimp only [Except.map]
        rw [run_bind_apply]
        rcases (compileStmts handle (id :: scope) body).run ws with ⟨e | inside, vs⟩
        · rfl
        · dsimp only
          -- The warning is the last thing that happens.
          rw [warningsOf]
          split
          · rfl
          · rw [List.append_nil]
            rfl
    | _ => rfl
  cases otherwise with
  | nil => exact hrest
  | cons s ss => rfl

theorem run_compileStmts_nil : (compileStmts handle scope []).run ws = (.ok [], ws) := by
  rw [compileStmts]
  rfl

/-- **Statements** are compiled one after the other, up to the first one that fails. -/
theorem run_compileStmts_cons (s : Stmt) (rest : List Stmt) :
    (compileStmts handle scope (s :: rest)).run ws =
      match (compileStmt handle scope s).run ws with
      | (.error e, ws) => (.error e, ws)
      | (.ok i, ws) =>
        match (compileStmts handle scope rest).run ws with
        | (.error e, ws) => (.error e, ws)
        | (.ok p, ws) => (.ok (i.toList ++ p), ws) := by
  rw [compileStmts, run_bind_apply]
  rcases (compileStmt handle scope s).run ws with ⟨e | i, vs⟩
  · rfl
  · dsimp only
    rw [run_bind_apply]
    rcases (compileStmts handle scope rest).run vs with ⟨e | p, us⟩ <;> rfl

mutual

/-- What a statement compiles to and warns of does not depend on the warnings before. -/
theorem run_compileStmt (ws : List Warning) : ∀ (scope : List String) (s : Stmt),
    (compileStmt handle scope s).run ws =
      (((compileStmt handle scope s).run []).1, ws ++ ((compileStmt handle scope s).run []).2)
  | scope, .loop target range body otherwise span => by
    rw [run_compileStmt_loop, run_compileStmt_loop]
    rcases compileHead scope target range otherwise span with e | ⟨id, times⟩
    · simp only [List.append_nil]
    · dsimp only
      rw [run_compileStmts ws]
      rcases (compileStmts handle (id :: scope) body).run [] with ⟨e | inside, vs⟩
      · rfl
      · simp only [List.append_assoc]
  | scope, .pass span | scope, .expr _ span | scope, .raise _ _ span | scope, .other _ span => by
    rw [run_compileStmt_of_not_loop _ _ _ rfl, run_compileStmt_of_not_loop _ _ _ rfl, List.append_nil]

/-- What statements compile to and warn of does not depend on the warnings before. -/
theorem run_compileStmts (ws : List Warning) : ∀ (scope : List String) (ss : List Stmt),
    (compileStmts handle scope ss).run ws =
      (((compileStmts handle scope ss).run []).1, ws ++ ((compileStmts handle scope ss).run []).2)
  | scope, [] => by
    rw [run_compileStmts_nil, run_compileStmts_nil, List.append_nil]
  | scope, s :: rest => by
    rw [run_compileStmts_cons, run_compileStmts_cons, run_compileStmt ws]
    rcases (compileStmt handle scope s).run [] with ⟨e | i, vs⟩
    · rfl
    · dsimp only
      rw [run_compileStmts (ws ++ vs), run_compileStmts vs]
      rcases (compileStmts handle scope rest).run [] with ⟨e | p, us⟩ <;>
        simp only [List.append_assoc]

end

/-! ## What a result tells of the parts -/

section

variable {handle scope ws} {ws' : List Warning} {e : CompileError}

/-- A loop that compiles has a head and a body that do. -/
theorem exists_of_compileStmt_loop_ok {target range : Expr} {body otherwise : List Stmt} {span : Span}
    {i : Option Instruction}
    (h : (compileStmt handle scope (.loop target range body otherwise span)).run ws = (.ok i, ws')) :
    ∃ id times inside vs, compileHead scope target range otherwise span = .ok (id, times) ∧
      (compileStmts handle (id :: scope) body).run ws = (.ok inside, vs) ∧
      i = some (.loop (.int times) inside) ∧ ws' = vs ++ warningsOf times span := by
  rw [run_compileStmt_loop] at h
  rcases hhead : compileHead scope target range otherwise span with e | ⟨id, times⟩
  · rw [hhead] at h
    cases h
  rw [hhead] at h
  dsimp only at h
  rcases hbody : (compileStmts handle (id :: scope) body).run ws with ⟨e | inside, vs⟩
  · rw [hbody] at h
    cases h
  rw [hbody] at h
  cases h
  exact ⟨id, times, inside, vs, rfl, hbody, rfl, rfl⟩

/-- A loop that fails has a head that does, or else a body. -/
theorem cases_of_compileStmt_loop_error {target range : Expr} {body otherwise : List Stmt} {span : Span}
    (h : (compileStmt handle scope (.loop target range body otherwise span)).run ws = (.error e, ws')) :
    (compileHead scope target range otherwise span = .error e ∧ ws' = ws) ∨
      ∃ id times, compileHead scope target range otherwise span = .ok (id, times) ∧
        (compileStmts handle (id :: scope) body).run ws = (.error e, ws') := by
  rw [run_compileStmt_loop] at h
  rcases hhead : compileHead scope target range otherwise span with e' | ⟨id, times⟩
  · rw [hhead] at h
    cases h
    exact .inl ⟨rfl, rfl⟩
  rw [hhead] at h
  dsimp only at h
  rcases hbody : (compileStmts handle (id :: scope) body).run ws with ⟨e' | inside, vs⟩
  · rw [hbody] at h
    cases h
    exact .inr ⟨id, times, rfl, hbody⟩
  · rw [hbody] at h
    cases h

/-- Statements that compile are a first one and others that do. -/
theorem exists_of_compileStmts_cons_ok {s : Stmt} {rest : List Stmt} {p : List Instruction}
    (h : (compileStmts handle scope (s :: rest)).run [] = (.ok p, ws')) :
    ∃ i vs q us, (compileStmt handle scope s).run [] = (.ok i, vs) ∧
      (compileStmts handle scope rest).run [] = (.ok q, us) ∧ p = i.toList ++ q ∧ ws' = vs ++ us := by
  rw [run_compileStmts_cons] at h
  rcases hs : (compileStmt handle scope s).run [] with ⟨e | i, vs⟩
  · rw [hs] at h
    cases h
  rw [hs] at h
  dsimp only at h
  rw [run_compileStmts] at h
  rcases hrest : (compileStmts handle scope rest).run [] with ⟨e | q, us⟩
  · rw [hrest] at h
    cases h
  rw [hrest] at h
  cases h
  exact ⟨i, vs, q, us, rfl, rfl, rfl, rfl⟩

/-- Statements that fail are a first one that does, or else others after it. -/
theorem cases_of_compileStmts_cons_error {s : Stmt} {rest : List Stmt}
    (h : (compileStmts handle scope (s :: rest)).run [] = (.error e, ws')) :
    (compileStmt handle scope s).run [] = (.error e, ws') ∨
      ∃ i vs us, (compileStmt handle scope s).run [] = (.ok i, vs) ∧
        (compileStmts handle scope rest).run [] = (.error e, us) ∧ ws' = vs ++ us := by
  rw [run_compileStmts_cons] at h
  rcases hs : (compileStmt handle scope s).run [] with ⟨e' | i, vs⟩
  · rw [hs] at h
    cases h
    exact .inl rfl
  rw [hs] at h
  dsimp only at h
  rw [run_compileStmts] at h
  rcases hrest : (compileStmts handle scope rest).run [] with ⟨e' | q, us⟩
  · rw [hrest] at h
    cases h
    exact .inr ⟨i, vs, us, rfl, rfl, rfl⟩
  · rw [hrest] at h
    cases h

end

/-- **Two lists of statements** in a row are compiled one after the other. -/
theorem run_compileStmts_append (ss ts : List Stmt) :
    (compileStmts handle scope (ss ++ ts)).run ws =
      match (compileStmts handle scope ss).run ws with
      | (.error e, ws) => (.error e, ws)
      | (.ok p, ws) =>
        match (compileStmts handle scope ts).run ws with
        | (.error e, ws) => (.error e, ws)
        | (.ok q, ws) => (.ok (p ++ q), ws) := by
  induction ss generalizing ws with
  | nil =>
    rw [List.nil_append, run_compileStmts_nil]
    dsimp only
    rcases (compileStmts handle scope ts).run ws with ⟨e | q, vs⟩ <;> rfl
  | cons s ss ih =>
    rw [List.cons_append, run_compileStmts_cons, run_compileStmts_cons]
    rcases (compileStmt handle scope s).run ws with ⟨e | i, vs⟩
    · rfl
    dsimp only
    rw [ih]
    rcases (compileStmts handle scope ss).run vs with ⟨e | p, us⟩
    · rfl
    dsimp only
    rcases (compileStmts handle scope ts).run us with ⟨e | q, xs⟩
    · rfl
    · simp only [List.append_assoc]

/-- A script is its statements, with a warning if none of them has an instruction. -/
theorem run_compileScript (script : List Stmt) :
    (compileScript handle script).run ws =
      match (compileStmts handle [] script).run ws with
      | (.error e, ws) => (.error e, ws)
      | (.ok p, ws) => (.ok p, ws ++ if p.isEmpty then [.noOperation] else []) := by
  rw [compileScript, run_bind_apply]
  rcases (compileStmts handle [] script).run ws with ⟨e | p, vs⟩
  · rfl
  · dsimp only
    split
    · rfl
    · rw [List.append_nil]
      rfl

/-- A text is compiled if it has no null character and writes a script. -/
theorem compile_eq (text : String) :
    compile handle text =
      if text.toList.contains '\x00' then (.error .nullCharacter, [])
      else match Script.read text.toList with
        | .error fault => (.error (.script fault), [])
        | .ok script => (compileScript handle script).run [] := by
  unfold compile
  rfl

end SpriteStage
