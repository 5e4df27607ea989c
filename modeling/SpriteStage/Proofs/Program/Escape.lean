import SpriteStage.Proofs.Program.Vocabulary
import SpriteStage.Proofs.Text.FloatWord

/-!
# What compiling fails with

A text that is no program is refused, with a message that tells where.  A few texts are not: the
compiler takes their parts for parts of a program and needs something of them that cannot be found.
`compile_refuses_or_escapes` lists them: a text with a null character; a loop over a range that is
longer than lengths may be; a `raise` whose message is an integer too long to be written; and a word
that `float` takes but for a separator beside it, which is a blank to the compiler and not to `float`.

## Main definitions

* `CompileError.isRefusal` tells refusals from the other errors
* `Script.Expr.Misreads` holds of an expression that calls `float` on such a word
* `Script.Stmt.Escapes` lists the statements of which something cannot be found
* `Compiling.FailsWith` says that the errors of a part of a script have a property

## Main results

* `compile_refuses_or_escapes`
-/

namespace SpriteStage

open Script (Expr Stmt)

namespace CompileError

/-- Whether an error is the refusal of a text that is no program. -/
def isRefusal : CompileError → Bool
  | .script _ | .refused .. => true
  | .operation _ | .nullCharacter => false

/-- An error is a refusal, or else one of the operations with a property. -/
def RefusesOr (P : OperationError → Prop) (e : CompileError) : Prop :=
  e.isRefusal = true ∨ ∃ error, e = .operation error ∧ P error

theorem RefusesOr.mono {P P' : OperationError → Prop} {e : CompileError} (h : e.RefusesOr P)
    (hP : ∀ error, P error → P' error) : e.RefusesOr P' := by
  rcases h with hrefusal | ⟨error, rfl, herror⟩
  · exact .inl hrefusal
  · exact .inr ⟨error, rfl, hP error herror⟩

theorem refusesOr_refused {P : OperationError → Prop} (cause : RefusalCause) (span : Script.Span) :
    RefusesOr P (.refused cause span) := .inl rfl

theorem refusesOr_of_refused {α : Type} {P : OperationError → Prop} {cause : RefusalCause}
    {span : Script.Span} {e : CompileError}
    (h : (.error (.refused cause span) : Refusable α) = .error e) : e.RefusesOr P := by
  cases h
  exact refusesOr_refused cause span

theorem refusesOr_blame {α : Type} {P : OperationError → Prop} {span : Script.Span}
    {x : Except RefusalCause α} {e : CompileError} (h : blame span x = .error e) :
    e.RefusesOr P := by
  cases x with
  | error cause =>
    cases h
    exact refusesOr_refused cause span
  | ok a => cases h

end CompileError

open CompileError (RefusesOr refusesOr_refused refusesOr_of_refused refusesOr_blame)

/-! ## Constants -/

namespace Script

/-- An expression calls `float` on a word that has a separator beside it. -/
inductive Expr.Misreads (s : String) : Expr → Prop where
  | float (hword : IsFloatWord s) (hseparator : ∃ c ∈ s.toList, Text.isSeparator c = true)
      (span₁ span₂ span₃ : Span) :
      Misreads s (.call (.name "float" span₁) [.literal (.value (.text s)) span₂] [] span₃)
  | sign (op : UnaryOp) {operand : Expr} (hoperand : Misreads s operand) (span : Span) :
      Misreads s (.sign (.arithmetic op) operand span)
  | left (op : BinaryOp) {left : Expr} (hleft : Misreads s left) (right : Expr) (span : Span) :
      Misreads s (.binary (.arithmetic op) left right span)
  | right (op : BinaryOp) (left : Expr) {right : Expr} (hright : Misreads s right) (span : Span) :
      Misreads s (.binary (.arithmetic op) left right span)

/-- An error is about a word that one of some expressions calls `float` on. -/
def Expr.MisreadsAmong (es : List Expr) (error : OperationError) : Prop :=
  ∃ e ∈ es, ∃ s, error = .floatText s ∧ e.Misreads s

end Script

section

variable {scope : List String} {err : CompileError}

theorem misreads_of_floatLiteral {function : Expr} {arguments : List Expr}
    {keywords : List Script.Keyword} {span : Script.Span}
    (h : floatLiteral function arguments keywords span = .error err) :
    err.RefusesOr fun error => ∃ s, error = .floatText s ∧
      (Expr.call function arguments keywords span).Misreads s := by
  unfold floatLiteral at h
  split at h
  · rename_i span₁ s span₂
    split at h
    · rename_i hword
      split at h
      · cases h
      · rename_i hdouble
        cases h
        have hword : IsFloatWord s := List.contains_iff_mem.1 hword
        -- Without a separator the word would be a double.
        have hseparator : ∃ c ∈ s.toList, Text.isSeparator c = true := by
          by_contra hnone
          push Not at hnone
          obtain ⟨x, hx⟩ := Text.exists_double?_of_mem_floatWords hword fun c hc =>
            Bool.eq_false_iff.2 (hnone c hc)
          rw [hdouble] at hx
          cases hx
        exact .inr ⟨_, rfl, s, rfl, .float hword hseparator span₁ span₂ span⟩
    · exact refusesOr_of_refused h
  · exact refusesOr_of_refused h

/-- A constant that has no value is refused, or calls `float` on a word beside a separator. -/
theorem misreads_of_constant {e : Expr} (h : constant scope e = .error err) :
    err.RefusesOr fun error => ∃ s, error = .floatText s ∧ e.Misreads s := by
  fun_induction constant scope e generalizing err with
  | case2 => cases h
  | case4 op operand span ih =>
    rcases error_cases_of_bind h with h | ⟨v, -, h⟩
    · refine (ih h).mono ?_
      rintro error ⟨s, rfl, hmisreads⟩
      exact ⟨s, rfl, .sign op hmisreads span⟩
    · exact refusesOr_blame h
  | case6 op left right span ihl ihr =>
    rcases error_cases_of_bind h with h | ⟨l, -, h⟩
    · refine (ihl h).mono ?_
      rintro error ⟨s, rfl, hmisreads⟩
      exact ⟨s, rfl, .left op hmisreads right span⟩
    rcases error_cases_of_bind h with h | ⟨r, -, h⟩
    · refine (ihr h).mono ?_
      rintro error ⟨s, rfl, hmisreads⟩
      exact ⟨s, rfl, .right op left hmisreads span⟩
    · exact refusesOr_blame h
  | case8 function arguments keywords span => exact misreads_of_floatLiteral h
  | _ => exact refusesOr_of_refused h

theorem misreads_of_mapM_constant {es : List Expr} (h : es.mapM (constant scope) = .error err) :
    err.RefusesOr (Expr.MisreadsAmong es) := by
  induction es generalizing err with
  | nil => cases h
  | cons e rest ih =>
    rw [List.mapM_cons] at h
    rcases error_cases_of_bind h with h | ⟨v, -, h⟩
    · refine (misreads_of_constant h).mono fun error hmisreads => ?_
      exact ⟨e, List.mem_cons_self, hmisreads⟩
    rcases error_cases_of_bind h with h | ⟨vs, -, h⟩
    · refine (ih h).mono ?_
      rintro error ⟨e', he', hmisreads⟩
      exact ⟨e', List.mem_cons_of_mem _ he', hmisreads⟩
    · cases h

theorem mapM_constant_of_scope {es : List Expr} {vs : List Value}
    (h : es.mapM (constant scope) = .ok vs) (scope' : List String) :
    es.mapM (constant scope') = .ok vs := by
  induction es generalizing vs with
  | nil => exact h
  | cons e rest ih =>
    rw [List.mapM_cons] at h ⊢
    obtain ⟨v, hv, h⟩ := exists_of_bind_eq_ok h
    obtain ⟨ws, hws, h⟩ := exists_of_bind_eq_ok h
    rw [constant_of_scope hv scope', ih hws]
    exact h

end

/-- A scalar without a text is an integer with too many digits. -/
theorem Value.exists_int_of_plain {v : Value} (hv : v.isScalar = true) {error : OperationError}
    (h : v.plain = .error error) :
    error = .digitLimit ∧ ∃ n : Int, v = .int n ∧
      digitLimit < (Decimal.digitsOf n.natAbs).length := by
  cases v with
  | null | list | object => cases hv
  | bool | float | text => cases h
  | int n =>
    simp only [plain, quoted, integerText] at h
    split at h
    · rename_i hlong
      cases h
      exact ⟨rfl, n, rfl, hlong⟩
    · cases h

/-! ## Statements -/

namespace Script

/-- The arguments of a call, which may be awaited. -/
def Expr.arguments : Expr → List Expr
  | .call _ arguments _ _ | .await (.call _ arguments _ _) _ => arguments
  | _ => []

/-- The start, the stop and the step of the range with some bounds. -/
def rangeBounds? : List Int → Option (Int × Int × Int)
  | [stop] => some (0, stop, 1)
  | [start, stop] => some (start, stop, 1)
  | [start, stop, step] => some (start, stop, step)
  | _ => none

/-- A statement has a part of which something cannot be found, and the error tells what. -/
inductive Stmt.Escapes (error : OperationError) : Stmt → Prop where
  | argument {call : Expr} (hmisreads : Expr.MisreadsAmong call.arguments error) (span : Span) :
      Escapes error (.expr call span)
  | message {exception : Expr} (hmisreads : Expr.MisreadsAmong exception.arguments error)
      (cause : Option Expr) (span : Span) : Escapes error (.raise (some exception) cause span)
  /-- The message is an integer that has too many digits to be written. -/
  | digits {exception e : Expr} {n : Int} (hmem : e ∈ exception.arguments)
      (hvalue : constant [] e = .ok (.int n))
      (hlong : digitLimit < (Decimal.digitsOf n.natAbs).length) (herror : error = .digitLimit)
      (cause : Option Expr) (span : Span) : Escapes error (.raise (some exception) cause span)
  | bound {range : Expr} (hmisreads : Expr.MisreadsAmong range.arguments error) (target : Expr)
      (body otherwise : List Stmt) (span : Span) :
      Escapes error (.loop target range body otherwise span)
  /-- The range has more integers than a length may tell. -/
  | length {range : Expr} {vs : List Value} {ns : List Int} {start stop step : Int}
      (hvalues : range.arguments.mapM (constant []) = .ok vs) (hints : integers? vs = some ns)
      (hbounds : rangeBounds? ns = some (start, stop, step))
      (hlong : 2 ^ 63 ≤ rangeLength start stop step) (herror : error = .lengthRange)
      (target : Expr) (body otherwise : List Stmt) (span : Span) :
      Escapes error (.loop target range body otherwise span)
  | body {body : List Stmt} {s : Stmt} (hmem : s ∈ body) (hs : Escapes error s)
      (target range : Expr) (otherwise : List Stmt) (span : Span) :
      Escapes error (.loop target range body otherwise span)

end Script

section

variable {handle : String} {scope : List String} {err : CompileError}

theorem escapes_of_callInstruction {span : Script.Span} {function : Expr} {arguments : List Expr}
    {keywords : List Script.Keyword}
    (h : callInstruction handle scope span function arguments keywords = .error err) :
    err.RefusesOr (Expr.MisreadsAmong arguments) := by
  unfold callInstruction at h
  split at h
  case h_2 => exact refusesOr_of_refused h
  case h_1 =>
    -- Up to the argument all is refused that is not as it should be.
    split at h
    · exact refusesOr_of_refused h
    split at h
    · exact refusesOr_of_refused h
    split at h
    · exact refusesOr_of_refused h
    split at h
    · rename_i argument
      refine (misreads_of_constant (error_of_map h)).mono fun _ hmisreads => ?_
      exact ⟨argument, List.mem_cons_self, hmisreads⟩
    · exact refusesOr_of_refused h

theorem escapes_of_expressionInstruction {e : Expr} {span : Script.Span}
    (h : expressionInstruction handle scope span e = .error err) :
    err.RefusesOr fun error => (Stmt.expr e span).Escapes error := by
  unfold expressionInstruction at h
  split at h
  case h_1 => cases h
  case h_2 | h_3 =>
    refine (escapes_of_callInstruction (error_of_map h)).mono fun _ hmisreads => ?_
    refine .argument ?_ span
    exact hmisreads
  case h_4 => exact refusesOr_of_refused h

theorem escapes_of_failInstruction {exception cause : Option Expr}
    (hplain : exception.all Expr.isPlain = true) {span : Script.Span}
    (h : failInstruction scope span exception = .error err) :
    err.RefusesOr fun error => (Stmt.raise exception cause span).Escapes error := by
  unfold failInstruction at h
  split at h
  case h_1 | h_4 => exact refusesOr_of_refused h
  case h_2 => cases h
  case h_3 id span₁ arguments keywords span₂ =>
    split at h
    · exact refusesOr_of_refused h
    split at h
    · cases h
    rename_i argument rest _
    -- The message has no value, or its value is an integer that is too long for a text.
    rcases error_cases_of_bind h with h | ⟨v, hv, h⟩
    · refine (misreads_of_constant h).mono fun _ hmisreads => ?_
      exact .message ⟨argument, List.mem_cons_self, hmisreads⟩ cause span
    · split at h
      · cases h
      rename_i error herror
      cases h
      rw [Option.all_some, Expr.isPlain, Expr.arePlain, Bool.and_eq_true] at hplain
      obtain ⟨rfl, n, rfl, hlong⟩ :=
        Value.exists_int_of_plain (isScalar_constant hplain.1 hv) herror
      exact .inr ⟨_, rfl, .digits List.mem_cons_self (constant_of_scope hv []) hlong rfl cause span⟩

/-- A range that has no length is refused, or has too many integers. -/
theorem exists_bounds_of_rangeOf {span : Script.Span} {vs : List Value}
    (h : rangeOf span vs = .error err) :
    err.RefusesOr fun error => error = .lengthRange ∧ ∃ ns start stop step,
      integers? vs = some ns ∧ Script.rangeBounds? ns = some (start, stop, step) ∧
        2 ^ 63 ≤ rangeLength start stop step := by
  -- Whatever the bounds are, only the length can go wrong in the end.
  have hlength : ∀ {start stop step : Int},
      (if (rangeLength start stop step : Int) ≤ Int64.maxValue.toInt then
        (.ok (rangeLength start stop step) : Refusable ℕ)
        else .error (.operation .lengthRange)) = .error err →
      err = .operation .lengthRange ∧ 2 ^ 63 ≤ rangeLength start stop step := by
    intro start stop step h
    split at h
    · cases h
    · rename_i hlong
      cases h
      have hmax : Int64.maxValue.toInt = 2 ^ 63 - 1 := by decide
      rw [hmax] at hlong
      exact ⟨rfl, by omega⟩
  unfold rangeOf at h
  simp only at h
  split at h
  case h_4 => exact refusesOr_of_refused h
  case h_3 start stop step hints =>
    split at h
    · exact refusesOr_of_refused h
    obtain ⟨rfl, hlong⟩ := hlength h
    exact .inr ⟨_, rfl, rfl, _, start, stop, step, hints, rfl, hlong⟩
  case h_1 stop hints =>
    obtain ⟨rfl, hlong⟩ := hlength h
    exact .inr ⟨_, rfl, rfl, _, 0, stop, 1, hints, rfl, hlong⟩
  case h_2 start stop hints =>
    obtain ⟨rfl, hlong⟩ := hlength h
    exact .inr ⟨_, rfl, rfl, _, start, stop, 1, hints, rfl, hlong⟩

theorem escapes_of_rounds {range : Expr} (h : rounds scope range = .error err) (target : Expr)
    (body otherwise : List Stmt) (span : Script.Span) :
    err.RefusesOr fun error => (Stmt.loop target range body otherwise span).Escapes error := by
  unfold rounds at h
  split at h
  case h_2 => exact refusesOr_of_refused h
  case h_1 span₁ bounds keywords span₂ =>
    split at h
    · exact refusesOr_of_refused h
    split at h
    · exact refusesOr_of_refused h
    rcases error_cases_of_bind h with h | ⟨vs, hvs, h⟩
    · refine (misreads_of_mapM_constant h).mono fun _ hmisreads => ?_
      refine .bound ?_ target body otherwise span
      exact hmisreads
    · refine (exists_bounds_of_rangeOf h).mono ?_
      rintro _ ⟨rfl, ns, start, stop, step, hints, hbounds, hlong⟩
      refine .length ?_ hints hbounds hlong rfl target body otherwise span
      exact mapM_constant_of_scope hvs []

end

/-! ## Scripts -/

namespace Compiling

variable {α β : Type} {m : Compiling α} {f : α → Compiling β} {Q : CompileError → Prop}

/-- What compiling fails with, if it fails, has a property. -/
def FailsWith (m : Compiling α) (Q : CompileError → Prop) : Prop :=
  ∀ ws e ws', m.run ws = (.error e, ws') → Q e

theorem FailsWith.imp {P P' : OperationError → Prop} (h : FailsWith m (RefusesOr P))
    (hP : ∀ error, P error → P' error) : FailsWith m (RefusesOr P') :=
  fun ws e ws' heq => (h ws e ws' heq).mono hP

theorem FailsWith.pure {a : α} : FailsWith (Pure.pure a) Q := by
  intro ws e ws' h
  cases h

/-- What goes on fails with what either part fails with. -/
theorem FailsWith.bind (h : FailsWith m Q) (hf : ∀ a, FailsWith (f a) Q) :
    FailsWith (m >>= f) Q := by
  intro ws e ws'' heq
  rw [run_bind_apply] at heq
  split at heq
  · rename_i a ws' ha
    exact hf a ws' e ws'' heq
  · rename_i e' ws' he
    cases heq
    exact h ws e ws'' he

theorem FailsWith.ite {c : Prop} [Decidable c] {m' : Compiling α} (hm : FailsWith m Q)
    (hm' : FailsWith m' Q) : FailsWith (if c then m else m') Q := by
  split
  · exact hm
  · exact hm'

theorem FailsWith.lift {x : Refusable α} (h : ∀ e, x = .error e → Q e) :
    FailsWith (liftExcept x) Q := by
  cases x with
  | error e =>
    intro ws e' ws' heq
    cases heq
    exact h e rfl
  | ok a => exact .pure

theorem FailsWith.warn {w : Warning} : FailsWith (SpriteStage.warn w) Q := by
  intro ws e ws' h
  cases h

theorem FailsWith.refuse {cause : RefusalCause} {span : Script.Span}
    (h : Q (.refused cause span)) : FailsWith (SpriteStage.refuse cause span : Compiling α) Q := by
  intro ws e ws' heq
  cases heq
  exact h

end Compiling

section

variable {handle : String}

mutual

/-- A statement that does not compile is refused, or something of it cannot be found. -/
theorem escapes_of_compileStmt (scope : List String) : ∀ s : Stmt, s.isPlain = true →
    (compileStmt handle scope s).FailsWith (RefusesOr fun error => s.Escapes error)
  | .pass span, _ => by
    rw [compileStmt]
    exact .pure
  | .expr value span, _ => by
    rw [compileStmt]
    exact .lift fun err h => escapes_of_expressionInstruction h
  | .raise exception cause span, h => by
    rw [compileStmt]
    rw [Stmt.isPlain, Bool.and_eq_true] at h
    exact .lift fun err herr => escapes_of_failInstruction h.1 (error_of_map herr)
  | .other form span, _ => by
    rw [compileStmt]
    exact .refuse (refusesOr_refused _ _)
  | .loop target range body otherwise span, h => by
    rw [Stmt.isPlain, Bool.and_eq_true] at h
    have hbody (id : String) : (compileStmts handle (id :: scope) body).FailsWith
        (RefusesOr fun error => (Stmt.loop target range body otherwise span).Escapes error) := by
      refine (escapes_of_compileStmts (id :: scope) body h.2).imp ?_
      rintro error ⟨s, hs, hescapes⟩
      exact .body hs hescapes target range otherwise span
    unfold compileStmt
    extract_lets rest
    have hrest (u : PUnit) : (rest u).FailsWith
        (RefusesOr fun error => (Stmt.loop target range body otherwise span).Escapes error) := by
      simp only [rest]
      split
      · refine .bind (.lift fun err herr => ?_) fun times => .bind (hbody _) fun _ => ?_
        · exact escapes_of_rounds herr _ body otherwise span
        · -- A loop that does not go round only warns.
          exact .ite (Compiling.FailsWith.warn.bind fun _ => .pure) .pure
      · exact .refuse (refusesOr_refused _ _)
    refine .ite ?_ (hrest ())
    exact (Compiling.FailsWith.refuse (refusesOr_refused _ _)).bind hrest

theorem escapes_of_compileStmts (scope : List String) :
    ∀ ss : List Stmt, Stmt.arePlain ss = true →
      (compileStmts handle scope ss).FailsWith (RefusesOr fun error => ∃ s ∈ ss, s.Escapes error)
  | [], _ => by
    rw [compileStmts]
    exact .pure
  | s :: rest, h => by
    rw [compileStmts]
    rw [Stmt.arePlain, Bool.and_eq_true] at h
    refine .bind ?_ fun _ => .bind ?_ fun _ => .pure
    · refine (escapes_of_compileStmt scope s h.1).imp fun error hescapes => ?_
      exact ⟨s, List.mem_cons_self, hescapes⟩
    · refine (escapes_of_compileStmts scope rest h.2).imp ?_
      rintro error ⟨t, ht, hescapes⟩
      exact ⟨t, List.mem_cons_of_mem _ ht, hescapes⟩

end

end

/-- A script yields a program, is refused, or has a statement of which something cannot be found. -/
theorem compileScript_refuses_or_escapes (handle : String) {script : List Stmt}
    (hplain : Stmt.arePlain script = true) :
    match ((compileScript handle script).run []).1 with
    | .ok _ => True
    | .error err => err.RefusesOr fun error => ∃ s ∈ script, s.Escapes error := by
  have hfails : (compileScript handle script).FailsWith
      (RefusesOr fun error => ∃ s ∈ script, s.Escapes error) := by
    refine (escapes_of_compileStmts [] script hplain).bind fun _ => ?_
    exact .ite (Compiling.FailsWith.warn.bind fun _ => .pure) .pure
  rcases hresult : (compileScript handle script).run [] with ⟨err | p, ws⟩
  · exact hfails [] err ws hresult
  · trivial

/-- A text fails because of a null character exactly if it has one. -/
theorem compile_eq_nullCharacter_iff (handle text : String) :
    (compile handle text).1 = .error .nullCharacter ↔ '\x00' ∈ text.toList := by
  unfold compile
  simp only
  split
  · rename_i hnull
    exact iff_of_true rfl (List.contains_iff_mem.1 hnull)
  rename_i hnull
  refine iff_of_false ?_ fun hmem => hnull (List.contains_iff_mem.2 hmem)
  split
  · nofun
  rename_i script hscript
  intro hresult
  -- No statement fails in this way.
  have hcompiled := compileScript_refuses_or_escapes handle (Script.arePlain_of_read hscript)
  rw [hresult] at hcompiled
  rcases hcompiled with hrefusal | ⟨error, herror, -⟩
  · cases hrefusal
  · cases herror

end SpriteStage
