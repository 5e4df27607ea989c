import SpriteStage.Proofs.Program.Compiled

/-!
# The vocabulary of programs

A program is written with few forms of statements and expressions, and a script with any other form in
it does not compile, however deep the form stands.  One part of a script is never looked at: what comes
after the `from` of a `raise`.  So `accepted_text_is_documented` says what compiles up to that part, and
that it keeps to the vocabulary exactly if no such part is there.

## Main definitions

* `Script.Expr.IsConstant` and `Script.Expr.IsInteger` are the expressions of the vocabulary
* `Script.Stmt.IsDocumented` are its statements, with a choice of what may come after `from`
* `Script.Stmt.causes` are the expressions after `from`

## Main results

* `documented_of_compile`
* `accepted_text_is_documented`
-/

namespace SpriteStage

/-! ## The forms -/

/-- A text is one of the words that `float` takes, whatever blanks are around it and in either case. -/
def IsFloatWord (s : String) : Prop :=
  String.ofList ((Text.stripList s.toList).map Char.toLower) ∈ floatWords

namespace Script

/-- The constant expressions of the vocabulary. -/
inductive Expr.IsConstant : Expr → Prop where
  /-- A number, a text or a truth value. -/
  | literal {v : Value} (hscalar : v.isScalar = true) (span : Span) :
      IsConstant (.literal (.value v) span)
  | sign (op : UnaryOp) {operand : Expr} (hoperand : IsConstant operand) (span : Span) :
      IsConstant (.sign (.arithmetic op) operand span)
  | binary (op : BinaryOp) {left right : Expr} (hleft : IsConstant left)
      (hright : IsConstant right) (span : Span) :
      IsConstant (.binary (.arithmetic op) left right span)
  /-- A double that has no literal of its own. -/
  | float {s : String} (hword : IsFloatWord s) (span₁ span₂ span₃ : Span) :
      IsConstant (.call (.name "float" span₁) [.literal (.value (.text s)) span₂] [] span₃)

/-- The constant expressions that stand for integers. -/
def Expr.IsInteger (e : Expr) : Prop := e.IsConstant ∧ ∃ n, constant [] e = .ok (.int n)

/-- The statements of the vocabulary, with operations called on `handle`.  What comes after the `from`
    of a `raise` has to be among the expressions `MayFollow`. -/
inductive Stmt.IsDocumented (handle : String) (MayFollow : Expr → Prop) : Stmt → Prop where
  | call (op : Operation) {argument : Expr} (hargument : argument.IsConstant)
      (span₁ span₂ span₃ span : Span) :
      IsDocumented handle MayFollow
        (.expr (.call (.attribute (.name handle span₁) op.name span₂) [argument] [] span₃) span)
  | awaitedCall (op : Operation) {argument : Expr} (hargument : argument.IsConstant)
      (span₁ span₂ span₃ span₄ span : Span) :
      IsDocumented handle MayFollow
        (.expr (.await
          (.call (.attribute (.name handle span₁) op.name span₂) [argument] [] span₃) span₄) span)
  /-- A text that stands alone. -/
  | text (s : String) (span₁ span : Span) :
      IsDocumented handle MayFollow (.expr (.literal (.value (.text s)) span₁) span)
  | pass (span : Span) : IsDocumented handle MayFollow (.pass span)
  | loop (id : String) {bounds : List Expr} {body : List Stmt} (hsome : bounds ≠ [])
      (hfew : bounds.length ≤ 3) (hbounds : ∀ e ∈ bounds, e.IsInteger)
      (hbody : ∀ s ∈ body, IsDocumented handle MayFollow s) (span₁ span₂ span₃ span : Span) :
      IsDocumented handle MayFollow
        (.loop (.name id span₁) (.call (.name "range" span₂) bounds [] span₃) body [] span)
  | raise (id : String) {cause : Option Expr} (hcause : ∀ e ∈ cause, MayFollow e)
      (span₁ span : Span) :
      IsDocumented handle MayFollow (.raise (some (.name id span₁)) cause span)
  | raiseCall (id : String) {arguments : List Expr} {cause : Option Expr}
      (hfew : arguments.length ≤ 1) (harguments : ∀ e ∈ arguments, e.IsConstant)
      (hcause : ∀ e ∈ cause, MayFollow e) (span₁ span₂ span : Span) :
      IsDocumented handle MayFollow
        (.raise (some (.call (.name id span₁) arguments [] span₂)) cause span)

mutual

/-- The expressions that come after the `from` of a `raise` in a statement, at whatever depth. -/
def Stmt.causes : Stmt → List Expr
  | .raise _ cause _ => cause.toList
  | .loop _ _ body otherwise _ => Stmt.causesOf body ++ Stmt.causesOf otherwise
  | .expr .. | .pass _ | .other .. => []

/-- The expressions that come after the `from` of a `raise` in statements. -/
def Stmt.causesOf : List Stmt → List Expr
  | [] => []
  | s :: rest => s.causes ++ Stmt.causesOf rest

end

theorem Stmt.mem_causesOf {ss : List Stmt} {e : Expr} :
    e ∈ Stmt.causesOf ss ↔ ∃ s ∈ ss, e ∈ s.causes := by
  induction ss with
  | nil => simp [causesOf]
  | cons s ss ih => simp [causesOf, ih]

namespace Stmt.IsDocumented

variable {handle : String} {MayFollow MayFollow' : Expr → Prop} {s : Stmt}

/-- What comes after `from` is among the expressions that may come there. -/
theorem of_mem_causes (h : s.IsDocumented handle MayFollow) {e : Expr} (he : e ∈ s.causes) :
    MayFollow e := by
  induction h with
  | call | awaitedCall | text | pass => cases he
  | loop id hsome hfew hbounds hbody span₁ span₂ span₃ span ih =>
    rw [causes, causesOf, List.append_nil, Stmt.mem_causesOf] at he
    obtain ⟨t, ht, he⟩ := he
    exact ih t ht he
  | raise id hcause span₁ span => exact hcause e (Option.mem_toList.1 he)
  | raiseCall id hfew harguments hcause span₁ span₂ span => exact hcause e (Option.mem_toList.1 he)

/-- Only what comes after `from` matters to the choice of what may come there. -/
theorem restrict (h : s.IsDocumented handle MayFollow) (hcauses : ∀ e ∈ s.causes, MayFollow' e) :
    s.IsDocumented handle MayFollow' := by
  induction h with
  | call op hargument span₁ span₂ span₃ span => exact .call op hargument span₁ span₂ span₃ span
  | awaitedCall op hargument span₁ span₂ span₃ span₄ span =>
    exact .awaitedCall op hargument span₁ span₂ span₃ span₄ span
  | text s span₁ span => exact .text s span₁ span
  | pass span => exact .pass span
  | loop id hsome hfew hbounds hbody span₁ span₂ span₃ span ih =>
    refine .loop id hsome hfew hbounds (fun t ht => ih t ht fun e he => ?_) span₁ span₂ span₃ span
    refine hcauses e ?_
    rw [causes, causesOf, List.append_nil, Stmt.mem_causesOf]
    exact ⟨t, ht, he⟩
  | raise id hcause span₁ span =>
    exact .raise id (fun e he => hcauses e (Option.mem_toList.2 he)) span₁ span
  | raiseCall id hfew harguments hcause span₁ span₂ span =>
    exact .raiseCall id hfew harguments (fun e he => hcauses e (Option.mem_toList.2 he))
      span₁ span₂ span

end Stmt.IsDocumented

end Script

open Script (Expr Stmt)

/-! ## Constants -/

section

variable {scope : List String} {e : Expr} {v : Value}

theorem isFloatWord_of_floatLiteral {function : Expr} {arguments : List Expr}
    {keywords : List Script.Keyword} {span : Script.Span}
    (h : floatLiteral function arguments keywords span = .ok v) :
    ∃ s span₁ span₂, function = .name "float" span₁ ∧
      arguments = [.literal (.value (.text s)) span₂] ∧ keywords = [] ∧ IsFloatWord s := by
  unfold floatLiteral at h
  split at h
  · rename_i span₁ s span₂
    split at h
    · rename_i hword
      exact ⟨s, span₁, span₂, rfl, rfl, rfl, List.contains_iff_mem.1 hword⟩
    · cases h
  · cases h

/-- What has a value is a constant expression. -/
theorem isConstant_of_constant (he : e.isPlain = true) (h : constant scope e = .ok v) :
    e.IsConstant := by
  fun_induction constant scope e generalizing v with
  | case2 w span hnull =>
    refine .literal ?_ span
    cases w <;> simp_all [Expr.isPlain, Script.Literal.isPlain]
  | case4 op operand span ih =>
    obtain ⟨w, hw, -⟩ := exists_of_bind_eq_ok h
    exact .sign op (ih he hw) span
  | case6 op left right span ihl ihr =>
    rw [Expr.isPlain, Bool.and_eq_true] at he
    obtain ⟨l, hl, h⟩ := exists_of_bind_eq_ok h
    obtain ⟨r, hr, -⟩ := exists_of_bind_eq_ok h
    exact .binary op (ihl he.1 hl) (ihr he.2 hr) span
  | case8 function arguments keywords span =>
    obtain ⟨s, span₁, span₂, rfl, rfl, rfl, hword⟩ := isFloatWord_of_floatLiteral h
    exact .float hword span₁ span₂ span
  | _ => cases h

/-- The variables of the loops around a constant do not matter to its value. -/
theorem constant_of_scope (h : constant scope e = .ok v) (scope' : List String) :
    constant scope' e = .ok v := by
  fun_induction constant scope e generalizing v with
  | case2 w span hnull =>
    rw [constant]
    · exact h
    · exact hnull
  | case4 op operand span ih =>
    obtain ⟨w, hw, h⟩ := exists_of_bind_eq_ok h
    rw [constant, ih hw]
    exact h
  | case6 op left right span ihl ihr =>
    obtain ⟨l, hl, h⟩ := exists_of_bind_eq_ok h
    obtain ⟨r, hr, h⟩ := exists_of_bind_eq_ok h
    rw [constant, ihl hl, ihr hr]
    exact h
  | case8 function arguments keywords span =>
    rw [constant]
    exact h
  | _ => cases h

end

/-- The values of constants that all have one. -/
theorem exists_of_mapM_constant {scope : List String} {arguments : List Expr} {vs : List Value}
    (h : arguments.mapM (constant scope) = .ok vs) :
    ∀ e ∈ arguments, ∃ v ∈ vs, constant scope e = .ok v := by
  induction arguments generalizing vs with
  | nil => simp
  | cons e rest ih =>
    rw [List.mapM_cons] at h
    obtain ⟨v, hv, h⟩ := exists_of_bind_eq_ok h
    obtain ⟨ws, hws, h⟩ := exists_of_bind_eq_ok h
    cases h
    intro e' he'
    rcases List.mem_cons.1 he' with rfl | he'
    · exact ⟨v, List.mem_cons_self, hv⟩
    · obtain ⟨w, hw, hvalue⟩ := ih hws e' he'
      exact ⟨w, List.mem_cons_of_mem _ hw, hvalue⟩

/-! ## Statements -/

theorem Operation.name_of_ofName? {name : String} {op : Operation} (h : ofName? name = some op) :
    op.name = name := by
  simpa using List.find?_some h

/-- What compiles to an instruction is the call of an operation on the handle. -/
theorem call_of_callInstruction {handle : String} {scope : List String} {span : Script.Span}
    {function : Expr} {arguments : List Expr} {keywords : List Script.Keyword} {i : Instruction}
    (h : callInstruction handle scope span function arguments keywords = .ok i) :
    ∃ op span₁ span₂ argument v, function = .attribute (.name handle span₁) (Operation.name op) span₂ ∧
      arguments = [argument] ∧ keywords = [] ∧ constant scope argument = .ok v := by
  unfold callInstruction at h
  split at h
  case h_2 => cases h
  case h_1 owner span₁ name span₂ =>
    split at h
    · cases h
    rename_i howner
    obtain rfl := not_not.1 howner
    split at h
    · cases h
    rename_i op hop
    split at h
    · cases h
    rename_i hkeywords
    split at h
    · rename_i argument
      obtain ⟨v, hv, -⟩ := exists_of_map_eq_ok h
      have hnone : keywords = [] := by simpa using hkeywords
      exact ⟨op, span₁, span₂, argument, v, by rw [Operation.name_of_ofName? hop], rfl, hnone, hv⟩
    · cases h

/-- What comes of integers is a list of them. -/
theorem forall_int_of_integers? {vs : List Value} {ns : List Int} (h : integers? vs = some ns) :
    ∀ v ∈ vs, ∃ n, v = .int n := by
  fun_induction integers? vs generalizing ns with
  | case1 => simp
  | case2 n rest ih =>
    obtain ⟨ms, hms, -⟩ := Option.map_eq_some_iff.1 h
    exact List.forall_mem_cons.2 ⟨⟨n, rfl⟩, ih hms⟩
  | case3 => cases h

/-- A range has a length only if its bounds are integers. -/
theorem exists_integers_of_rangeOf {span : Script.Span} {vs : List Value} {n : ℕ}
    (h : rangeOf span vs = .ok n) : ∃ ns, integers? vs = some ns := by
  unfold rangeOf at h
  simp only at h
  split at h
  case h_4 => cases h
  all_goals exact ⟨_, ‹_›⟩

/-- What a loop goes over is a range with one to three integers as its bounds. -/
theorem range_of_rounds {scope : List String} {range : Expr} (hplain : range.isPlain = true) {n : ℕ}
    (h : rounds scope range = .ok n) :
    ∃ bounds span₁ span₂, range = .call (.name "range" span₁) bounds [] span₂ ∧ bounds ≠ [] ∧
      bounds.length ≤ 3 ∧ ∀ e ∈ bounds, e.IsInteger := by
  unfold rounds at h
  split at h
  case h_2 => cases h
  case h_1 span₁ bounds keywords span₂ =>
    split at h
    · cases h
    rename_i hkeywords
    obtain rfl : keywords = [] := by simpa using hkeywords
    split at h
    · cases h
    rename_i hcount
    have hbounds : bounds ≠ [] ∧ bounds.length ≤ 3 := by simpa using hcount
    obtain ⟨vs, hvs, h⟩ := exists_of_bind_eq_ok h
    obtain ⟨ns, hns⟩ := exists_integers_of_rangeOf h
    refine ⟨bounds, span₁, span₂, rfl, hbounds.1, hbounds.2, fun e he => ?_⟩
    -- Each bound has a value, and the values are integers.
    obtain ⟨v, hv, hvalue⟩ := exists_of_mapM_constant hvs e he
    obtain ⟨k, rfl⟩ := forall_int_of_integers? hns v hv
    rw [Expr.isPlain, Expr.arePlain_eq_all, List.all_eq_true] at hplain
    exact ⟨isConstant_of_constant (hplain e he) hvalue, k, constant_of_scope hvalue []⟩

section

variable {handle : String} {scope : List String}

theorem documented_expression {e : Expr} (he : e.isPlain = true) {span : Script.Span}
    {i : Option Instruction} (h : expressionInstruction handle scope span e = .ok i) :
    (Stmt.expr e span).IsDocumented handle fun _ => True := by
  -- A call has a single argument, which has a value.
  have hcall : ∀ {function arguments keywords i},
      callInstruction handle scope span function arguments keywords = .ok i →
      Expr.arePlain arguments = true →
      ∃ op span₁ span₂ argument, function = .attribute (.name handle span₁) (Operation.name op) span₂ ∧
        arguments = [argument] ∧ keywords = [] ∧ argument.IsConstant := by
    intro function arguments keywords i hi hplain
    obtain ⟨op, span₁, span₂, argument, v, rfl, rfl, rfl, hv⟩ := call_of_callInstruction hi
    rw [Expr.arePlain_eq_all, List.all_eq_true] at hplain
    exact ⟨op, span₁, span₂, argument, rfl, rfl, rfl,
      isConstant_of_constant (hplain argument List.mem_cons_self) hv⟩
  unfold expressionInstruction at h
  split at h
  case h_1 s span₁ => exact .text s span₁ span
  case h_2 function arguments keywords span₃ span₄ =>
    obtain ⟨j, hj, -⟩ := exists_of_map_eq_ok h
    obtain ⟨op, span₁, span₂, argument, rfl, rfl, rfl, hargument⟩ := hcall hj he
    exact .awaitedCall op hargument span₁ span₂ span₃ span₄ span
  case h_3 function arguments keywords span₃ =>
    obtain ⟨j, hj, -⟩ := exists_of_map_eq_ok h
    obtain ⟨op, span₁, span₂, argument, rfl, rfl, rfl, hargument⟩ := hcall hj he
    exact .call op hargument span₁ span₂ span₃ span
  case h_4 => cases h

theorem documented_raise {exception cause : Option Expr}
    (hplain : exception.all Expr.isPlain = true) {span : Script.Span} {i : Instruction}
    (h : failInstruction scope span exception = .ok i) :
    (Stmt.raise exception cause span).IsDocumented handle fun _ => True := by
  unfold failInstruction at h
  split at h
  case h_1 | h_4 => cases h
  case h_2 id span₁ => exact .raise id (fun _ _ => trivial) span₁ span
  case h_3 id span₁ arguments keywords span₂ =>
    split at h
    · cases h
    rename_i hcount
    obtain ⟨rfl, hfew⟩ : keywords = [] ∧ arguments.length ≤ 1 := by simpa using hcount
    refine .raiseCall id hfew (fun e he => ?_) (fun _ _ => trivial) span₁ span₂ span
    split at h
    · cases he
    · rename_i argument rest
      obtain ⟨v, hv, -⟩ := exists_of_bind_eq_ok h
      -- There is no argument after the first one.
      obtain rfl : rest = [] := by simpa using hfew
      obtain rfl := List.mem_singleton.1 he
      rw [Option.all_some, Expr.isPlain, Expr.arePlain, Bool.and_eq_true] at hplain
      exact isConstant_of_constant hplain.1 hv

mutual

/-- What compiles is a statement of the vocabulary, whatever comes after `from`. -/
theorem documented_compileStmt (scope : List String) :
    ∀ s : Stmt, s.isPlain = true →
      (compileStmt handle scope s).Yields fun _ => s.IsDocumented handle fun _ => True
  | .pass span, _ => by
    rw [compileStmt]
    exact .pure (.pass span)
  | .expr value span, h => by
    rw [compileStmt]
    exact .lift fun i hi => documented_expression h hi
  | .raise exception cause span, h => by
    rw [compileStmt]
    rw [Stmt.isPlain, Bool.and_eq_true] at h
    refine .lift fun i hi => ?_
    obtain ⟨j, hj, -⟩ := exists_of_map_eq_ok hi
    exact documented_raise h.1 hj
  | .other form span, _ => by
    rw [compileStmt]
    exact .refuse
  | .loop target range body otherwise span, h => by
    rw [Stmt.isPlain, Bool.and_eq_true] at h
    have hbody := fun id => documented_compileStmts (id :: scope) body h.2
    unfold compileStmt
    extract_lets rest
    have hrest : otherwise = [] → ∀ u, (rest u).Yields fun _ =>
        (Stmt.loop target range body otherwise span).IsDocumented handle fun _ => True := by
      rintro rfl u
      simp only [rest]
      split
      · rename_i id span₁
        refine (Compiling.Yields.lift fun _ hn => hn).bind fun times htimes =>
          (hbody _).bind fun _ hbody => ?_
        obtain ⟨bounds, span₂, span₃, rfl, hsome, hfew, hbounds⟩ := range_of_rounds h.1 htimes
        have hloop := Stmt.IsDocumented.loop id hsome hfew hbounds hbody span₁ span₂ span₃ span
        exact .ite (.after fun _ => .pure hloop) (.pure hloop)
      · exact .refuse
    -- A loop with an `else` is refused.
    cases otherwise with
    | nil => exact hrest rfl ()
    | cons t otherwise =>
      have hrefuse : (refuse (α := Unit) .loopElse span).Yields fun _ => False := .refuse
      exact hrefuse.bind fun _ h => h.elim

theorem documented_compileStmts (scope : List String) :
    ∀ ss : List Stmt, Stmt.arePlain ss = true →
      (compileStmts handle scope ss).Yields fun _ => ∀ s ∈ ss, s.IsDocumented handle fun _ => True
  | [], _ => by
    rw [compileStmts]
    exact .pure (by simp)
  | s :: rest, h => by
    rw [compileStmts]
    rw [Stmt.arePlain, Bool.and_eq_true] at h
    refine (documented_compileStmt scope s h.1).bind fun _ hs => ?_
    refine (documented_compileStmts scope rest h.2).bind fun _ hrest => .pure ?_
    exact List.forall_mem_cons.2 ⟨hs, hrest⟩

end

end

/-! ## Texts -/

/-- A text that compiles is a script, and the program is what the script compiles to. -/
theorem exists_script_of_compile {handle text : String} {p : Program}
    (h : (compile handle text).1 = .ok p) :
    ∃ script, Script.read text.toList = .ok script ∧
      ∃ ws, (compileScript handle script).run [] = (.ok p, ws) := by
  unfold compile at h
  simp only at h
  split at h
  · cases h
  split at h
  · cases h
  · rename_i script hscript
    exact ⟨script, hscript, _, Prod.ext h rfl⟩

/-- The statements of a text that compiles are of the vocabulary, whatever comes after `from`. -/
theorem documented_of_compile {handle text : String} {p : Program}
    (h : (compile handle text).1 = .ok p) :
    ∃ script, Script.read text.toList = .ok script ∧
      ∀ s ∈ script, s.IsDocumented handle fun _ => True := by
  obtain ⟨script, hscript, ws, hrun⟩ := exists_script_of_compile h
  have hplain : Stmt.arePlain script = true := Script.arePlain_of_read hscript
  have hyields : (compileScript handle script).Yields fun _ =>
      ∀ s ∈ script, s.IsDocumented handle fun _ => True := by
    refine (documented_compileStmts [] script hplain).bind fun _ hdocumented => ?_
    exact .ite (.after fun _ => .pure hdocumented) (.pure hdocumented)
  exact ⟨script, hscript, hyields [] p ws hrun⟩

/-- **What compiles keeps to the vocabulary, except for what comes after the `from` of a `raise`.**  In
    a text that compiles, every statement at every depth has a documented form with constant
    expressions of documented forms in it; and nothing else is in the text exactly if no `raise` of it
    has a `from`. -/
theorem accepted_text_is_documented {handle text : String} {p : Program}
    (h : (compile handle text).1 = .ok p) :
    ∃ script, Script.read text.toList = .ok script ∧
      (∀ s ∈ script, s.IsDocumented handle fun _ => True) ∧
      (Stmt.causesOf script = [] ↔ ∀ s ∈ script, s.IsDocumented handle fun _ => False) := by
  obtain ⟨script, hscript, hdocumented⟩ := documented_of_compile h
  refine ⟨script, hscript, hdocumented, ?_, ?_⟩
  · intro hnone s hs
    refine (hdocumented s hs).restrict fun e he => ?_
    have hmem : e ∈ Stmt.causesOf script := Stmt.mem_causesOf.2 ⟨s, hs, he⟩
    rw [hnone] at hmem
    cases hmem
  · intro hstrict
    refine List.eq_nil_iff_forall_not_mem.2 fun e he => ?_
    obtain ⟨s, hs, he⟩ := Stmt.mem_causesOf.1 he
    exact (hstrict s hs).of_mem_causes he

/-- A loop with a call in it, and a `raise` without a `from`. -/
theorem accepted_text_is_documented_of_loop :
    let text := "for i in range(1, 4):\n    await runtime.move(-2 * 3)\nraise ValueError('far')\n"
    ∃ p script, (compile "runtime" text).1 = .ok p ∧ Script.read text.toList = .ok script ∧
      script.length = 2 ∧ ∀ s ∈ script, s.IsDocumented "runtime" fun _ => False := by
  intro text
  have hcompiles : (compile "runtime" text).1.toOption.any (fun p => p.length = 2) = true := by
    decide +kernel
  have hread : (Script.read text.toList).toOption.any
      (fun script => script.length = 2 ∧ (Stmt.causesOf script).length = 0) = true := by
    decide +kernel
  obtain ⟨p, hp, -⟩ := exists_of_any_toOption hcompiles
  obtain ⟨script, hscript, hcounts⟩ := exists_of_any_toOption hread
  obtain ⟨hlength, hcauses⟩ := of_decide_eq_true hcounts
  obtain ⟨script', hscript', -, hiff⟩ := accepted_text_is_documented hp
  obtain rfl : script = script' := Except.ok.inj (hscript.symm.trans hscript')
  exact ⟨p, script, hp, hscript, hlength, hiff.1 (List.length_eq_zero_iff.1 hcauses)⟩

/-- The call of a function that is no part of the vocabulary compiles after `from`. -/
theorem cause_is_not_documented :
    let text := "raise ValueError('far') from open('secret')\n"
    ∃ p script, (compile "runtime" text).1 = .ok p ∧ Script.read text.toList = .ok script ∧
      ¬ ∀ s ∈ script, s.IsDocumented "runtime" fun _ => False := by
  intro text
  have hcompiles : (compile "runtime" text).1.toOption.any (fun p => p.length = 1) = true := by
    decide +kernel
  have hread : (Script.read text.toList).toOption.any
      (fun script => 0 < (Stmt.causesOf script).length) = true := by decide +kernel
  obtain ⟨p, hp, -⟩ := exists_of_any_toOption hcompiles
  obtain ⟨script, hscript, hcauses⟩ := exists_of_any_toOption hread
  refine ⟨p, script, hp, hscript, fun hstrict => ?_⟩
  obtain ⟨e, he⟩ := List.exists_mem_of_length_pos (of_decide_eq_true hcauses)
  obtain ⟨s, hs, he⟩ := Stmt.mem_causesOf.1 he
  exact (hstrict s hs).of_mem_causes he

end SpriteStage
