import SpriteStage.Proofs.Program.Vocabulary

/-!
# The names in a program

A name in a script is read with the variables of the loops around it in sight.  A program reads names
only in a few places: as the handle of an operation, as one of the functions `range` and `float`, and in
a `raise`.  In these places the compiler looks at the name itself and not at the loops, and the rounds
of a compiled loop have no variable.  So `loop_variables_are_unread` says when no name of a program is
the variable of a loop around it: as long as no loop takes the handle or one of the two functions for
its variable, and no `raise` within a loop names such a variable.

Spellings of a name with the same normal form are one name: a loop over `ｒuntime` takes the handle
`runtime` for its variable.

## Main definitions

* `Script.Use` is a name that is read, with its role and the variables of the loops around it
* `Script.Stmt.uses` lists the names that a statement reads
* `Script.Stmt.loopVariables` lists the variables of its loops

## Main results

* `Script.Stmt.IsDocumented.fits`
* `loop_variables_are_unread`
-/

namespace SpriteStage.Script

/-! ## Names that are read -/

/-- What a name is read as. -/
inductive Role where
  /-- The owner of an operation that is called. -/
  | handle
  /-- A function that is called by its name. -/
  | function
  /-- What a `raise` names. -/
  | exception
  /-- Any name after the `from` of a `raise`. -/
  | cause
  /-- A value of its own. -/
  | operand
  deriving DecidableEq, Repr

/-- A name that is read. -/
structure Use where
  role : Role
  name : String
  /-- The variables of the loops around it, that of the innermost loop first. -/
  around : List String
  deriving DecidableEq, Repr

/-- The uses that a program may have, whatever the variables of the loops are. -/
def Use.IsAllowed (handle : String) (u : Use) : Prop :=
  match u.role with
  | .handle => u.name = handle
  | .function => u.name = "range" ∨ u.name = "float"
  | .exception | .cause => True
  | .operand => False

mutual

/-- The names that an expression reads inside loops with some variables. -/
def Expr.uses (vars : List String) : Expr → List Use
  | .literal .. => []
  | .name id _ => [⟨.operand, id, vars⟩]
  | .sign _ operand _ => operand.uses vars
  | .binary _ left right _ => left.uses vars ++ right.uses vars
  | .attribute owner _ _ => owner.uses vars
  | .call (.name id _) arguments _ _ => ⟨.function, id, vars⟩ :: Expr.usesOf vars arguments
  | .call (.attribute (.name id _) _ _) arguments _ _ =>
    ⟨.handle, id, vars⟩ :: Expr.usesOf vars arguments
  | .call function arguments _ _ => function.uses vars ++ Expr.usesOf vars arguments
  | .await operand _ => operand.uses vars
  | .other _ parts _ => Expr.usesOf vars parts

/-- The names that expressions read. -/
def Expr.usesOf (vars : List String) : List Expr → List Use
  | [] => []
  | e :: rest => e.uses vars ++ Expr.usesOf vars rest

end

/-- The names that the exception of a `raise` reads. -/
def Expr.usesRaised (vars : List String) : Expr → List Use
  | .name id _ => [⟨.exception, id, vars⟩]
  | .call (.name id _) arguments _ _ => ⟨.exception, id, vars⟩ :: Expr.usesOf vars arguments
  | e => e.uses vars

/-- The names that a target binds. -/
def Expr.bound (target : Expr) : List String := (target.uses []).map (·.name)

mutual

/-- The names that a statement reads inside loops with some variables. -/
def Stmt.uses (vars : List String) : Stmt → List Use
  | .expr value _ => value.uses vars
  | .raise exception cause _ =>
    exception.toList.flatMap (Expr.usesRaised vars) ++
      (cause.toList.flatMap (Expr.uses vars)).map fun u => ⟨.cause, u.name, vars⟩
  | .loop target range body otherwise _ =>
    range.uses vars ++ Stmt.usesOf (target.bound ++ vars) body ++ Stmt.usesOf vars otherwise
  | .pass _ | .other .. => []

/-- The names that statements read. -/
def Stmt.usesOf (vars : List String) : List Stmt → List Use
  | [] => []
  | s :: rest => s.uses vars ++ Stmt.usesOf vars rest

end

mutual

/-- The variables of the loops in a statement, at whatever depth. -/
def Stmt.loopVariables : Stmt → List String
  | .loop target _ body otherwise _ =>
    target.bound ++ Stmt.loopVariablesOf body ++ Stmt.loopVariablesOf otherwise
  | .expr .. | .pass _ | .raise .. | .other .. => []

/-- The variables of the loops in statements. -/
def Stmt.loopVariablesOf : List Stmt → List String
  | [] => []
  | s :: rest => s.loopVariables ++ Stmt.loopVariablesOf rest

end

/-- The block that a loop repeats. -/
def Stmt.body : Stmt → List Stmt
  | .loop _ _ body _ _ => body
  | .expr .. | .pass _ | .raise .. | .other .. => []

theorem Expr.mem_usesOf {vars : List String} {es : List Expr} {u : Use} :
    u ∈ Expr.usesOf vars es ↔ ∃ e ∈ es, u ∈ e.uses vars := by
  induction es with
  | nil => simp [usesOf]
  | cons e es ih => simp [usesOf, ih]

theorem Stmt.mem_usesOf {vars : List String} {ss : List Stmt} {u : Use} :
    u ∈ Stmt.usesOf vars ss ↔ ∃ s ∈ ss, u ∈ s.uses vars := by
  induction ss with
  | nil => simp [usesOf]
  | cons s ss ih => simp [usesOf, ih]

theorem Stmt.mem_loopVariablesOf {ss : List Stmt} {id : String} :
    id ∈ Stmt.loopVariablesOf ss ↔ ∃ s ∈ ss, id ∈ s.loopVariables := by
  induction ss with
  | nil => simp [loopVariablesOf]
  | cons s ss ih => simp [loopVariablesOf, ih]

/-! ## Names of documented forms -/

/-- A constant expression reads no name but `float`. -/
theorem Expr.IsConstant.uses {vars : List String} {e : Expr} (h : e.IsConstant) :
    ∀ u ∈ e.uses vars, u = ⟨.function, "float", vars⟩ := by
  induction h with
  | literal hscalar span => simp [Expr.uses]
  | sign op hoperand span ih =>
    rw [Expr.uses]
    exact ih
  | binary op hleft hright span ihl ihr =>
    rw [Expr.uses]
    intro u hu
    rcases List.mem_append.1 hu with hu | hu
    · exact ihl u hu
    · exact ihr u hu
  | float hword span₁ span₂ span₃ => simp [Expr.uses, Expr.usesOf]

/-- The uses of a loop of the vocabulary are those of its range and of its block. -/
theorem Stmt.mem_uses_loop {vars : List String} {id : String} {bounds : List Expr}
    {body : List Stmt} {span₁ span₂ span₃ span : Span} {u : Use} :
    u ∈ (Stmt.loop (.name id span₁) (.call (.name "range" span₂) bounds [] span₃) body [] span).uses
        vars ↔
      u = ⟨.function, "range", vars⟩ ∨ (∃ e ∈ bounds, u ∈ e.uses vars) ∨
        ∃ s ∈ body, u ∈ s.uses (id :: vars) := by
  simp [Stmt.uses, Stmt.usesOf, Stmt.mem_usesOf, Expr.uses, Expr.mem_usesOf, Expr.bound]

/-- The uses of the call of an operation are the handle and those of the argument. -/
theorem Expr.mem_uses_call {vars : List String} {id name : String} {argument : Expr}
    {span₁ span₂ span₃ : Span} {u : Use} :
    u ∈ (Expr.call (.attribute (.name id span₁) name span₂) [argument] [] span₃).uses vars ↔
      u = ⟨.handle, id, vars⟩ ∨ u ∈ argument.uses vars := by
  simp [Expr.uses, Expr.usesOf]

/-- What is known of a name that a documented statement reads inside loops with some variables. -/
structure Use.Fits (handle : String) (vars : List String) (s : Stmt) (u : Use) : Prop where
  allowed : u.IsAllowed handle
  around : ∀ id ∈ u.around, id ∈ vars ∨ id ∈ s.loopVariables
  cause : u.role = .cause → s.causes ≠ []

namespace Use.Fits

variable {handle : String} {vars : List String} {s : Stmt}

/-- A use right in a statement, and not in a block of it, has no more variables around it. -/
theorem direct {role : Role} {name : String} (hallowed : Use.IsAllowed handle ⟨role, name, vars⟩)
    (hcause : role = .cause → s.causes ≠ []) : Use.Fits handle vars s ⟨role, name, vars⟩ where
  allowed := hallowed
  around _ hid := .inl hid
  cause := hcause

/-- The use of `float` in a constant expression. -/
theorem constant {e : Expr} (he : e.IsConstant) {u : Use} (hu : u ∈ e.uses vars) :
    Use.Fits handle vars s u := by
  obtain rfl := he.uses u hu
  exact direct (.inr rfl) nofun

/-- The handle and the names in the argument of a call. -/
theorem call {name : String} {argument : Expr} (hargument : argument.IsConstant)
    {span₁ span₂ span₃ : Span} {u : Use}
    (hu : u ∈ (Expr.call (.attribute (.name handle span₁) name span₂) [argument] [] span₃).uses vars) :
    Use.Fits handle vars s u := by
  rcases Expr.mem_uses_call.1 hu with rfl | hu
  · exact direct rfl nofun
  · exact constant hargument hu

/-- The names after the `from` of a `raise`. -/
theorem raised {exception cause : Option Expr} {span : Span} {u : Use}
    (hu : u ∈ (cause.toList.flatMap (Expr.uses vars)).map fun u => ⟨.cause, u.name, vars⟩) :
    Use.Fits handle vars (.raise exception cause span) u := by
  obtain ⟨u', hu', rfl⟩ := List.mem_map.1 hu
  obtain ⟨e, he, -⟩ := List.mem_flatMap.1 hu'
  exact direct trivial fun _ => List.ne_nil_of_mem he

/-- The uses in the block of a loop, which has the variable of the loop around it. -/
theorem block {id : String} {range : Expr} {body : List Stmt} {span₁ span : Span} {t : Stmt}
    (ht : t ∈ body) {u : Use} (h : Use.Fits handle (id :: vars) t u) :
    Use.Fits handle vars (.loop (.name id span₁) range body [] span) u where
  allowed := h.allowed
  around id' hid' := by
    have hvariables : ∀ {name}, name = id ∨ name ∈ Stmt.loopVariablesOf body →
        name ∈ (Stmt.loop (.name id span₁) range body [] span).loopVariables := by
      simp [Stmt.loopVariables, Stmt.loopVariablesOf, Expr.bound, Expr.uses]
    rcases h.around id' hid' with hid' | hid'
    · rcases List.mem_cons.1 hid' with rfl | hid'
      · exact .inr (hvariables (.inl rfl))
      · exact .inl hid'
    · exact .inr (hvariables (.inr (Stmt.mem_loopVariablesOf.2 ⟨t, ht, hid'⟩)))
  cause hrole := by
    obtain ⟨e, he⟩ := List.exists_mem_of_ne_nil _ (h.cause hrole)
    have hmem : e ∈ (Stmt.loop (.name id span₁) range body [] span).causes := by
      rw [Stmt.causes]
      exact List.mem_append_left _ (Stmt.mem_causesOf.2 ⟨t, ht, he⟩)
    exact List.ne_nil_of_mem hmem

end Use.Fits

section

variable {handle : String} {MayFollow : Expr → Prop}

/-- **Where documented statements read names.**  Each of them is read in one of the places that the
    vocabulary has for it. -/
theorem Stmt.IsDocumented.fits {s : Stmt} (h : s.IsDocumented handle MayFollow) :
    ∀ vars, ∀ u ∈ s.uses vars, u.Fits handle vars s := by
  induction h with
  | call op hargument span₁ span₂ span₃ span =>
    intro vars u hu
    rw [Stmt.uses] at hu
    exact .call hargument hu
  | awaitedCall op hargument span₁ span₂ span₃ span₄ span =>
    intro vars u hu
    rw [Stmt.uses, Expr.uses] at hu
    exact .call hargument hu
  | text s span₁ span => simp [Stmt.uses, Expr.uses]
  | pass span => simp [Stmt.uses]
  | loop id hsome hfew hbounds hbody span₁ span₂ span₃ span ih =>
    intro vars u hu
    rcases Stmt.mem_uses_loop.1 hu with rfl | ⟨e, he, hu⟩ | ⟨t, ht, hu⟩
    · exact .direct (.inl rfl) nofun
    · exact .constant (hbounds e he).1 hu
    · exact .block ht (ih t ht (id :: vars) u hu)
  | raise id hmay span₁ span =>
    intro vars u hu
    rcases List.mem_append.1 hu with hu | hu
    · obtain rfl : u = ⟨.exception, id, vars⟩ := by simpa [Expr.usesRaised] using hu
      exact .direct trivial nofun
    · exact .raised hu
  | @raiseCall id arguments cause hfew harguments hmay span₁ span₂ span =>
    intro vars u hu
    rcases List.mem_append.1 hu with hu | hu
    · have hraised : u = ⟨.exception, id, vars⟩ ∨ ∃ e ∈ arguments, u ∈ e.uses vars := by
        simpa [Expr.usesRaised, Expr.mem_usesOf] using hu
      rcases hraised with rfl | ⟨e, he, hu⟩
      · exact .direct trivial nofun
      · exact .constant (harguments e he) hu
    · exact .raised hu

/-- What comes after `from` outside of all loops has no variables around it. -/
theorem Stmt.IsDocumented.around_of_cause {s : Stmt} (h : s.IsDocumented handle MayFollow)
    (hnone : Stmt.causesOf s.body = []) {u : Use} (hu : u ∈ s.uses []) (hrole : u.role = .cause) :
    u.around = [] := by
  have hfits := h.fits
  cases h with
  | @loop id bounds block hsome hfew hbounds hbody span₁ span₂ span₃ span =>
    exfalso
    rcases Stmt.mem_uses_loop.1 hu with rfl | ⟨e, he, hu⟩ | ⟨t, ht, hu⟩
    · cases hrole
    · obtain rfl := (hbounds e he).1.uses u hu
      cases hrole
    · -- A statement of the block would have a `from`.
      obtain ⟨e, he⟩ := List.exists_mem_of_ne_nil _ (((hbody t ht).fits _ u hu).cause hrole)
      have hmem : e ∈ Stmt.causesOf block := Stmt.mem_causesOf.2 ⟨t, ht, he⟩
      rw [show Stmt.causesOf block = [] from hnone] at hmem
      cases hmem
  | _ =>
    refine List.eq_nil_iff_forall_not_mem.2 fun id hid => ?_
    rcases (hfits [] u hu).around id hid with hid | hid
    · cases hid
    · cases hid

end

end SpriteStage.Script

/-! ## Programs -/

namespace SpriteStage

open Script (Stmt Use)

/-- **The variable of a loop is read only where the compiler looks at a name alone.**  Every name in a
    text that compiles is read as the handle of an operation, as `range` or `float`, or in a `raise`;
    none is read as a value.  So no name within a loop is the variable of that loop or of a loop around
    it, and rounds without a variable leave the meaning of all names as it was, under three conditions:
    no loop takes the handle, `range` or `float` for its variable; no `raise` within a loop has a
    `from`; and no `raise` names a variable of a loop around it. -/
theorem loop_variables_are_unread {handle text : String} {p : Program}
    (h : (compile handle text).1 = .ok p) :
    ∃ script, Script.read text.toList = .ok script ∧
      (∀ u ∈ Stmt.usesOf [] script, u.IsAllowed handle) ∧
      ((∀ id ∈ Stmt.loopVariablesOf script, id ≠ handle ∧ id ≠ "range" ∧ id ≠ "float") →
        (∀ s ∈ script, Stmt.causesOf s.body = []) →
        (∀ u ∈ Stmt.usesOf [] script, u.role = .exception → u.name ∉ u.around) →
        ∀ u ∈ Stmt.usesOf [] script, u.name ∉ u.around) := by
  obtain ⟨script, hscript, hdocumented⟩ := documented_of_compile h
  have hfits : ∀ u ∈ Stmt.usesOf [] script, ∃ s ∈ script, u ∈ s.uses [] ∧ u.Fits handle [] s := by
    intro u hu
    obtain ⟨s, hs, hu⟩ := Stmt.mem_usesOf.1 hu
    exact ⟨s, hs, hu, (hdocumented s hs).fits [] u hu⟩
  refine ⟨script, hscript, fun u hu => ?_, fun hvariables hcauses hraised u hu hcaptured => ?_⟩
  · obtain ⟨s, -, -, h⟩ := hfits u hu
    exact h.allowed
  · obtain ⟨s, hs, hmem, h⟩ := hfits u hu
    -- A name that is captured is the variable of a loop of the text.
    have hbound : u.name ∈ Stmt.loopVariablesOf script := by
      rcases h.around u.name hcaptured with hid | hid
      · cases hid
      · exact Stmt.mem_loopVariablesOf.2 ⟨s, hs, hid⟩
    obtain ⟨hhandle, hrange, hfloat⟩ := hvariables u.name hbound
    have hallowed := h.allowed
    unfold Use.IsAllowed at hallowed
    cases hrole : u.role with
    | handle =>
      rw [hrole] at hallowed
      exact hhandle hallowed
    | function =>
      rw [hrole] at hallowed
      exact hallowed.elim hrange hfloat
    | exception => exact hraised u hu hrole hcaptured
    | cause =>
      rw [(hdocumented s hs).around_of_cause (hcauses s hs) hmem hrole] at hcaptured
      cases hcaptured
    | operand =>
      rw [hrole] at hallowed
      exact hallowed

/-- Two loops, one in the other, with every kind of name in the inner one. -/
theorem loop_variables_are_unread_of_nested_loops :
    let text := "for i in range(2):\n    for j in range(3):\n" ++
      "        runtime.turn(float('inf'))\n        raise ValueError(1)\n"
    ∃ p script, (compile "runtime" text).1 = .ok p ∧ Script.read text.toList = .ok script ∧
      (Stmt.usesOf [] script).length = 5 ∧ ∀ u ∈ Stmt.usesOf [] script, u.name ∉ u.around := by
  intro text
  have hcompiles : (compile "runtime" text).1.toOption.any (fun p => p.length = 1) = true := by
    decide +kernel
  have hread : (Script.read text.toList).toOption.any (fun script =>
      (Stmt.usesOf [] script).length = 5 ∧
      (∀ id ∈ Stmt.loopVariablesOf script, id ≠ "runtime" ∧ id ≠ "range" ∧ id ≠ "float") ∧
      (∀ s ∈ script, (Stmt.causesOf s.body).length = 0) ∧
      ∀ u ∈ Stmt.usesOf [] script, u.role = .exception → u.name ∉ u.around) = true := by
    decide +kernel
  obtain ⟨p, hp, -⟩ := exists_of_any_toOption hcompiles
  obtain ⟨script, hscript, hscript'⟩ := exists_of_any_toOption hread
  obtain ⟨hlength, hvariables, hcauses, hraised⟩ := of_decide_eq_true hscript'
  obtain ⟨script', hsame, -, hunread⟩ := loop_variables_are_unread hp
  obtain rfl : script = script' := Except.ok.inj (hscript.symm.trans hsame)
  exact ⟨p, script, hp, hscript, hlength,
    hunread hvariables (fun s hs => List.length_eq_zero_iff.1 (hcauses s hs)) hraised⟩

/-- A loop may take the handle for its variable and still call operations on it. -/
theorem handle_is_captured :
    let text := "for runtime in range(2):\n    runtime.move(1)\n"
    ∃ p script, (compile "runtime" text).1 = .ok p ∧ Script.read text.toList = .ok script ∧
      ∃ u ∈ Stmt.usesOf [] script, u.role = .handle ∧ u.name ∈ u.around := by
  intro text
  have hcompiles : (compile "runtime" text).1.toOption.any (fun p => p.length = 1) = true := by
    decide +kernel
  have hread : (Script.read text.toList).toOption.any (fun script =>
      ∃ u ∈ Stmt.usesOf [] script, u.role = .handle ∧ u.name ∈ u.around) = true := by
    decide +kernel
  obtain ⟨p, hp, -⟩ := exists_of_any_toOption hcompiles
  obtain ⟨script, hscript, hcaptured⟩ := exists_of_any_toOption hread
  exact ⟨p, script, hp, hscript, of_decide_eq_true hcaptured⟩

end SpriteStage
