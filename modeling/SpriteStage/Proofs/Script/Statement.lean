import SpriteStage.Proofs.Script.Expression
import SpriteStage.Script.Grammar.Compound

/-!
# Reading statements

The statements of a listing are an awaited call, a `raise` and a `pass`, each on a line of its own,
and a `for` with a block below it.  A statement begins with a keyword that tells which one it is.

## Main definitions

* `Script.Grammar.EndsBlock` are the lexemes that follow the last statement of a block
* `Script.Grammar.BeginsNone` are the lexemes with which no statement begins

## Main results

* `Script.Grammar.fails_statement` holds before those lexemes
-/

namespace SpriteStage.Script.Grammar

open SpriteStage.Script.Parser

/-! ## Simple statements -/

section

variable {r : Rules} {x : Lexeme} {ys rest : List Lexeme}

/-- No assignment comes after an expression at the end of a line. -/
theorem reads_expressionOrAssignment {Q : Expr → Prop}
    (h : Reads (starExpressions r) ys ((.newline, []) :: rest) Q)
    (hQ : ∀ e, Q e → isSingleTarget e = false) :
    Reads (expressionOrAssignment r) ys ((.newline, []) :: rest) fun s =>
      ∃ e span, s = .expr e span ∧ Q e := by
  have hend : ∀ {s : String}, ((.newline, []) : Lexeme) ≠ (.operator, s.toList) := fun h => by
    cases (Prod.mk.inj h).1
  refine Reads.here.bind_look fun start _ => Reads.outlook.bind_look fun before hbefore =>
    h.bind_then fun e he => ?_
  -- The assignments are tried first, and no sign of one follows.
  have hassignment : Fails (assignment r e) ((.newline, []) :: rest) :=
    Fails.bind_look (Reads.nextOp_ne hend) fun b hb => by
      subst hb
      show Fails (require (isSingleTarget e) >>= _) _
      rw [hQ e he]
      exact Fails.require.bind_left
  have hcommitted : Reads (isCommitted e) [] ((.newline, []) :: rest) (· = false) := by
    have hnone : Fails augmentedOperator ((.newline, []) :: rest) :=
      (Fails.token fun t ht => List.any_eq_false.2 fun s _ => by
        rw [isOperator_eq, ht]
        simp).bind_left
    refine (Reads.ahead_none hnone).bind_look fun found hfound => .pure ?_
    rw [hQ e he]
    rfl
  refine .orElse_right hassignment.bind_left (hcommitted.bind_look fun b hb => ?_)
  subst hb
  -- The plain mode does not blame an assignment that is not there.
  have hblame : Reads (blameAssignment r before e) [] ((.newline, []) :: rest) fun _ => True :=
    (Reads.diagnoseFrom hbefore).bind_look fun _ _ => (Reads.diagnoseFrom hbefore).bind_look fun _ _ =>
      (Reads.diagnoseFrom hbefore).bind_look fun _ _ => (Reads.diagnoseFrom hbefore).bind_look
        fun _ _ => (Reads.diagnoseFrom hbefore).bind_look fun _ _ => Reads.diagnose
  exact Reads.bind_end hblame fun _ _ => Reads.spanFrom.bind_look fun span _ =>
    .pure ⟨e, span, rfl, he⟩

/-- A statement that starts with `await` is an expression. -/
theorem reads_simple_await {Q : Stmt → Prop}
    (h : Reads (expressionOrAssignment r) ((.keyword, "await".toList) :: ys) rest Q) :
    Reads (simple r) ((.keyword, "await".toList) :: ys) rest Q :=
  Reads.bind_ahead Reads.peek fun t ht => by
    simp only [isKeyword_eq, ht]
    exact h

/-- A `raise` with an expression. -/
theorem reads_simple_raise {Q : Expr → Prop} (h : Reads r.expression ys ((.newline, []) :: rest) Q) :
    Reads (simple r) ((.keyword, "raise".toList) :: ys) ((.newline, []) :: rest) fun s =>
      ∃ e span, s = .raise (some e) none span ∧ Q e :=
  Reads.bind_ahead Reads.peek fun t ht => by
    have hfrom : Fails (word "from" *> r.expression) ((.newline, []) :: rest) :=
      (Fails.word (by decide)).bind_left
    have hfound : Reads (do
        let e ← r.expression
        let cause ← optional (word "from" *> r.expression)
        return (e, cause)) ys ((.newline, []) :: rest) fun found => found.2 = none ∧ Q found.1 :=
      h.bind_then fun e he => (Reads.optional_none hfrom).bind_look fun cause hcause =>
        .pure ⟨hcause, he⟩
    simp only [isKeyword_eq, ht]
    refine Reads.spanned (Reads.bind_one Reads.word fun _ _ => Reads.bind_then
      (Reads.optional_some hfound) fun found ⟨⟨e, cause⟩, heq, hcause, he⟩ =>
        .pure fun span => ⟨e, span, ?_, he⟩)
    subst hcause
    rw [heq]
    rfl

theorem reads_simple_pass :
    Reads (simple r) [(.keyword, "pass".toList)] rest fun s => ∃ span, s = .pass span :=
  Reads.bind_ahead Reads.peek fun t ht => by
    simp only [isKeyword_eq, ht]
    exact Reads.spanned (Reads.skip.bind_then fun _ _ => .pure fun span => ⟨span, rfl⟩)

/-- A line with a single simple statement. -/
theorem reads_simples {Q : Stmt → Prop} (h : Reads (simple r) ys ((.newline, []) :: rest) Q) :
    Reads (simples r) (ys ++ [(.newline, [])]) rest fun found => ∃ s, found = [s] ∧ Q s := by
  have hend : ((.newline, []) : Lexeme) ≠ (.operator, [';']) := by decide
  exact (Reads.separated (s := ";") h hend).bind fun found hfound =>
    Reads.bind_ahead (Reads.optional_none (Fails.op (s := ";") hend)) fun _ _ =>
      (Reads.kind (x := (.newline, []))).bind_then fun _ _ => .pure hfound

end

/-! ## Blocks -/

/-- The lexemes that follow the last statement of a block or of a script. -/
def EndsBlock (x : Lexeme) : Prop := x = (.dedent, []) ∨ x = (.finish, [])

section

variable {r : Rules} {block : Parser (List Stmt)} {x : Lexeme} {xs ys rest : List Lexeme}

/-- A statement that is no compound one is read as a line of simple statements. -/
theorem reads_statement_simple {s : String} {Q : Stmt → Prop}
    (hs : s ∈ ["await", "raise", "pass"])
    (h : Reads (simples r) ((.keyword, s.toList) :: ys) rest fun found => ∃ s, found = [s] ∧ Q s) :
    Reads (statement r block) ((.keyword, s.toList) :: ys) rest fun found =>
      ∃ s, found = [s] ∧ Q s :=
  Reads.bind_ahead Reads.peek fun t ht => by
    -- The keywords are told apart by their characters.
    have hall : ∀ s ∈ ["await", "raise", "pass"],
        ∀ w ∈ ["def", "async", "if", "class", "with", "for", "try", "while"], s.toList ≠ w.toList := by
      decide
    have hword : ∀ w ∈ ["def", "async", "if", "class", "with", "for", "try", "while"],
        t.isKeyword w = false := fun w hw => by
      rw [isKeyword_eq, ht, beq_eq_false_iff_ne]
      exact fun heq => hall s hs w hw (Prod.mk.inj heq).2
    have hat : t.isOperator "@" = false := by
      rw [isOperator_eq, ht]
      rfl
    have hmatch : t.isName "match" = false := by
      rw [isName_eq, ht]
      rfl
    simp only [hword "def" (by decide), hword "async" (by decide), hword "if" (by decide),
      hword "class" (by decide), hword "with" (by decide), hword "for" (by decide),
      hword "try" (by decide), hword "while" (by decide), hat, hmatch]
    exact h

/-- The statements of a block, of which there is at least one. -/
theorem reads_statements {Q : List Stmt → Prop} {R : Stmt → Prop}
    (h : Reads (statement r block) xs (ys ++ rest) fun found => ∃ s, found = [s] ∧ R s)
    (hmore : ReadsMany (statement r block) ys rest fun found => Q found.flatten)
    {Q' : List Stmt → Prop} (hQ : ∀ s more, R s → Q more → Q' (s :: more)) :
    Reads (statements r block) (xs ++ ys) rest Q' := by
  refine Reads.map (h.bind fun found ⟨s, hfound, hs⟩ => (Reads.many hmore).bind_then
    fun more hmore => .pure ?_)
  subst hfound
  exact hQ s more.flatten hs hmore

/-- A name is the only target of a `for`. -/
theorem reads_targetsIn {cs : List Char}
    (h : Reads r.primary [(.name, cs)] ((.keyword, "in".toList) :: rest) fun e =>
      ∃ span, e = .name (identifier cs) span) :
    Reads (targetsIn r) [(.name, cs), (.keyword, "in".toList)] rest fun e =>
      ∃ span, e = .name (identifier cs) span := by
  have hcomma : ((.keyword, "in".toList) : Lexeme) ≠ (.operator, [',']) := by decide
  have htarget : Reads (starTarget r) [(.name, cs)] ((.keyword, "in".toList) :: rest) fun e =>
      ∃ span, e = .name (identifier cs) span := by
    refine Reads.bind_ahead (Reads.nextOp_ne (s := "*") ?_) fun b hb => ?_
    · exact fun heq => by cases (Prod.mk.inj heq).1
    · subst hb
      refine h.bind_then fun e ⟨span, he⟩ => ?_
      subst he
      exact Reads.bind_end Reads.require fun _ _ => .pure ⟨span, rfl⟩
  have hall : Reads (targets r) [(.name, cs)] ((.keyword, "in".toList) :: rest) fun e =>
      ∃ span, e = .name (identifier cs) span := by
    refine Reads.here.bind_look fun _ _ => htarget.bind_then fun e he =>
      (Reads.many_nil (Fails.op hcomma).bind_left).bind_look fun more hmore =>
        (Reads.trailingComma hcomma).bind_look fun comma hcomma => ?_
    subst hmore hcomma
    exact .pure he
  exact .orElse_left (hall.bind_one fun e he => Reads.word.bind_then fun _ _ => .pure he)

/-- **A `for`** over an expression, with a block. -/
theorem reads_loop {cs : List Char} {Q : Expr → Prop} {R : List Stmt → Prop} {bs : List Lexeme}
    (hprimary : ∀ rest, Reads r.primary [(.name, cs)] ((.keyword, "in".toList) :: rest) fun e =>
      ∃ span, e = .name (identifier cs) span)
    (hrange : ∀ rest, Reads r.starExpressions ys ((.operator, [':']) :: rest) Q)
    (hblock : Reads block bs (x :: rest) R) (hx : x ≠ (.keyword, "else".toList)) :
    Reads (statement r block)
      ((.keyword, "for".toList) :: (.name, cs) :: (.keyword, "in".toList) :: ys ++
        (.operator, [':']) :: bs) (x :: rest) fun found =>
      ∃ s, found = [s] ∧ ∃ range inside span span',
        s = .loop (.name (identifier cs) span) range inside [] span' ∧ Q range ∧ R inside := by
  have hline : ∀ {y rest}, Reads line [] (y :: rest) fun _ => True :=
    Reads.peek.bind_look fun _ _ => .pure trivial
  have hcolon : ∀ rest, Reads colon [(.operator, [':'])] rest fun _ => True := fun rest =>
    Reads.bind_ahead Reads.diagnose fun _ _ => Reads.op
  have hbody : ∀ what l, Reads (body block what l) bs (x :: rest) R := fun _ _ =>
    Reads.bind_look Reads.diagnose fun _ _ => hblock
  -- No `else` belongs to the loop.
  have hafter : Reads (otherwise block) [] (x :: rest) (· = []) :=
    (Reads.nextWord_ne hx).bind_look fun b hb => by
      subst hb
      exact .pure rfl
  refine Reads.bind_ahead Reads.peek fun t ht => ?_
  simp only [isKeyword_eq, isOperator_eq, ht]
  refine Reads.map (Reads.spanned (Reads.bind_ahead hline fun l _ => Reads.bind_one
    Reads.word fun _ _ => Reads.bind_two (reads_targetsIn (hprimary _)) fun target ⟨span, htarget⟩ =>
      (hrange _).bind fun range hr => Reads.bind_one (hcolon _) fun _ _ =>
        Reads.bind_then (hbody _ l)
          fun inside hi => hafter.bind_look fun after hafter => .pure fun span' => ?_))
  subst htarget hafter
  exact ⟨_, rfl, range, inside, span, span', rfl, hr, hi⟩

/-! ## Where no statement begins -/

theorem EndsBlock.ne (hx : EndsBlock x) {k : TokenKind} {cs : List Char} (hk : k ≠ .dedent ∧ k ≠ .finish) :
    x ≠ (k, cs) := by
  rintro rfl
  rcases hx with heq | heq
  · exact hk.1 (Prod.mk.inj heq).1
  · exact hk.2 (Prod.mk.inj heq).1

/-- The lexemes with which no statement begins: those that are not written, and the keywords that go on with a
    statement. -/
def BeginsNone (x : Lexeme) : Prop :=
  x.1 ∈ [.newline, .indent, .dedent, .finish] ∨
    ∃ w ∈ ["else", "elif", "except", "finally"], x = (.keyword, w.toList)

/-- The keywords with which statements and expressions begin. -/
def beginnings : List String := [
  "def", "async", "if", "class", "with", "for", "try", "while", "return", "import", "from", "raise", "pass",
  "del", "yield", "assert", "break", "continue", "global", "nonlocal", "lambda", "not", "await", "True",
  "False", "None"]

theorem EndsBlock.beginsNone (hx : EndsBlock x) : BeginsNone x := by
  rcases hx with rfl | rfl
  · exact .inl (by decide)
  · exact .inl (by decide)

section

variable (hx : BeginsNone x)

include hx

theorem BeginsNone.ne_word {s : String} (hs : s ∈ beginnings) : x ≠ (.keyword, s.toList) := by
  have hall : ∀ s ∈ beginnings, ∀ w ∈ ["else", "elif", "except", "finally"], s.toList ≠ w.toList := by decide
  rintro rfl
  rcases hx with hkind | ⟨w, hw, heq⟩
  · simp at hkind
  · exact hall s hs w hw (Prod.mk.inj heq).2

theorem BeginsNone.ne_written {k : TokenKind} {cs : List Char} (hk : k ∈ [.name, .numeral, .text, .operator]) :
    x ≠ (k, cs) := by
  rintro rfl
  rcases hx with hkind | ⟨w, -, heq⟩
  · simp only [List.mem_cons, List.not_mem_nil, or_false] at hk hkind
    rcases hk with rfl | rfl | rfl | rfl <;> simp at hkind
  · obtain rfl : k = .keyword := (Prod.mk.inj heq).1
    simp at hk

/-- None of the keywords with which statements begin is there. -/
theorem BeginsNone.isKeyword {t : Token} (ht : t.lexeme = x) : ∀ s ∈ beginnings, t.isKeyword s = false := by
  intro s hs
  rw [isKeyword_eq, ht]
  exact beq_eq_false_iff_ne.2 (hx.ne_word hs)

theorem fails_atom : Fails (atom r) (x :: rest) :=
  Fails.bind_look Reads.here fun _ _ => Fails.bind_look Reads.peek fun t ht => by
    have hwords := hx.isKeyword ht
    have hop : ∀ s, t.isOperator s = false := fun s => by
      rw [isOperator_eq, ht]
      exact beq_eq_false_iff_ne.2 (hx.ne_written (by decide))
    rcases hx with hkind | ⟨w, hw, rfl⟩
    · rw [kind_eq ht]
      simp only [List.mem_cons, List.not_mem_nil, or_false] at hkind
      rcases hkind with h | h | h | h <;> rw [h] <;> exact .stuck
    · -- The keyword is no constant.
      rw [kind_eq ht]
      simp only [constantOf?, hwords "True" (by decide), hwords "False" (by decide), hwords "None" (by decide),
        hop]
      exact .stuck

omit hx in
theorem fails_chains {found : List (List (String × Infix))} {operand : Parser Expr}
    (h : Fails operand (x :: rest)) : Fails (chains found operand) (x :: rest) := by
  induction found with
  | nil => exact h
  | cons ops found ih =>
    exact Fails.bind_look Reads.here fun _ _ => (show Fails _ _ from ih).bind_left

/-- There is no expression where no statement begins. -/
theorem fails_expression : Fails (expression r) (x :: rest) := by
  have hword : ∀ {s : String}, s ∈ beginnings → x ≠ (.keyword, s.toList) := hx.ne_word
  -- Nothing can be read on any level, from the operands up.
  have hprimary : Fails (primary r) (x :: rest) :=
    Fails.bind_look Reads.here fun _ _ => (fails_atom hx).bind_left
  have hawaited : Fails (awaited r) (x :: rest) :=
    Fails.bind_look (Reads.nextWord_ne (hword (by decide))) fun b hb => by
      subst hb
      exact hprimary
  have hfactor : Fails (factor r (power r (awaited r))) (x :: rest) :=
    Fails.bind_look Reads.peek fun t ht => by
      have hnone : signs.find? (t.isOperator ·.1) = none := by
        rw [List.find?_eq_none]
        intro op _
        rw [isOperator_eq, ht, beq_iff_eq]
        exact hx.ne_written (by decide)
      rw [hnone]
      exact Fails.bind_look Reads.here fun _ _ => hawaited.bind_left
  have hinversion : Fails (inverted r) (x :: rest) :=
    Fails.bind_look (Reads.nextWord_ne (hword (by decide))) fun b hb => by
      subst hb
      exact Fails.bind_look Reads.here fun _ _ => (fails_chains hfactor).bind_left
  have hdisjunction : Fails (disjunction r) (x :: rest) :=
    Fails.bind_look Reads.here fun _ _ => Fails.bind_left
      (Fails.bind_look Reads.here fun _ _ => hinversion.bind_left)
  refine Fails.bind_look (Reads.nextWord_ne (hword (by decide))) fun b hb => ?_
  subst hb
  exact Fails.bind_look Reads.outlook fun _ _ => Fails.bind_look Reads.here
    fun _ _ => hdisjunction.bind_left

/-- **There is no statement** before the end of a block, nor before what goes on with a statement. -/
theorem fails_statement : Fails (statement r block) (x :: rest) := by
  have hop : ∀ {s : String}, x ≠ (.operator, s.toList) := hx.ne_written (by decide)
  have hname : ∀ {s : String}, x ≠ (.name, s.toList) := hx.ne_written (by decide)
  -- Neither an expression nor a keyword is there to start a statement.
  have hstar : Fails (starExpressions r) (x :: rest) :=
    Fails.bind_look Reads.here fun _ _ => Fails.bind_left
      (Fails.bind_look (Reads.nextOp_ne hop) fun b hb => by
        subst hb
        exact fails_expression hx)
  have hsimple : Fails (simple r) (x :: rest) :=
    Fails.bind_look Reads.peek fun t ht => by
      have hwords := hx.isKeyword ht
      simp only [beginnings, List.forall_mem_cons] at hwords
      simp only [hwords]
      exact Fails.bind_look Reads.here fun _ _ => Fails.bind_look Reads.outlook
        fun _ _ => hstar.bind_left
  refine Fails.bind_look Reads.peek fun t ht => ?_
  have hat : t.isOperator "@" = false := by
    rw [isOperator_eq, ht]
    exact beq_eq_false_iff_ne.2 hop
  have hmatch : t.isName "match" = false := by
    rw [isName_eq, ht]
    exact beq_eq_false_iff_ne.2 hname
  have hwords := hx.isKeyword ht
  simp only [beginnings, List.forall_mem_cons] at hwords
  simp only [hwords, hat, hmatch]
  exact Fails.bind_left (Fails.bind_left hsimple)

end

/-! ## Blocks and scripts -/

/-- **A block** below a line. -/
theorem reads_block {fuel : ℕ} {Q : List Stmt → Prop}
    (h : Reads (statements r (Grammar.block r fuel)) xs ((.dedent, []) :: rest) Q) :
    Reads (Grammar.block r (fuel + 1))
      ((.newline, []) :: (.indent, []) :: (xs ++ [(.dedent, [])])) rest Q := by
  refine Reads.bind_ahead (Reads.nextIs (b := true) fun t ht => ?_) fun b hb => ?_
  · rw [kind_eq ht]
    rfl
  subst hb
  exact Reads.bind_one Reads.skip fun _ _ => Reads.bind_ahead Reads.diagnose
    fun _ _ => Reads.bind_one (Reads.kind (x := (.indent, []))) fun _ _ => h.bind
      fun inside hi => Reads.bind_then (Reads.kind (x := (.dedent, []))) fun _ _ => .pure hi

/-- **A script** ends with the end marker. -/
theorem reads_script {fuel : ℕ} {Q : List Stmt → Prop}
    (h : Reads (optional (statements r (Grammar.block r fuel))) xs [(.finish, [])]
      fun found => Q (found.getD [])) :
    Reads (script r fuel) (xs ++ [(.finish, [])]) [] Q :=
  h.bind fun _ hfound => Reads.bind_then (Reads.kind (x := (.finish, []))) fun _ _ => .pure hfound

end

end SpriteStage.Script.Grammar
