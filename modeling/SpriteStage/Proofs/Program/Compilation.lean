import SpriteStage.Proofs.Failure
import SpriteStage.Proofs.Program.Transcript

/-!
# Compiling transcripts

The statements that the grammar reads from the lexemes of a transcript compile to its program.  The
variables of the loops around a statement do not matter, because no constant of a transcript mentions
a name.

## Main definitions

* `Compiles` says that compiling succeeds, whatever warnings came before
-/

namespace SpriteStage

open Script (Lexeme)
open Script.Grammar (rules Closes EndsBlock statement statements block simple simples)
open Script.Parser (Reads ReadsMany Fails)

/-! ## Successful compiling -/

/-- Compiling succeeds, whatever warnings came before. -/
def Compiles {α : Type} (m : Compiling α) (a : α) : Prop := ∀ ws, ∃ ws', m.run ws = (.ok a, ws')

section

variable {α β : Type} {m : Compiling α} {a : α}

theorem Compiles.pure : Compiles (Pure.pure a) a := fun ws => ⟨ws, rfl⟩

theorem Compiles.bind {f : α → Compiling β} {b : β} (h : Compiles m a) (hf : Compiles (f a) b) :
    Compiles (m >>= f) b := by
  intro ws
  obtain ⟨ws', hm⟩ := h ws
  obtain ⟨ws'', hb⟩ := hf ws'
  refine ⟨ws'', ?_⟩
  rw [run_bind_apply, hm]
  exact hb

theorem Compiles.lift {x : Refusable α} (h : x = .ok a) : Compiles (liftExcept x) a := by
  subst h
  exact .pure

theorem Compiles.warn (w : Warning) : Compiles (warn w) () := fun ws => ⟨ws ++ [w], rfl⟩

end

/-! ## Sentences -/

section

variable {handle : List Char} {cs : List Char} {xs rest : List Lexeme}

theorem expressionInstruction_call {handle : String} {op : Operation} {v : Value}
    {argument : Script.Expr} (hargument : Denotes v argument) (scope : List String)
    (span span₁ span₂ span₃ span₄ : Script.Span) :
    expressionInstruction handle scope span (.await
      (.call (.attribute (.name handle span₁) op.name span₂) [argument] [] span₃) span₄) =
      .ok (some (.call op v)) := by
  rw [expressionInstruction, callInstruction, if_neg (not_not.2 rfl), Operation.ofName?_name]
  show Except.map some (Except.map (Instruction.call op) (constant scope argument)) = _
  rw [hargument scope]
  rfl

theorem failInstruction_call {id message : String} {argument : Script.Expr}
    (hargument : Denotes (.text message) argument) (scope : List String)
    (span span₁ span₂ : Script.Span) :
    failInstruction scope span (some (.call (.name id span₁) [argument] [] span₂)) =
      .ok (.fail message) := by
  rw [failInstruction]
  show (constant scope argument >>= fun v => _) = _
  rw [hargument scope]
  rfl

/-- The grammar reads a line of its own, and it compiles to what the line stands for. -/
theorem Sentence.reads {i : Option Instruction} (h : Sentence handle i cs xs) (n : ℕ) :
    Reads (simple (rules (n + 4))) xs ((.newline, []) :: rest) fun s =>
      ∀ scope, Compiles (compileStmt (Script.identifier handle) scope s) i := by
  have hnewline : Closes (.newline, []) := .inr (.inr rfl)
  have hclosing : Closes (.operator, [')']) := .inl rfl
  cases h with
  | call op h =>
    rename_i v ds ys
    -- The argument of the call is the constant.
    obtain ⟨y, ys, rfl, hy, hwalrus⟩ := h.opens
    have hargument : ∀ rest, Reads (rules (n + 4)).expression (y :: ys)
        ((.operator, [')']) :: rest) (Denotes v) := fun rest => h.reads (n + 1) hclosing
    refine (Script.Grammar.reads_simple_await (Script.Grammar.reads_expressionOrAssignment
      (Script.Grammar.reads_starExpressions (by decide) hnewline
        (Script.Grammar.reads_expression_awaited (by decide) (by decide) (by simp) hnewline
          (Script.Grammar.reads_await (Script.Grammar.reads_primary_method hy
            (fun rest => hwalrus _ _) hargument hnewline)))) ?_)).imp ?_
    · rintro e ⟨operand, span, rfl, -⟩
      rfl
    · rintro s ⟨e, span, rfl, operand, span₄, rfl, argument, span₁, span₂, span₃, rfl, hargument⟩
        scope
      rw [compileStmt, Script.identifier_toList (isNormal_operation op)]
      exact .lift (expressionInstruction_call hargument scope span span₁ span₂ span₃ span₄)
  | fail message =>
    have hmessage : ∀ rest, Reads (rules (n + 3)).expression [(.text, Text.quoteList message)]
        ((.operator, [')']) :: rest) (Denotes (.text (String.ofList message))) :=
      fun rest => (Constant.operand (Operand.text message)).reads n hclosing
    refine (Script.Grammar.reads_simple_raise (Script.Grammar.reads_expression_call (by simp)
      (fun _ => Script.Grammar.fails_walrus (by simp)) hmessage hnewline)).imp ?_
    rintro s ⟨e, span, rfl, argument, span₁, span₂, rfl, hargument⟩ scope
    rw [compileStmt, failInstruction_call hargument]
    exact .lift rfl
  | pass =>
    refine Script.Grammar.reads_simple_pass.imp ?_
    rintro s ⟨span, rfl⟩ scope
    rw [compileStmt]
    exact .pure

/-! ## Transcripts -/

/-- Statements compile to a program, whatever loops are around them. -/
def Means (handle : List Char) (p : Program) (found : List Script.Stmt) : Prop :=
  ∀ scope, Compiles (compileStmts (Script.identifier handle) scope found) p

theorem Means.nil : Means handle [] [] := fun _ => .pure

theorem Means.cons {i : Option Instruction} {p : Program} {s : Script.Stmt}
    {more : List Script.Stmt}
    (h : ∀ scope, Compiles (compileStmt (Script.identifier handle) scope s) i)
    (hmore : Means handle p more) : Means handle (i.toList ++ p) (s :: more) := by
  intro scope
  rw [compileStmts]
  exact (h scope).bind ((hmore scope).bind .pure)

/-- The loop over a range compiles to that many rounds. -/
theorem compiles_loop {n : ℕ} (hn : n < 2 ^ 63) {argument : Script.Expr}
    (hargument : Denotes (.int n) argument) {body : Program} {inside : List Script.Stmt}
    (hinside : Means handle body inside) (id : String) (scope : List String)
    (span span₁ span₂ span₃ : Script.Span) :
    Compiles (compileStmt (Script.identifier handle) scope
      (.loop (.name id span₁) (.call (.name "range" span₂) [argument] [] span₃) inside [] span))
      (some (.loop (.int n) body)) := by
  -- The range has as many members as the loop goes rounds, and that number is not too large for it.
  have hlength : rangeLength 0 n 1 = n := by
    rw [rangeLength, if_pos Int.one_pos]
    split <;> omega
  have hmax : (n : ℤ) ≤ Int64.maxValue.toInt := by
    have hlimit : Int64.maxValue.toInt = 2 ^ 63 - 1 := by decide
    omega
  have hrounds : rounds scope (.call (.name "range" span₂) [argument] [] span₃) = .ok n := by
    show ([argument].mapM (constant scope) >>= rangeOf span₃) = _
    rw [List.mapM_cons, List.mapM_nil, hargument scope]
    show (if (rangeLength 0 n 1 : ℤ) ≤ Int64.maxValue.toInt then _ else _) = _
    rw [hlength, if_pos hmax]
  rw [compileStmt]
  -- The variable of the loop is in the scope of the block, which does not matter to it.
  refine (Compiles.lift hrounds).bind ((hinside _).bind ?_)
  -- A loop that does not go round is compiled with a warning.
  by_cases hzero : n = 0
  · subst hzero
    exact (Compiles.warn _).bind .pure
  · rw [if_neg hzero]
    exact .pure

/-- A line has a lexeme of its own before its end. -/
theorem Transcript.two_le_length {level : ℕ} {p : Program}
    (h : Transcript handle level p cs xs) (hne : cs ≠ []) : 2 ≤ xs.length := by
  cases h with
  | nil => exact absurd rfl hne
  | sentence hlevel h htail =>
    obtain ⟨s, -, ys, rfl⟩ := h.opens
    simp
    omega
  | loop hlevel hcounter hn hdigits hbody hinner htail =>
    simp [loopLexemes]

/-- No transcript starts with `else`. -/
theorem Transcript.exists_next {level : ℕ} {p : Program} {x : Lexeme}
    (h : Transcript handle level p cs xs) (rest : List Lexeme) (hx : EndsBlock x) :
    ∃ y ys, xs ++ x :: rest = y :: ys ∧ y ≠ (.keyword, "else".toList) := by
  cases h with
  | nil => exact ⟨x, rest, rfl, hx.ne (by decide)⟩
  | sentence hlevel h htail =>
    obtain ⟨s, hs, ys, rfl⟩ := h.opens
    refine ⟨_, _, rfl, fun heq => ?_⟩
    have hall : ∀ s ∈ ["await", "raise", "pass"], s.toList ≠ "else".toList := by decide
    exact hall s hs (Prod.mk.inj heq).2
  | loop hlevel hcounter hn hdigits hbody hinner htail => exact ⟨_, _, rfl, by decide⟩

/-- A statement comes before those of a program. -/
theorem reads_step {r : Script.Rules} {inner : Script.Parser (List Script.Stmt)} {y : Lexeme}
    {ys : List Lexeme} {i : Option Instruction} {p : Program}
    (h : Reads (statement r inner) (y :: xs) (ys ++ rest) fun found =>
      ∃ s, found = [s] ∧ ∀ scope, Compiles (compileStmt (Script.identifier handle) scope s) i)
    (hmore : ReadsMany (statement r inner) ys rest fun found => Means handle p found.flatten) :
    ReadsMany (statement r inner) (y :: xs ++ ys) rest
        (fun found => Means handle (i.toList ++ p) found.flatten) ∧
      (y :: xs ++ ys ≠ [] → Reads (statements r inner) (y :: xs ++ ys) rest
        (Means handle (i.toList ++ p))) := by
  constructor
  · refine ReadsMany.cons h hmore ?_
    rintro found more ⟨s, rfl, hs⟩ hprogram
    exact Means.cons hs hprogram
  · exact fun _ => Script.Grammar.reads_statements h hmore fun s more => .cons

theorem reads_range {n : ℕ} (hdigits : (Decimal.digitsOf n).length ≤ digitLimit) (k : ℕ) :
    Reads (Script.Grammar.starExpressions (rules (k + 3)))
      [(.name, "range".toList), (.operator, ['(']), (.numeral, Decimal.digitsOf n),
        (.operator, [')'])] ((.operator, [':']) :: rest) fun e => ∃ argument span span',
      e = .call (.name "range" span) [argument] [] span' ∧ Denotes (.int n) argument := by
  have hcolon : Closes (.operator, [':']) := .inr (.inl rfl)
  have hbound : ∀ rest, Reads (rules (k + 3)).expression [(.numeral, Decimal.digitsOf n)]
      ((.operator, [')']) :: rest) (Denotes (.int n)) :=
    fun rest => (Constant.operand (Operand.digits hdigits)).reads k (.inl rfl)
  exact Script.Grammar.reads_starExpressions (by decide) hcolon
    (Script.Grammar.reads_expression_call (by simp)
      (fun _ => Script.Grammar.fails_walrus (by simp)) hbound hcolon)

/-- The grammar reads a loop with its block, and it compiles to that loop. -/
theorem reads_loop {counter : List Char} {n : ℕ} (hn : n < 2 ^ 63)
    (hdigits : (Decimal.digitsOf n).length ≤ digitLimit) (k : ℕ)
    {inner : Script.Parser (List Script.Stmt)} {bs : List Lexeme} {x : Lexeme} {body : Program}
    (hblock : Reads inner bs (x :: rest) (Means handle body)) (hx : x ≠ (.keyword, "else".toList)) :
    Reads (statement (rules (k + 4)) inner) (loopLexemes counter n ++ bs) (x :: rest) fun found =>
      ∃ s, found = [s] ∧ ∀ scope,
        Compiles (compileStmt (Script.identifier handle) scope s) (some (.loop (.int n) body)) := by
  have hcounter : ∀ rest, Reads (rules (k + 4)).primary [(.name, counter)]
      ((.keyword, "in".toList) :: rest) fun e => ∃ span, e = .name (Script.identifier counter) span :=
    fun rest => Script.Grammar.reads_primary (by decide) Script.Grammar.reads_atom_name
  refine (Script.Grammar.reads_loop (r := rules (k + 4)) hcounter
    (fun rest => reads_range hdigits k) hblock hx).imp ?_
  rintro found ⟨s, hfound, range, inside, span, span₁, hs, ⟨argument, span₂, span₃, hrange,
    hargument⟩, hinside⟩
  refine ⟨s, hfound, fun scope => ?_⟩
  rw [hs, hrange]
  exact compiles_loop hn hargument hinside (Script.identifier counter) scope span₁ span span₂ span₃

/-- **The grammar reads a transcript** before the end of a block, with fuel for its blocks, and the
    statements compile to the program. -/
theorem Transcript.reads {level : ℕ} {p : Program} (h : Transcript handle level p cs xs) (k : ℕ)
    {fuel : ℕ} (hfuel : xs.length ≤ fuel) {x : Lexeme} (hx : EndsBlock x) (rest : List Lexeme) :
    ReadsMany (statement (rules (k + 4)) (block (rules (k + 4)) fuel)) xs (x :: rest)
        (fun found => Means handle p found.flatten) ∧
      (xs ≠ [] → Reads (statements (rules (k + 4)) (block (rules (k + 4)) fuel)) xs (x :: rest)
        (Means handle p)) := by
  induction h generalizing fuel x rest with
  | nil => exact ⟨.nil (Script.Grammar.fails_statement hx.beginsNone) .nil, fun hne => absurd rfl hne⟩
  | @sentence level i p cs ds xs ys hlevel h htail ih =>
    obtain ⟨s, hs, zs, hxs⟩ := id h.opens
    -- The statement goes over lexemes of its own.
    have hlength : ys.length ≤ fuel := by
      simp at hfuel
      omega
    have hline : Reads (simples (rules (k + 4))) (xs ++ [(.newline, [])]) (ys ++ x :: rest) _ :=
      Script.Grammar.reads_simples (h.reads k)
    subst hxs
    rw [List.append_cons]
    exact reads_step (Script.Grammar.reads_statement_simple hs hline) (ih hlength hx rest).1
  | @loop level n counter body p inner ds ws ys hlevel hcounter hn hdigits hbody hinner htail ihbody
      ih =>
    -- One unit of fuel goes into the block.
    obtain ⟨fuel, rfl⟩ : ∃ m, fuel = m + 1 := ⟨fuel - 1, by simp [loopLexemes] at hfuel; omega⟩
    have hlength : ws.length ≤ fuel ∧ ys.length ≤ fuel + 1 := by
      simp [loopLexemes] at hfuel
      omega
    have hws : ws ≠ [] := List.ne_nil_of_length_pos (Nat.lt_of_succ_lt (hbody.two_le_length hinner))
    -- The grammar looks past the block, for an `else`.
    obtain ⟨z, zs, hzs, hz⟩ := htail.exists_next rest hx
    have hblock : Reads (block (rules (k + 4)) (fuel + 1))
        ((.newline, []) :: (.indent, []) :: (ws ++ [(.dedent, [])])) (z :: zs) (Means handle body) :=
      Script.Grammar.reads_block ((ihbody hlength.1 (.inl rfl) (z :: zs)).2 hws)
    have hloop : Reads _ (loopLexemes counter n ++ _) _ _ := reads_loop hn hdigits k hblock hz
    rw [← hzs] at hloop
    have hstep := reads_step hloop (ih hlength.2 hx rest).1
    simpa [loopLexemes] using hstep

end

end SpriteStage
