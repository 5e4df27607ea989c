import SpriteStage.Proofs.Script.Abreast.Simple
import SpriteStage.Script.Grammar.Compound

/-!
# Statements and blocks abreast

A statement with blocks may be gone on with after a block, so it looks at what comes after its last line.
At the end of the pairs a new statement begins in both sequences, and none goes on with the one before.
Only decorators are no whole statement: they need a definition after them.

## Main results

* `abreast_statement` compares statements
* `abreast_block` compares blocks
-/

namespace SpriteStage.Script.Grammar

open Pairing

variable {g : Pairing} {k n : ℕ} {r r' : Rules} {block block' : Parser (List Stmt)}

/-- Parsers of blocks that agree from a place on. -/
def Blocks (g : Pairing) (k : ℕ) (block block' : Parser (List Stmt)) : Prop :=
  ∀ n, k ≤ n → g.Crosses 1 n block block' (List.Forall₂ (Stmt.Alike g.Spans))

/-! ## Parts of statements -/

theorem abreast_colon : g.Along 1 n colon colon fun _ _ => True :=
  .look .diagnose fun _ _ _ => Along.op

theorem looks_line : g.Looks n line line fun _ _ => True :=
  fun hn => .peek (.inl hn) fun _ _ _ _ _ => .pure ⟨rfl, trivial⟩

theorem Blocks.body (h : Blocks g k block block') (hn : k ≤ n) (what : String) (l l' : ℕ) :
    g.Crosses 1 n (body block what l) (body block' what l') (List.Forall₂ (Stmt.Alike g.Spans)) :=
  Looks.diagnose.cross fun _ _ _ => h n hn

theorem abreast_otherwise (h : Blocks g k block block') (hn : k ≤ n) :
    g.Follows n (otherwise block) (otherwise block') (List.Forall₂ (Stmt.Alike g.Spans)) := by
  refine .nextWord (by decide) (fun hw => looks_line.cross fun l l' _ => ?_) (.pure .nil)
  exact (Along.skip hw).weak.cross fun m hm _ _ _ => Along.demand.weak.cross fun i hi _ _ _ =>
    (h.body (hi.of_le (hm.of_le hn)) _ _ _).weak

theorem abreast_cleanup (h : Blocks g k block block') (hn : k ≤ n) :
    g.Follows n (cleanup block) (cleanup block') fun _ _ => True := by
  refine .nextWord (by decide) (fun hw => looks_line.cross fun l l' _ => ?_) (.pure trivial)
  exact (Along.skip hw).weak.cross fun m hm _ _ _ => Along.demand.weak.cross fun i hi _ _ _ =>
    (h.body (hi.of_le (hm.of_le hn)) _ _ _).weak.bind fun _ _ _ _ _ => .pure trivial

/-- The span of a form that no program may use. -/
theorem crosses_formed (hw : g.Written n) {p q : Parser StmtForm} (h : g.Crosses 1 n p q Eq) :
    g.Crosses 1 n (formed p) (formed q) (Stmt.Alike g.Spans) :=
  .spanned hw (h.bind fun _ _ _ _ hform => .pure fun _ _ hspan => hform ▸ .other hspan)

section

variable (hr : g.SameRules k r r') (h : Blocks g k block block') (hn : k ≤ n)

include hr h hn

/-! ## Branches and loops -/

theorem abreast_branches {i j : ℕ} (hi : g.pairs.length ≤ n + i) (hj : g.pairs.length ≤ n + j)
    (keyword : String) :
    g.Crosses 1 n (branches r block i keyword) (branches r' block' j keyword) fun _ _ => True := by
  induction i generalizing n j keyword with
  | zero => exact fun hlt => absurd hlt (by omega)
  | succ i ih =>
    cases j with
    | zero => exact fun hlt => absurd hlt (by omega)
    | succ j =>
      refine looks_line.cross fun l l' _ => Along.word.cross fun m hm _ _ _ => ?_
      have hm' := hm.of_le hn
      refine (hr.named m hm').weak.cross fun m₁ hm₁ _ _ _ => abreast_colon.weak.cross fun m₂ hm₂ _ _ _ => ?_
      have hm₂' := hm₂.of_le (hm₁.of_le hm')
      have hle := ((hm.after hm₁).after hm₂).le
      refine (h.body hm₂' _ _ _).weak.bind fun m₃ hm₃ _ _ _ => ?_
      have hle' := hm₃.le
      refine .nextWord (by decide) (fun _ => ?_) ?_
      · exact (ih (hm₃.of_le hm₂') (by omega) (by omega) _).weak
      · exact (abreast_otherwise h (hm₃.of_le hm₂')).bind fun _ _ _ _ _ => .pure trivial

theorem abreast_conditional : g.Crosses 1 n (conditional r block) (conditional r' block') Eq :=
  Looks.fuel.cross fun _ _ hij => (abreast_branches hr h hn hij.1 hij.2 _).bind fun _ _ _ _ _ => .pure rfl

theorem abreast_repetition : g.Crosses 1 n (repetition r block) (repetition r' block') Eq := by
  refine looks_line.cross fun l l' _ => Along.word.cross fun m hm _ _ _ => ?_
  have hm' := hm.of_le hn
  refine (hr.named m hm').weak.cross fun i hi _ _ _ => abreast_colon.weak.cross fun j hj _ _ _ => ?_
  have hj' := hj.of_le (hi.of_le hm')
  exact (h.body hj' _ _ _).weak.bind fun _ hc _ _ _ =>
    (abreast_otherwise h (hc.of_le hj')).bind fun _ _ _ _ _ => .pure rfl

theorem abreast_loop :
    g.Crosses 1 n (loop r block) (loop r' block') fun f f' =>
      ∀ σ τ, g.Spans σ τ → Stmt.Alike g.Spans (f σ) (f' τ) := by
  refine looks_line.cross fun l l' _ => Along.word.cross fun m hm _ _ _ => ?_
  have hm' := hm.of_le hn
  refine (abreast_targetsIn hr hm').weak.cross fun i hi _ _ htarget => ?_
  have hi' := hi.of_le hm'
  refine (hr.starExpressions i hi').weak.cross fun j hj _ _ hrange => ?_
  refine abreast_colon.weak.cross fun c hc _ _ _ => ?_
  have hc' := hc.of_le (hj.of_le hi')
  exact (h.body hc' _ _ _).weak.bind fun _ hb _ _ hinside =>
    (abreast_otherwise h (hb.of_le hc')).bind fun _ _ _ _ hafter =>
      .pure fun _ _ hspan => .loop htarget hrange hinside hafter hspan

/-! ## `with` and `try` -/

omit h in
theorem abreast_withItem : g.Along 1 n (withItem r) (withItem r') fun _ _ => True := by
  refine (hr.expression n hn).bind fun m hm _ _ _ => ?_
  refine (Along.optional (d := 1) (V := fun _ _ => True) ?_).bind fun _ _ _ _ _ => .pure trivial
  refine Along.word.bind fun i hi _ _ _ => .orElse ?_ (.look .diagnose fun _ _ _ => .stuck)
  refine (abreast_starTarget hr (hi.of_le (hm.of_le hn))).weak.bind fun j _ _ _ _ => ?_
  refine .look (.nextIs fun _ _ _ _ => rfl) fun b b' hb => ?_
  obtain ⟨rfl, -⟩ := hb
  exact Looks.require.along

theorem abreast_managed (form : StmtForm) :
    g.Crosses 1 n (managed r block form) (managed r' block' form) Eq := by
  refine looks_line.cross fun l l' _ => Along.word.cross fun m hm _ _ _ => ?_
  have hm' := hm.of_le hn
  have hitems {n : ℕ} (hn : k ≤ n) : g.Along 1 n (Parser.separated "," (withItem r))
      (Parser.separated "," (withItem r')) _ := .separated fun _ hi => abreast_withItem hr (hi.of_le hn)
  have hhead : g.Along 0 m
      ((do
        Parser.op "("
        let _ ← Parser.separated "," (withItem r)
        let _ ← Parser.trailingComma
        Parser.op ")"
        Parser.op ":") <|> (do
        let _ ← Parser.separated "," (withItem r)
        colon))
      ((do
        Parser.op "("
        let _ ← Parser.separated "," (withItem r')
        let _ ← Parser.trailingComma
        Parser.op ")"
        Parser.op ":") <|> (do
        let _ ← Parser.separated "," (withItem r')
        colon)) fun _ _ => True := by
    refine .orElse (Along.op.weak.bind fun i hi _ _ _ => ?_) ?_
    · exact (hitems (hi.of_le hm')).weak.bind fun _ _ _ _ _ => Along.trailingComma.bind fun _ _ _ _ _ =>
        Along.op.weak.bind fun _ _ _ _ _ => Along.op.weak
    · exact (hitems hm').weak.bind fun _ _ _ _ _ => abreast_colon.weak
  exact hhead.cross fun _ hi _ _ _ => (h.body (hi.of_le hm') _ _ _).weak.bind fun _ _ _ _ _ => .pure rfl

omit hr h hn in
theorem looks_blameHandler (isStar : Bool) :
    g.Looks n (blameHandler r isStar) (blameHandler r' isStar) fun _ _ => True :=
  Looks.diagnose.bind fun _ _ _ => .ite (fun _ => .diagnose) fun _ => .diagnose

theorem abreast_handler (isStar : Bool) :
    g.Crosses 1 n (handler r block isStar) (handler r' block' isStar) fun _ _ => True := by
  refine looks_line.cross fun l l' _ => Along.word.cross fun m hm _ _ _ => ?_
  have hm' := hm.of_le hn
  -- What is caught, up to the colon, and the block.
  have hcaught {n : ℕ} (hn : k ≤ n) : g.Along 0 n
      ((do
        if isStar || !(← Parser.nextOp ":") then
          let _ ← r.expression
          newName
        colon) <|> (do blameHandler r isStar; Parser.stuck))
      ((do
        if isStar || !(← Parser.nextOp ":") then
          let _ ← r'.expression
          newName
        colon) <|> (do blameHandler r' isStar; Parser.stuck)) fun _ _ => True := by
    refine .orElse (.look .nextOp fun b b' hb => ?_) (.look (looks_blameHandler _) fun _ _ _ => .stuck)
    obtain ⟨rfl, -⟩ := hb
    exact .ite (fun _ => (hr.expression n hn).weak.bind fun _ _ _ _ _ => abreast_newName.bind
      fun _ _ _ _ _ => abreast_colon.weak) fun _ => abreast_colon.weak
  cases isStar with
  | true => exact Along.op.weak.cross fun i hi _ _ _ => (hcaught (hi.of_le hm')).cross fun _ hj _ _ _ =>
      (h.body (hj.of_le (hi.of_le hm')) _ _ _).weak.bind fun _ _ _ _ _ => .pure trivial
  | false => exact Looks.notOp.cross fun _ _ _ => (hcaught hm').cross fun _ hj _ _ _ =>
      (h.body (hj.of_le hm') _ _ _).weak.bind fun _ _ _ _ _ => .pure trivial

omit hr h hn in
/-- At the end of the pairs there is no handler. -/
theorem handler_of_end (isStar : Bool) {V : ℕ → Unit → Unit → Prop} :
    g.Agree g.pairs.length (handler r block isStar) (handler r' block' isStar) V := by
  have hline : g.Agree g.pairs.length line line fun m _ _ => m = g.pairs.length :=
    .peek_of_end fun _ _ _ _ => .pure rfl
  refine hline.bind fun m _ _ hm => ?_
  subst hm
  exact (Agree.word_of_end (V := fun _ _ _ => False) (by decide)).bind fun _ _ _ h => h.elim

/-- Handlers follow a block, if there are any. -/
theorem abreast_handlers (isStar : Bool) :
    g.Follows n (Parser.some' (handler r block isStar)) (Parser.some' (handler r' block' isStar))
      fun _ _ => True := by
  intro hlevel
  refine (Agree.some' (J := g.Passes 0 n) (R := fun _ _ => True) (fun m hm => ?_) .refl).imp
    fun _ _ _ hV => ⟨hV.2.1, trivial⟩
  refine .of_le fun hle => ?_
  rcases hle.lt_or_eq with hlt | rfl
  · exact (abreast_handler hr h (hm.of_le hn) isStar hlt (hm.level hlevel)).imp fun _ _ _ hV =>
      ⟨hV.1.le, hm.after hV.1, trivial⟩
  · exact handler_of_end isStar

omit hr h hn in
/-- Whether the handlers have a star. -/
theorem follows_ahead :
    g.Follows n (Parser.ahead (Parser.word "except" *> Parser.op "*"))
      (Parser.ahead (Parser.word "except" *> Parser.op "*")) fun o o' => o.isSome = o'.isSome := by
  refine .of_end ?_ ?_
  · exact (Looks.ahead (Along.word.seqRight fun _ _ => Along.op.weak)).along.crosses
  · exact Agree.ahead (V := fun _ _ _ => False)
      ((Agree.word_of_end (V := fun _ _ _ => False) (by decide)).bind fun _ _ _ h => h.elim)

theorem abreast_attempt : g.Crosses 1 n (attempt r block) (attempt r' block') Eq := by
  refine looks_line.cross fun l l' _ => Along.word.cross fun m hm _ _ _ => Along.demand.weak.cross
    fun i hi _ _ _ => ?_
  have hi' := hi.of_le (hm.of_le hn)
  refine (h.body hi' _ _ _).weak.bind fun j hj _ _ _ => ?_
  have hj' := hj.of_le hi'
  refine .nextWord (by decide) (fun _ => ?_) ?_
  · exact ((abreast_cleanup h hj').bind fun _ _ _ _ _ => .pure rfl).crosses
  refine Follows.diagnose.bind fun c hc _ _ _ => follows_ahead.bind
    fun m₁ hm₁ o o' ho => ?_
  have hm₁' := hm₁.of_le (hc.of_le hj')
  rw [ho]
  refine (abreast_handlers hr h hm₁' _).bind fun m₂ hm₂ _ _ _ => Follows.diagnose.bind
    fun m₃ hm₃ _ _ _ => ?_
  have hm₃' := hm₃.of_le (hm₂.of_le hm₁')
  exact (abreast_otherwise h hm₃').bind fun _ hm₄ _ _ _ =>
    (abreast_cleanup h (hm₄.of_le hm₃')).bind fun _ _ _ _ _ => .pure rfl

/-! ## Definitions -/

theorem abreast_function (form : StmtForm) :
    g.Crosses 1 n (function r block form) (function r' block' form) Eq := by
  refine looks_line.cross fun l l' _ => Along.word.cross fun m hm _ _ _ => Along.name.weak.cross
    fun i hi _ _ _ => Along.demand.weak.cross fun j hj _ _ _ => ?_
  have hj' := hj.of_le (hi.of_le (hm.of_le hn))
  refine (abreast_parameters hr hj' _ _).optional.cross fun m₁ hm₁ _ _ _ => Along.op.weak.cross
    fun m₂ hm₂ _ _ _ => ?_
  have hm₂' := hm₂.of_le (hm₁.of_le hj')
  refine (Along.op.seqRight fun _ hc => (hr.expression _ (hc.of_le hm₂')).weak).optional.cross
    fun m₃ hm₃ _ _ _ => Along.demand.weak.cross fun m₄ hm₄ _ _ _ => ?_
  exact (h.body (hm₄.of_le (hm₃.of_le hm₂')) _ _ _).weak.bind fun _ _ _ _ _ => .pure rfl

omit h in
theorem abreast_bases : g.Along 1 n (bases r) (bases r') fun _ _ => True := by
  refine Along.op.bind fun m hm _ _ _ => .look .nextOp fun b b' hb => ?_
  obtain ⟨rfl, hw⟩ := hb
  refine .ite (fun hb => (Along.skip (hw hb)).weak) fun _ => .orElse ?_
    (.look looks_blameArguments fun _ _ _ => .stuck)
  exact (abreast_argumentList hr (hm.of_le hn)).weak.bind fun _ _ _ _ _ =>
    Along.trailingComma.bind fun _ _ _ _ _ => Along.op.weak

theorem abreast_classDefinition :
    g.Crosses 1 n (classDefinition r block) (classDefinition r' block') Eq := by
  refine looks_line.cross fun l l' _ => Along.word.cross fun m hm _ _ _ => Along.name.weak.cross
    fun i hi _ _ _ => ?_
  have hi' := hi.of_le (hm.of_le hn)
  refine (abreast_bases hr hi').optional.cross fun j hj _ _ _ => abreast_colon.weak.cross
    fun c hc _ _ _ => ?_
  exact (h.body (hc.of_le (hj.of_le hi')) _ _ _).weak.bind fun _ _ _ _ _ => .pure rfl

/-- A function begins with a keyword. -/
theorem abreast_formed_function (form : StmtForm) :
    g.Crosses 1 n (formed (function r block form)) (formed (function r' block' form))
      (Stmt.Alike g.Spans) := by
  by_cases hw : g.Written n
  · exact crosses_formed hw (abreast_function hr h hn form)
  -- Without one it is stuck.
  have hstuck : g.Crosses 1 n (function r block form) (function r' block' form) fun _ _ => False :=
    looks_line.cross fun _ _ _ => Along.word.cross fun m hm _ _ _ =>
      absurd (hm.written n le_rfl hm.le) hw
  exact Looks.here.cross fun _ _ _ => Crosses.bind (V := fun _ _ => False)
    (hstuck.bind fun _ _ _ _ hfalse => hfalse.elim) fun _ _ _ _ hfalse => hfalse.elim

/-- Definitions after decorators, within a block. -/
theorem abreast_decorated (hdeep : g.Deep n) :
    g.Crosses 1 n (decorated r block) (decorated r' block') (Stmt.Alike g.Spans) := by
  intro hlt hlevel
  have hdecorator (m : ℕ) (hm : g.Passes 0 n m) :
      g.Crosses 1 m (Parser.op "@" *> r.named *> Parser.kind .newline)
        (Parser.op "@" *> r'.named *> Parser.kind .newline) fun _ _ => True :=
    (Along.op.seqRight fun i hi => (hr.named i (hi.of_le (hm.of_le hn))).weak).cross
      fun _ _ _ _ _ => Crosses.newline.weak
  have hdecorators := hdeep.some' hdecorator fun hopen => Agree.bind (V := fun _ _ _ => False)
    (Agree.bind (V := fun _ _ _ => False) (.op_of_open hopen) fun _ _ _ hfalse => hfalse.elim)
      fun _ _ _ hfalse => hfalse.elim
  refine hdecorators.bind fun m _ _ hm => .of_le fun hle => ?_
  refine .peek ((hm.1.deep hdeep).lt hle) fun t span depth firstLine hp => ?_
  obtain ⟨hm', -⟩ := List.getElem?_eq_some_iff.1 hp
  have hk := hm.1.of_le hn
  have hwritten {s : String} (ht : t.isKeyword s = true) : g.Written m :=
    ⟨_, hp, Token.isWritten_of_isKeyword ht⟩
  have hdefinition : ∀ {p q : Parser Stmt}, g.Crosses 1 m p q (Stmt.Alike g.Spans) →
      g.Agree m p q fun i s s' => g.Passes 1 n i ∧ Stmt.Alike g.Spans s s' := fun hpq =>
    (hpq hm' (hm.1.level hlevel)).imp fun _ _ _ hV => ⟨hm.1.before hV.1, hV.2⟩
  refine .ite (fun ht => hdefinition (crosses_formed (hwritten ht) (abreast_classDefinition hr h hk)))
    fun _ => .ite (fun ht => hdefinition (crosses_formed (hwritten ht) ?_))
      fun _ => hdefinition (abreast_formed_function hr h hk _)
  exact (Along.skip (hwritten ht)).cross fun i hi _ _ _ => (abreast_function hr h (hi.of_le hk) _).weak

theorem abreast_asynchronous (hw : g.Written n) :
    g.Crosses 1 n (asynchronous r block) (asynchronous r' block') (Stmt.Alike g.Spans) := by
  refine crosses_formed hw (Along.word.cross fun m hm _ _ _ => .peek fun t span depth firstLine hp => ?_)
  have hm' := hm.of_le hn
  refine .ite (fun _ => (abreast_function hr h hm' _).weak) fun _ =>
    .ite (fun _ => (abreast_managed hr h hm' _).weak) fun _ => ?_
  exact (abreast_loop hr h hm').weak.bind fun _ _ _ _ _ => .pure rfl

/-! ## `match` -/

omit h in
theorem abreast_subject : g.Along 1 n (subject r) (subject r') fun _ _ => True := by
  refine (hr.starNamed n hn).bind fun m hm e d hed => .look .nextOp fun b b' hb => ?_
  obtain ⟨rfl, -⟩ := hb
  rw [isStarred_of_alike hed]
  exact .ite (fun _ => (abreast_moreParts hr (hm.of_le hn)).bind fun _ _ _ _ _ => .pure trivial)
    fun _ => Looks.require.along

theorem abreast_case : g.Crosses 1 n (case r block) (case r' block') fun _ _ => True := by
  refine looks_line.cross fun l l' _ => Along.softWord.cross fun m hm _ _ _ => Looks.fuel.cross
    fun i j hij => ?_
  have hm' := hm.of_le hn
  refine (abreast_patterns hij.1 hij.2).weak.cross fun m₁ hm₁ _ _ _ => ?_
  have hm₁' := hm₁.of_le hm'
  refine (Along.word.seqRight fun _ hc => (hr.named _ (hc.of_le hm₁')).weak).optional.cross
    fun m₂ hm₂ _ _ _ => abreast_colon.weak.cross fun m₃ hm₃ _ _ _ => ?_
  exact (h.body (hm₃.of_le (hm₂.of_le hm₁')) _ _ _).weak.bind fun _ _ _ _ _ => .pure trivial

theorem abreast_selection : g.Crosses 1 n (selection r block) (selection r' block') Eq := by
  refine looks_line.cross fun l l' _ => Along.softWord.cross fun m hm _ _ _ => ?_
  have hm' := hm.of_le hn
  refine (abreast_subject hr hm').weak.cross fun m₁ hm₁ _ _ _ => abreast_colon.weak.cross
    fun m₂ hm₂ _ _ _ => Looks.diagnose.cross fun _ _ _ => Crosses.newline.weak.bind fun m₃ hm₃ _ _ _ => ?_
  have hm₃' := hm₃.of_le (hm₂.of_le (hm₁.of_le hm'))
  refine Follows.indented (u := fun _ => StmtForm.match) (w := fun _ => StmtForm.match)
    fun i hi hdeep => ?_
  refine (hdeep.some' (fun j hj => abreast_case hr h (hj.of_le (hm₃'.trans hi))) fun hopen => ?_).imp
    fun _ _ _ hV => ⟨hV.1.weak, rfl⟩
  exact Agree.bind (V := fun _ _ _ => False) (.peek_of_open hopen) fun _ _ _ hfalse => hfalse.elim

/-! ## Blocks and scripts -/

/-- **A statement** is read abreast, unless it is a definition after decorators that does not stand in a
    block. -/
theorem abreast_statement
    (hdeep : g.Deep n ∨ ∀ p, g.pairs[n]? = some p → p.1.isOperator "@" = false) :
    g.Crosses 1 n (statement r block) (statement r' block') (List.Forall₂ (Stmt.Alike g.Spans)) := by
  refine .peek fun t span depth firstLine hp => ?_
  extract_lets single
  have hsingle {p q : Parser Stmt} (hpq : g.Crosses 1 n p q (Stmt.Alike g.Spans)) :
      g.Crosses 1 n (single p) (single q) (List.Forall₂ (Stmt.Alike g.Spans)) :=
    .map (hpq.imp fun _ _ hs => .cons hs .nil)
  have hwritten {s : String} (ht : t.isKeyword s = true) : g.Written n :=
    ⟨_, hp, Token.isWritten_of_isKeyword ht⟩
  refine .ite (fun _ => hsingle (abreast_formed_function hr h hn _)) fun _ =>
    .ite (fun ht => hsingle (abreast_decorated hr h hn (hdeep.resolve_right fun hat => ?_))) fun _ =>
    .ite (fun ht => hsingle (abreast_asynchronous hr h hn (hwritten ht))) fun _ =>
    .ite (fun ht => hsingle (crosses_formed (hwritten ht) (abreast_conditional hr h hn))) fun _ =>
    .ite (fun ht => hsingle (crosses_formed (hwritten ht) (abreast_classDefinition hr h hn))) fun _ =>
    .ite (fun ht => hsingle (crosses_formed (hwritten ht) (abreast_managed hr h hn _))) fun _ =>
    .ite (fun ht => hsingle (.spanned (hwritten ht) (abreast_loop hr h hn))) fun _ =>
    .ite (fun ht => hsingle (crosses_formed (hwritten ht) (abreast_attempt hr h hn))) fun _ =>
    .ite (fun ht => hsingle (crosses_formed (hwritten ht) (abreast_repetition hr h hn))) fun _ =>
    .ite (fun ht => .orElse (hsingle (crosses_formed ⟨_, hp, Token.isWritten_of_isName ht⟩
      (abreast_selection hr h hn))) (abreast_simples hr hn)) fun _ => abreast_simples hr hn
  rw [hat _ hp] at ht
  cases ht

/-- Statements within a block. -/
theorem abreast_statements (hdeep : g.Deep n) :
    g.Agree n (statements r block) (statements r' block') fun m ss ts =>
      g.Passes 1 n m ∧ List.Forall₂ (Stmt.Alike g.Spans) ss ts :=
  .map ((hdeep.some' (fun _ hm => abreast_statement hr h (hm.of_le hn) (.inl (hm.deep hdeep)))
    fun hopen => .peek_of_open hopen).imp fun _ _ _ hV => ⟨hV.1, List.rel_flatten hV.2⟩)

end

/-- **Blocks** are read abreast from where on their fuels last. -/
theorem abreast_block (hr : g.SameRules k r r') {i j : ℕ} (hi : g.pairs.length ≤ k + i)
    (hj : g.pairs.length ≤ k + j) : Blocks g k (Grammar.block r i) (Grammar.block r' j) := by
  induction i generalizing k j with
  | zero => exact fun n hn hlt => absurd hlt (by omega)
  | succ i ih =>
    cases j with
    | zero => exact fun n hn hlt => absurd hlt (by omega)
    | succ j =>
      have hinner : Blocks g (k + 1) (Grammar.block r i) (Grammar.block r' j) :=
        ih (hr.mono k.le_succ) (by omega) (by omega)
      refine fun n hn => (Looks.nextIs fun _ _ _ _ => rfl).cross fun b b' hb => ?_
      obtain ⟨rfl, p, hp, hkind⟩ := hb
      refine .ite (fun hb => ?_) fun _ => abreast_simples hr hn
      have hnewline : p.1.kind = .newline := beq_iff_eq.1 (hkind.symm.trans hb)
      -- The end of the line is not written, but it is in both texts.
      have hskip : g.Crosses 1 n Parser.skip Parser.skip fun _ _ => True := by
        refine fun _ _ => (Agree.skip hp (.inr (by rw [Token.isVisible, hnewline]))).imp ?_
        rintro m - - rfl
        refine ⟨⟨le_rfl, ?_⟩, trivial⟩
        rw [nesting_eq hp, Token.closes, hnewline, zero_add]
      refine hskip.bind fun m hm _ _ _ => Follows.diagnose.bind fun l hl _ _ _ => ?_
      have hkl : k + 1 ≤ l := by have := hm.le; have := hl.le; omega
      refine Follows.indented (u := fun ss => ss) (w := fun ss => ss) fun c hc hdeep => ?_
      exact (abreast_statements (hr.mono k.le_succ) hinner (hkl.trans hc) hdeep).imp
        fun _ _ _ hV => ⟨hV.1.weak, hV.2⟩

/-- **Whole scripts** are read abreast. -/
theorem abreast_script (hopen : g.IsOpen) {fuel fuel' : ℕ} (h : g.pairs.length ≤ fuel)
    (h' : g.pairs.length ≤ fuel') :
    g.Agree 0 (script (rules fuel) fuel) (script (rules fuel') fuel') fun _ ss ts =>
      (∃ p ∈ g.pairs, p.1.kind = .finish) ∧ List.Forall₂ (Stmt.Alike g.Spans) ss ts := by
  have hr : g.SameRules 0 (rules fuel) (rules fuel') := sameRules (by omega) (by omega)
  have hblocks : Blocks g 0 (Grammar.block (rules fuel) fuel) (Grammar.block (rules fuel') fuel') :=
    abreast_block hr (by omega) (by omega)
  refine (Agree.optional (abreast_statements hr hblocks le_rfl (.inl hopen))).bind fun m o o' ho => ?_
  have hfound : List.Forall₂ (Stmt.Alike g.Spans) (o.getD []) (o'.getD []) := by
    rcases ho with ⟨rfl, rfl, -⟩ | ⟨ss, ts, rfl, rfl, -, hst⟩
    · exact .nil
    · exact hst
  refine Agree.bind (V := fun _ _ _ => ∃ p ∈ g.pairs, p.1.kind = .finish) ?_ fun _ _ _ hfinish =>
    .pure ⟨hfinish, hfound⟩
  refine .of_le fun hle => (Agree.token (hle.lt_or_eq.imp_right fun _ => hopen) (fun _ _ _ _ => rfl)
    fun t ht => ?_).bind fun _ t u htu => .pure ⟨_, List.mem_of_getElem? htu.2.1, beq_iff_eq.1 htu.2.2.1⟩
  exact .inr (by rw [Token.isVisible, beq_iff_eq.1 ht])

end SpriteStage.Script.Grammar
