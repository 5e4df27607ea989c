import SpriteStage.Proofs.Script.Lexing
import SpriteStage.Script.Grammar.Basic

/-!
# What parsers read

A parser in the plain mode decides by the lexemes of the tokens alone.  `Reads` says which lexemes a
parser goes over, given those that follow, and what it makes of them; `Fails` says before which
lexemes a parser is stuck.  Each way of putting parsers together has a rule for either.

## Main definitions

* `Script.Outlook.Faces` are the lexemes that a parser in the plain mode has before it
* `Script.Parser.Reads` and `Script.Parser.Fails` are the two outcomes of a parser
-/

namespace SpriteStage.Script

/-- The lexemes that a parser in the plain mode has before it, all of which could be read. -/
structure Outlook.Faces (s : Outlook) (xs : List Lexeme) : Prop where
  plain : s.diagnosing = false
  lexemes : s.rest.map Token.lexeme = xs
  whole : ∀ t ∈ s.rest, ∀ reason, t.kind ≠ .broken reason

namespace Parser

variable {α β : Type}

theorem bind_apply (p : Parser α) (f : α → Parser β) (s : Outlook) :
    (p >>= f) s = match p s with
      | .ok a t => f a t
      | .stuck seen => .stuck seen
      | .objection o seen => .objection o seen := rfl

theorem orElse_apply (p q : Parser α) (s : Outlook) :
    (p <|> q) s = match p s with
      | .stuck seen => q { s with seen := seen }
      | r => r := rfl

/-- A parser goes over some lexemes if certain others follow, and what it gives has a property. -/
def Reads (p : Parser α) (xs rest : List Lexeme) (Q : α → Prop) : Prop :=
  ∀ s : Outlook, s.Faces (xs ++ rest) → ∃ a t, p s = .ok a t ∧ Q a ∧ t.Faces rest

/-- A parser is stuck before some lexemes. -/
def Fails (p : Parser α) (xs : List Lexeme) : Prop :=
  ∀ s : Outlook, s.Faces xs → ∃ seen, p s = .stuck seen

section

variable {p q : Parser α} {f : α → Parser β} {xs ys rest : List Lexeme} {Q Q' : α → Prop}
  {R : β → Prop}

theorem Reads.imp (h : Reads p xs rest Q) (himp : ∀ a, Q a → Q' a) : Reads p xs rest Q' := by
  intro s hs
  obtain ⟨a, t, heq, ha, ht⟩ := h s hs
  exact ⟨a, t, heq, himp a ha, ht⟩

/-! ## Sequences -/

theorem Reads.pure {a : α} (ha : Q a) : Reads (Pure.pure a) [] rest Q := fun s hs =>
  ⟨a, s, rfl, ha, hs⟩

/-- One part comes after the other. -/
theorem Reads.bind (h : Reads p xs (ys ++ rest) Q) (hf : ∀ a, Q a → Reads (f a) ys rest R) :
    Reads (p >>= f) (xs ++ ys) rest R := by
  intro s hs
  rw [List.append_assoc] at hs
  obtain ⟨a, t, heq, ha, ht⟩ := h s hs
  obtain ⟨b, u, heq', hb, hu⟩ := hf a ha t ht
  refine ⟨b, u, ?_, hb, hu⟩
  rw [bind_apply, heq]
  exact heq'

/-- A look at what follows comes before a part. -/
theorem Reads.bind_look (h : Reads p [] (xs ++ rest) Q) (hf : ∀ a, Q a → Reads (f a) xs rest R) :
    Reads (p >>= f) xs rest R := h.bind hf

/-- A look at the next lexeme comes before a part that goes over it. -/
theorem Reads.bind_ahead {x : Lexeme} (h : Reads p [] (x :: (xs ++ rest)) Q)
    (hf : ∀ a, Q a → Reads (f a) (x :: xs) rest R) : Reads (p >>= f) (x :: xs) rest R := h.bind hf

theorem Reads.bind_end (h : Reads p [] rest Q) (hf : ∀ a, Q a → Reads (f a) [] rest R) :
    Reads (p >>= f) [] rest R := h.bind hf

/-- A part of one lexeme comes first. -/
theorem Reads.bind_one {x : Lexeme} (h : Reads p [x] (xs ++ rest) Q)
    (hf : ∀ a, Q a → Reads (f a) xs rest R) : Reads (p >>= f) (x :: xs) rest R := h.bind hf

theorem Reads.bind_two {x y : Lexeme} (h : Reads p [x, y] (xs ++ rest) Q)
    (hf : ∀ a, Q a → Reads (f a) xs rest R) : Reads (p >>= f) (x :: y :: xs) rest R := h.bind hf

/-- A part comes before a look at what follows. -/
theorem Reads.bind_then (h : Reads p xs rest Q) (hf : ∀ a, Q a → Reads (f a) [] rest R) :
    Reads (p >>= f) xs rest R := by
  have hbind : Reads (p >>= f) (xs ++ []) rest R := h.bind hf
  rwa [List.append_nil] at hbind

/-- What is stuck in its first part is stuck. -/
theorem Fails.bind_left (h : Fails p xs) : Fails (p >>= f) xs := by
  intro s hs
  obtain ⟨seen, heq⟩ := h s hs
  refine ⟨seen, ?_⟩
  rw [bind_apply, heq]

theorem Fails.bind (h : Reads p xs rest Q) (hf : ∀ a, Q a → Fails (f a) rest) :
    Fails (p >>= f) (xs ++ rest) := by
  intro s hs
  obtain ⟨a, t, heq, ha, ht⟩ := h s hs
  obtain ⟨seen, heq'⟩ := hf a ha t ht
  refine ⟨seen, ?_⟩
  rw [bind_apply, heq]
  exact heq'

theorem Fails.bind_look (h : Reads p [] rest Q) (hf : ∀ a, Q a → Fails (f a) rest) :
    Fails (p >>= f) rest := Fails.bind h hf

theorem Fails.bind_one {x : Lexeme} (h : Reads p [x] rest Q) (hf : ∀ a, Q a → Fails (f a) rest) :
    Fails (p >>= f) (x :: rest) := Fails.bind h hf

/-- What is made of a part. -/
theorem Reads.map {g : α → β} (h : Reads p xs rest fun a => R (g a)) : Reads (g <$> p) xs rest R :=
  h.bind_then fun _ ha => .pure ha

theorem Fails.map {g : α → β} (h : Fails p xs) : Fails (g <$> p) xs := h.bind_left

/-! ## Alternatives -/

theorem Reads.orElse_left (h : Reads p xs rest Q) : Reads (p <|> q) xs rest Q := by
  intro s hs
  obtain ⟨a, t, heq, ha, ht⟩ := h s hs
  refine ⟨a, t, ?_, ha, ht⟩
  rw [orElse_apply, heq]

/-- The second of two parts is read where the first one is stuck. -/
theorem Reads.orElse_right (hp : Fails p (xs ++ rest)) (hq : Reads q xs rest Q) :
    Reads (p <|> q) xs rest Q := by
  intro s hs
  obtain ⟨seen, heq⟩ := hp s hs
  obtain ⟨a, t, heq', ha, ht⟩ := hq { s with seen := seen } ⟨hs.plain, hs.lexemes, hs.whole⟩
  refine ⟨a, t, ?_, ha, ht⟩
  rw [orElse_apply, heq]
  exact heq'

theorem Fails.stuck : Fails (Parser.stuck : Parser α) xs := fun s _ => ⟨s.seen, rfl⟩

/-- A part that is not there may be left out. -/
theorem Reads.optional_none (h : Fails p rest) : Reads (optional p) [] rest (· = none) :=
  .orElse_right h.map (.pure rfl)

theorem Reads.optional_some (h : Reads p xs rest Q) :
    Reads (optional p) xs rest fun o => ∃ a, o = some a ∧ Q a :=
  .orElse_left (Reads.map (h.imp fun a ha => ⟨a, rfl, ha⟩))

/-- What is not there is not ahead. -/
theorem Reads.ahead_none (h : Fails p rest) : Reads (ahead p) [] rest (· = none) := by
  intro s hs
  obtain ⟨seen, heq⟩ := h s hs
  refine ⟨none, { s with seen := seen }, ?_, rfl, hs.plain, hs.lexemes, hs.whole⟩
  rw [ahead, heq]

/-! ## Places and modes -/

section

variable {p : Parser α} {xs rest : List Lexeme} {Q : α → Prop}

theorem Reads.here : Reads here [] rest fun _ => True := fun s hs => ⟨_, s, rfl, trivial, hs⟩

theorem Reads.spanFrom {start : Position} : Reads (spanFrom start) [] rest fun _ => True :=
  fun s hs => ⟨_, s, rfl, trivial, hs⟩

/-- A part gets the span of what was read, whatever that is. -/
theorem Reads.spanned {p : Parser (Span → α)} (h : Reads p xs rest fun f => ∀ span, Q (f span)) :
    Reads (spanned p) xs rest Q :=
  Reads.here.bind_look fun _ _ => h.bind_then fun _ hf => Reads.spanFrom.bind_look fun span _ =>
    .pure (hf span)

theorem Fails.spanned {p : Parser (Span → α)} (h : Fails p xs) : Fails (spanned p) xs :=
  Fails.bind_look Reads.here fun _ _ => h.bind_left

/-- The outlook is one of the plain mode. -/
theorem Reads.outlook : Reads outlook [] rest fun s => s.diagnosing = false :=
  fun s hs => ⟨s, s, rfl, hs.plain, hs⟩

/-- The plain mode does not look for what is often meant. -/
theorem Reads.diagnose : Reads (diagnose p) [] rest fun _ => True := by
  intro s hs
  refine ⟨(), s, ?_, trivial, hs⟩
  rw [Parser.diagnose, hs.plain]
  rfl

theorem Reads.diagnoseFrom {start : Outlook} (hstart : start.diagnosing = false) :
    Reads (diagnoseFrom start p) [] rest fun _ => True := by
  intro s hs
  refine ⟨(), { s with seen := s.seen }, ?_, trivial, hs⟩
  rw [Parser.diagnoseFrom, Parser.diagnose]
  simp only [hstart]
  rfl

theorem Reads.require : Reads (require true) [] rest fun _ => True := .pure trivial

theorem Fails.require : Fails (require false) xs := .stuck

end

/-! ## Single tokens -/

section

variable {x : Lexeme} {rest : List Lexeme}

/-- The next token has the lexeme that comes next. -/
theorem Reads.peek : Reads peek [] (x :: rest) fun t => t.lexeme = x := by
  intro s hs
  cases hrest : s.rest with
  | nil =>
    have hlexemes := hs.lexemes
    rw [hrest] at hlexemes
    cases hlexemes
  | cons t ts =>
    have hlexemes := hs.lexemes
    rw [hrest, List.nil_append, List.map_cons] at hlexemes
    have hwhole : ∀ reason, t.kind ≠ .broken reason := hs.whole t (by simp [hrest])
    refine ⟨t, { s with seen := max s.seen (s.index + 1) }, ?_, (List.cons.inj hlexemes).1,
      hs.plain, hs.lexemes, hs.whole⟩
    rw [Parser.peek, hrest]
    dsimp only
    -- A place where the lexer broke off would be reported here.
    split
    · rename_i reason hreason
      exact absurd hreason (hwhole reason)
    · rfl

/-- Going over the next token leaves those after it. -/
theorem Reads.skip : Reads skip [x] rest fun _ => True := by
  intro s hs
  cases hrest : s.rest with
  | nil =>
    have hlexemes := hs.lexemes
    rw [hrest] at hlexemes
    cases hlexemes
  | cons t ts =>
    have hlexemes := hs.lexemes
    rw [hrest, List.singleton_append, List.map_cons] at hlexemes
    refine ⟨(), { s with
      rest := ts, index := s.index + 1
      stop := if t.isVisible then t.span.stop else s.stop
      depth := t.depth }, by rw [Parser.skip, hrest], trivial, hs.plain,
      (List.cons.inj hlexemes).2, ?_⟩
    exact fun u hu => hs.whole u (by rw [hrest]; exact List.mem_cons_of_mem t hu)

variable {test : Token → Bool}

theorem Reads.nextIs {b : Bool} (htest : ∀ t : Token, t.lexeme = x → test t = b) :
    Reads (nextIs test) [] (x :: rest) (· = b) :=
  Reads.peek.bind_look fun t ht => .pure (htest t ht)

theorem Reads.token (htest : ∀ t : Token, t.lexeme = x → test t = true) :
    Reads (token test) [x] rest fun t => t.lexeme = x :=
  Reads.bind_ahead Reads.peek fun t ht => by
    rw [htest t ht]
    exact Reads.skip.bind_then fun _ _ => .pure ht

theorem Fails.token (htest : ∀ t : Token, t.lexeme = x → test t = false) :
    Fails (token test) (x :: rest) :=
  Fails.bind_look Reads.peek fun t ht => by
    rw [htest t ht]
    exact .stuck

/-! ## Operators, keywords and names -/

theorem isOperator_eq (t : Token) (s : String) :
    t.isOperator s = (t.lexeme == (.operator, s.toList)) := rfl

theorem isKeyword_eq (t : Token) (s : String) :
    t.isKeyword s = (t.lexeme == (.keyword, s.toList)) := rfl

theorem isName_eq (t : Token) (s : String) : t.isName s = (t.lexeme == (.name, s.toList)) := rfl

theorem kind_eq {t : Token} (ht : t.lexeme = x) : t.kind = x.1 := by rw [← ht]; rfl

theorem Reads.op {s : String} : Reads (op s) [(.operator, s.toList)] rest fun _ => True :=
  (Reads.token fun t ht => by rw [isOperator_eq, ht, beq_self_eq_true]).bind_then
    fun _ _ => .pure trivial

theorem Fails.op {s : String} (hx : x ≠ (.operator, s.toList)) : Fails (op s) (x :: rest) :=
  (Fails.token fun t ht => by rw [isOperator_eq, ht]; exact beq_eq_false_iff_ne.2 hx).bind_left

theorem Reads.word {s : String} : Reads (word s) [(.keyword, s.toList)] rest fun _ => True :=
  (Reads.token fun t ht => by rw [isKeyword_eq, ht, beq_self_eq_true]).bind_then
    fun _ _ => .pure trivial

theorem Fails.word {s : String} (hx : x ≠ (.keyword, s.toList)) : Fails (word s) (x :: rest) :=
  (Fails.token fun t ht => by rw [isKeyword_eq, ht]; exact beq_eq_false_iff_ne.2 hx).bind_left

theorem Reads.name {cs : List Char} : Reads name [(.name, cs)] rest (· = identifier cs) :=
  (Reads.token fun t ht => by rw [kind_eq ht]; rfl).bind_then fun t ht => .pure (by
    rw [← (Prod.mk.inj ht).2])

theorem Fails.name (hx : x.1 ≠ .name) : Fails name (x :: rest) :=
  (Fails.token fun t ht => by rw [kind_eq ht]; exact beq_eq_false_iff_ne.2 hx).bind_left

theorem Reads.kind : Reads (kind x.1) [x] rest fun _ => True :=
  (Reads.token fun t ht => by rw [kind_eq ht, beq_self_eq_true]).bind_then fun _ _ => .pure trivial

theorem Reads.nextOp {s : String} : Reads (nextOp s) [] (x :: rest) (· = (x == (.operator, s.toList))) :=
  Reads.nextIs fun t ht => by rw [isOperator_eq, ht]

theorem Reads.nextWord {s : String} :
    Reads (nextWord s) [] (x :: rest) (· = (x == (.keyword, s.toList))) :=
  Reads.nextIs fun t ht => by rw [isKeyword_eq, ht]

theorem Reads.nextOp_ne {s : String} (hx : x ≠ (.operator, s.toList)) :
    Reads (Parser.nextOp s) [] (x :: rest) (· = false) :=
  Reads.nextOp.imp fun b hb => by rw [hb]; exact beq_eq_false_iff_ne.2 hx

theorem Reads.nextWord_ne {s : String} (hx : x ≠ (.keyword, s.toList)) :
    Reads (Parser.nextWord s) [] (x :: rest) (· = false) :=
  Reads.nextWord.imp fun b hb => by rw [hb]; exact beq_eq_false_iff_ne.2 hx

theorem Reads.notOp {s : String} (hx : x ≠ (.operator, s.toList)) :
    Reads (notOp s) [] (x :: rest) fun _ => True :=
  (Reads.nextOp_ne hx).bind_look fun b hb => by
    subst hb
    exact Reads.require

/-! ## Repetitions -/

variable {p : Parser α} {part : α → Parser α} {a : α} {xs ys : List Lexeme} {Q R : α → Prop}

theorem growFrom_succ_apply (part : α → Parser α) (fuel : ℕ) (a : α) (s : Outlook) :
    growFrom part (fuel + 1) a s = match part a s with
      | .ok b t => growFrom part fuel b t
      | .stuck seen => .ok a { s with seen := seen }
      | .objection o seen => .objection o seen := rfl

/-- Part after part is read from a first one on, with fuel for every lexeme. -/
def Grows (part : α → Parser α) (a : α) (xs rest : List Lexeme) (Q : α → Prop) : Prop :=
  ∀ fuel, xs.length ≤ fuel → Reads (growFrom part fuel a) xs rest Q

theorem Grows.stop (h : Fails (part a) rest) (ha : Q a) : Grows part a [] rest Q := by
  intro fuel _
  -- Without fuel nothing is tried, with fuel the part is stuck: what was found stands either way.
  cases fuel with
  | zero => exact .pure ha
  | succ fuel =>
    intro s hs
    obtain ⟨seen, heq⟩ := h s hs
    refine ⟨a, { s with seen := seen }, ?_, ha, hs.plain, hs.lexemes, hs.whole⟩
    rw [growFrom_succ_apply, heq]

theorem Grows.step (h : Reads (part a) (x :: xs) (ys ++ rest) R)
    (hnext : ∀ b, R b → Grows part b ys rest Q) : Grows part a (x :: xs ++ ys) rest Q := by
  intro fuel hfuel
  cases fuel with
  | zero => exact absurd hfuel (Nat.not_succ_le_zero _)
  | succ fuel =>
    intro s hs
    rw [List.append_assoc] at hs
    obtain ⟨b, t, heq, hb, ht⟩ := h s hs
    -- Each part goes over a lexeme, so the fuel lasts.
    have hlength : ys.length ≤ fuel := by
      rw [List.cons_append, List.length_cons, List.length_append] at hfuel
      omega
    obtain ⟨c, u, heq', hc, hu⟩ := hnext b hb fuel hlength t ht
    refine ⟨c, u, ?_, hc, hu⟩
    rw [growFrom_succ_apply, heq]
    exact heq'

/-- One part is read, and no other one follows. -/
theorem Grows.last (h : Reads (part a) (x :: xs) rest R) (hstop : ∀ b, Fails (part b) rest)
    (hQ : ∀ b, R b → Q b) : Grows part a (x :: xs) rest Q := by
  have hgrow : Grows part a (x :: xs ++ []) rest Q :=
    .step h fun b hb => .stop (hstop b) (hQ b hb)
  rwa [List.append_nil] at hgrow

theorem Reads.grow (h : Grows part a xs rest Q) : Reads (Parser.grow part a) xs rest Q := by
  intro s hs
  have hlength : s.rest.length = (xs ++ rest).length := by
    rw [← hs.lexemes, List.length_map]
  exact h s.rest.length (by rw [hlength, List.length_append]; omega) s hs

/-- Parts are read as long as there are any, after those that have been found. -/
def ReadsMany (p : Parser α) (xs rest : List Lexeme) (Q : List α → Prop) : Prop :=
  ∀ found, Grows (fun found => (· :: found) <$> p) found xs rest
    fun all => ∃ more, all.reverse = found.reverse ++ more ∧ Q more

theorem ReadsMany.nil {Q : List α → Prop} (h : Fails p rest) (hQ : Q []) :
    ReadsMany p [] rest Q := fun _ =>
  .stop h.map ⟨[], (List.append_nil _).symm, hQ⟩

theorem ReadsMany.cons {Q Q' : List α → Prop} (h : Reads p (x :: xs) (ys ++ rest) R)
    (hmore : ReadsMany p ys rest Q) (hQ : ∀ b more, R b → Q more → Q' (b :: more)) :
    ReadsMany p (x :: xs ++ ys) rest Q' := fun found =>
  .step (R := fun all => ∃ b, all = b :: found ∧ R b) (Reads.map (h.imp fun b hb => ⟨b, rfl, hb⟩))
    fun all ⟨b, hall, hb⟩ => by
      subst hall
      intro fuel hfuel
      refine (hmore (b :: found) fuel hfuel).imp ?_
      -- What is found is kept in reverse.
      rintro all ⟨more, hall, hmore⟩
      exact ⟨b :: more, by simpa using hall, hQ b more hb hmore⟩

theorem Reads.many {Q : List α → Prop} (h : ReadsMany p xs rest Q) : Reads (Parser.many p) xs rest Q :=
  Reads.map ((Reads.grow (h [])).imp fun all ⟨more, hall, hmore⟩ => by
    rw [hall]
    exact hmore)

/-- Where a part is not there, there are none. -/
theorem Reads.many_nil (h : Fails p rest) : Reads (Parser.many p) [] rest (· = []) :=
  .many (.nil h rfl)

theorem Reads.separated {s : String} (h : Reads p xs (x :: rest) Q)
    (hx : x ≠ (.operator, s.toList)) :
    Reads (Parser.separated s p) xs (x :: rest) fun found => ∃ a, found = [a] ∧ Q a :=
  h.bind_then fun a ha => (Reads.many_nil (Fails.op hx).bind_left).bind_look fun more hmore =>
    .pure ⟨a, by rw [hmore], ha⟩

theorem Reads.trailingComma (hx : x ≠ (.operator, [','])) :
    Reads Parser.trailingComma [] (x :: rest) (· = false) :=
  Reads.map ((Reads.optional_none (Fails.op hx)).imp fun o ho => by rw [ho]; rfl)

end

end

end Parser

end SpriteStage.Script
