import SpriteStage.Proofs.Script.Reading
import SpriteStage.Proofs.Script.Abreast.Tree

/-!
# Reading two sequences of tokens abreast

The grammar decides by the kinds and the characters of tokens.  So two sequences of tokens that differ in
their places only are read in the same way, and what is read from either of them differs in its stretches
of text only.  The sequences may even go different ways at the end, if a parser does not get there: within
a line it stops at the end of the line at the latest, and a block stops where its indentation is closed.

A `Pairing` says how far two sequences go together.  `Agree` compares two parsers at a place of it, in the
plain mode; `Along` is what is known of parsers that stay within a line.  Each way of putting parsers
together has a rule for both.

## Main definitions

* `Script.Pairing` are two sequences of tokens that go together
* `Script.Pairing.Spans` relates the stretches of text of what is read from both of them
* `Script.Pairing.Agree` says that two parsers read the same
* `Script.Pairing.Along` says it of parsers that stay within a line
-/

namespace SpriteStage.Script

/-! ## Tokens -/

namespace Token

variable {t : Token} {s : String}

/-- Whether a token is written with characters of its own. -/
def isWritten (t : Token) : Bool :=
  match t.kind with
  | .name | .keyword | .numeral | .text | .operator => true
  | _ => false

theorem isWritten_of_isOperator (h : t.isOperator s = true) : t.isWritten = true := by
  rw [isOperator, Bool.and_eq_true, beq_iff_eq] at h
  rw [isWritten, h.1]

theorem isWritten_of_isKeyword (h : t.isKeyword s = true) : t.isWritten = true := by
  rw [isKeyword, Bool.and_eq_true, beq_iff_eq] at h
  rw [isWritten, h.1]

theorem isWritten_of_isName (h : t.isName s = true) : t.isWritten = true := by
  rw [isName, Bool.and_eq_true, beq_iff_eq] at h
  rw [isWritten, h.1]

theorem isVisible_of_isWritten (h : t.isWritten = true) : t.isVisible = true := by
  rw [isWritten] at h
  rw [isVisible]
  split at h <;> simp_all

/-- A token that no statement before it goes on with. -/
structure StartsAnew (t : Token) : Prop where
  whole : ∀ reason, t.kind ≠ .broken reason
  level : t.kind ≠ .indent
  word : ∀ w ∈ ["else", "elif", "except", "finally"], t.isKeyword w = false

end Token

/-! ## Pairings -/

/-- Two sequences of tokens that go together for a while: `pairs` are the tokens of both that are alike.
    After them both sequences end, or they go on with a new statement each. -/
structure Pairing where
  pairs : List (Token × Token)
  left : List Token
  right : List Token
  alike : ∀ p ∈ pairs, p.1.lexeme = p.2.lexeme
  closed : ∀ p ∈ pairs.getLast?, p.1.isWritten = false
  ends : (left = [] ∧ right = []) ∨
    (∃ t ts, left = t :: ts ∧ t.StartsAnew) ∧ ∃ t ts, right = t :: ts ∧ t.StartsAnew

namespace Pairing

variable {α β γ δ : Type} (g : Pairing)

/-- Whether both sequences end after the pairs. -/
def IsOpen : Prop := g.left = [] ∧ g.right = []

/-- Whether the tokens at a place are written with characters. -/
def Written (n : ℕ) : Prop := ∃ p, g.pairs[n]? = some p ∧ p.1.isWritten = true

/-- The places of the tokens at `n` in both sequences. -/
def Starts (n : ℕ) (a b : Position) : Prop :=
  ∀ p, g.pairs[n]? = some p → a = p.1.span.start ∧ b = p.2.span.start

/-- Stretches from one written token up to another. -/
def Spans (σ τ : Span) : Prop :=
  ∃ k j : ℕ, k ≤ j ∧ ∃ p q : Token × Token, g.pairs[k]? = some p ∧ g.pairs[j]? = some q ∧ p.1.isWritten = true ∧
    q.1.isWritten = true ∧ σ = ⟨p.1.span.start, q.1.span.stop⟩ ∧ τ = ⟨p.2.span.start, q.2.span.stop⟩

/-- Outlooks on both sequences at the same place, in the plain mode. -/
structure Meets (n : ℕ) (s s' : Outlook) : Prop where
  le : n ≤ g.pairs.length
  left : s.rest = (g.pairs.drop n).map Prod.fst ++ g.left
  right : s'.rest = (g.pairs.drop n).map Prod.snd ++ g.right
  /-- The last place is that of a written token, if any has been read. -/
  stops : ∀ k < n, g.Written k → ∃ j < n, k ≤ j ∧ ∃ p, g.pairs[j]? = some p ∧ p.1.isWritten = true ∧
    s.stop = p.1.span.stop ∧ s'.stop = p.2.span.stop
  plain : s.diagnosing = false ∧ s'.diagnosing = false

/-- Replies of the same kind, what was read being related by `R`. -/
inductive Matches (R : α → Outlook → β → Outlook → Prop) : Reply α → Reply β → Prop
  | ok {a : α} {s : Outlook} {b : β} {t : Outlook} (h : R a s b t) : Matches R (.ok a s) (.ok b t)
  | stuck (i j : ℕ) : Matches R (.stuck i) (.stuck j)
  | objection (o o' : Objection) (i j : ℕ) : Matches R (.objection o i) (.objection o' j)

/-- Two parsers at the same place of both sequences come to the same, and then to the same place. -/
def Agree (n : ℕ) (p : Parser α) (q : Parser β) (V : ℕ → α → β → Prop) : Prop :=
  ∀ s s', g.Meets n s s' →
    Matches (fun a t b t' => ∃ m, g.Meets m t t' ∧ V m a b) (p s) (q s')

variable {g} {n m k : ℕ} {p p' : Parser α} {q q' : Parser β} {V V' : ℕ → α → β → Prop}
  {W : ℕ → γ → δ → Prop}

theorem Meets.seen {s s' : Outlook} (h : g.Meets n s s') (i j : ℕ) :
    g.Meets n { s with seen := i } { s' with seen := j } := ⟨h.le, h.left, h.right, h.stops, h.plain⟩

/-- Tokens that go together have the same kind and the same characters. -/
theorem exists_of_getElem? {p : Token × Token} (h : g.pairs[n]? = some p) :
    ∃ t span depth firstLine, p = (t, ⟨t.kind, t.chars, span, depth, firstLine⟩) := by
  obtain ⟨t, u⟩ := p
  obtain ⟨hkind, hchars⟩ := Prod.mk.inj (g.alike _ (List.mem_of_getElem? h))
  refine ⟨t, u.span, u.depth, u.firstLine, ?_⟩
  dsimp only at hkind hchars
  rw [hkind, hchars]

/-- Outlooks before the end of the pairs have the next tokens before them. -/
theorem Meets.exists_rest {s s' : Outlook} (h : g.Meets n s s') {p : Token × Token}
    (hp : g.pairs[n]? = some p) :
    s.rest = p.1 :: ((g.pairs.drop (n + 1)).map Prod.fst ++ g.left) ∧
      s'.rest = p.2 :: ((g.pairs.drop (n + 1)).map Prod.snd ++ g.right) := by
  obtain ⟨hn, rfl⟩ := List.getElem?_eq_some_iff.1 hp
  rw [h.left, h.right, List.drop_eq_getElem_cons hn]
  exact ⟨rfl, rfl⟩

/-- At the end of the pairs what comes after them is left. -/
theorem Meets.rest_of_end {s s' : Outlook} (h : g.Meets g.pairs.length s s') :
    s.rest = g.left ∧ s'.rest = g.right := by
  have hleft := h.left
  have hright := h.right
  rw [List.drop_length] at hleft hright
  exact ⟨hleft, hright⟩

/-! ## Putting parsers together -/

theorem Agree.imp (h : g.Agree n p q V) (himp : ∀ m a b, V m a b → V' m a b) : g.Agree n p q V' := by
  intro s s' hs
  have hreply := h s s' hs
  revert hreply
  generalize p s = x
  generalize q s' = y
  rintro (⟨m, hm, hV⟩ | _ | _)
  · exact .ok ⟨m, hm, himp _ _ _ hV⟩
  · exact .stuck _ _
  · exact .objection _ _ _ _

/-- The place is not past the end of the pairs. -/
theorem Agree.of_le (h : n ≤ g.pairs.length → g.Agree n p q V) : g.Agree n p q V :=
  fun s s' hs => h hs.le s s' hs

theorem Agree.pure {a : α} {b : β} (h : V n a b) : g.Agree n (Pure.pure a) (Pure.pure b) V :=
  fun _ _ hs => .ok ⟨n, hs, h⟩

theorem Agree.stuck : g.Agree n (Parser.stuck : Parser α) (Parser.stuck : Parser β) V :=
  fun _ _ _ => .stuck _ _

theorem Agree.object {c c' : Cause} {l l' : Place} :
    g.Agree n (Parser.object c l : Parser α) (Parser.object c' l' : Parser β) V :=
  fun _ _ _ => .objection _ _ _ _

theorem Agree.bind {f : α → Parser γ} {f' : β → Parser δ} (h : g.Agree n p q V)
    (hf : ∀ m a b, V m a b → g.Agree m (f a) (f' b) W) : g.Agree n (p >>= f) (q >>= f') W := by
  intro s s' hs
  have hreply := h s s' hs
  rw [Parser.bind_apply, Parser.bind_apply]
  revert hreply
  generalize p s = x
  generalize q s' = y
  rintro (⟨m, hm, hV⟩ | _ | _)
  · exact hf m _ _ hV _ _ hm
  · exact .stuck _ _
  · exact .objection _ _ _ _

theorem Agree.orElse (hp : g.Agree n p q V) (hq : g.Agree n p' q' V) :
    g.Agree n (p <|> p') (q <|> q') V := by
  intro s s' hs
  have hreply := hp s s' hs
  rw [Parser.orElse_apply, Parser.orElse_apply]
  revert hreply
  generalize p s = x
  generalize q s' = y
  rintro (h | _ | _)
  · exact .ok h
  · exact hq _ _ (hs.seen _ _)
  · exact .objection _ _ _ _

theorem Agree.ite {c : Prop} [Decidable c] (hp : c → g.Agree n p q V) (hq : ¬c → g.Agree n p' q' V) :
    g.Agree n (if c then p else p') (if c then q else q') V := by
  split
  · exact hp ‹_›
  · exact hq ‹_›

theorem Agree.map {f : α → γ} {f' : β → δ} (h : g.Agree n p q fun m a b => W m (f a) (f' b)) :
    g.Agree n (f <$> p) (f' <$> q) W :=
  h.bind fun _ _ _ hV => .pure hV

theorem Agree.optional (h : g.Agree n p q V) :
    g.Agree n (Parser.optional p) (Parser.optional q) fun m a b =>
      (a = none ∧ b = none ∧ m = n) ∨ ∃ c d, a = some c ∧ b = some d ∧ V m c d :=
  .orElse (.map (h.imp fun _ _ _ hV => .inr ⟨_, _, rfl, rfl, hV⟩)) (.pure (.inl ⟨rfl, rfl, rfl⟩))

/-- Looking ahead leaves the place. -/
theorem Agree.ahead (h : g.Agree n p q V) :
    g.Agree n (Parser.ahead p) (Parser.ahead q) fun m a b => m = n ∧ a.isSome = b.isSome := by
  intro s s' hs
  have hreply := h s s' hs
  rw [Parser.ahead, Parser.ahead]
  revert hreply
  generalize p s = x
  generalize q s' = y
  rintro (_ | _ | _)
  · exact .ok ⟨n, hs.seen _ _, rfl, rfl⟩
  · exact .ok ⟨n, hs.seen _ _, rfl, rfl⟩
  · exact .objection _ _ _ _

/-- Part after part is read.  The fuel lasts for both, or it is the same. -/
theorem Agree.growFrom {f : α → Parser α} {f' : β → Parser β}
    (hpart : ∀ n a b, V n a b → g.Agree n (f a) (f' b) fun m c d => n < m ∧ V m c d) {i j : ℕ}
    (hfuel : i = j ∨ g.pairs.length < n + i ∧ g.pairs.length < n + j) {a : α} {b : β} (h : V n a b) :
    g.Agree n (Parser.growFrom f i a) (Parser.growFrom f' j b) V := by
  induction i generalizing n j a b with
  | zero =>
    intro s s' hs
    obtain rfl : j = 0 := by
      have := hs.le
      omega
    exact .ok ⟨n, hs, h⟩
  | succ i ih =>
    intro s s' hs
    obtain ⟨j, rfl⟩ : ∃ j', j = j' + 1 := ⟨j - 1, by have := hs.le; omega⟩
    have hreply := hpart n a b h s s' hs
    rw [Parser.growFrom_succ_apply, Parser.growFrom_succ_apply]
    revert hreply
    generalize f a s = x
    generalize f' b s' = y
    rintro (⟨m, hm, hlt, hV⟩ | _ | _)
    · exact ih (by omega) hV _ _ hm
    · exact .ok ⟨n, hs.seen _ _, h⟩
    · exact .objection _ _ _ _

theorem Meets.length_rest {s s' : Outlook} (h : g.Meets n s s') :
    s.rest.length = s'.rest.length ∨
      g.pairs.length < n + s.rest.length ∧ g.pairs.length < n + s'.rest.length := by
  have hle := h.le
  rw [h.left, h.right]
  simp only [List.length_append, List.length_map, List.length_drop]
  rcases g.ends with ⟨hleft, hright⟩ | ⟨⟨t, ts, hleft, -⟩, u, us, hright, -⟩
  · rw [hleft, hright]
    exact .inl rfl
  · rw [hleft, hright, List.length_cons, List.length_cons]
    omega

theorem Agree.grow {f : α → Parser α} {f' : β → Parser β}
    (hpart : ∀ n a b, V n a b → g.Agree n (f a) (f' b) fun m c d => n < m ∧ V m c d) {a : α} {b : β}
    (h : V n a b) : g.Agree n (Parser.grow f a) (Parser.grow f' b) V :=
  fun s s' hs => Agree.growFrom hpart hs.length_rest h s s' hs

/-- Parts are read as long as there are any, `J` being known of the places between them. -/
theorem Agree.many {J : ℕ → Prop} {R : α → β → Prop}
    (hpart : ∀ n, J n → g.Agree n p q fun m a b => n < m ∧ J m ∧ R a b) (h : J n) :
    g.Agree n (Parser.many p) (Parser.many q) fun m as bs => n ≤ m ∧ J m ∧ List.Forall₂ R as bs := by
  refine .map ?_
  refine (Agree.grow (V := fun m as bs => n ≤ m ∧ J m ∧ List.Forall₂ R as bs) ?_
    ⟨le_rfl, h, .nil⟩).imp fun _ _ _ hV => ⟨hV.1, hV.2.1, List.rel_reverse hV.2.2⟩
  intro k as bs hV
  refine .map ((hpart k hV.2.1).imp fun m a b hab => ?_)
  exact ⟨hab.1, hV.1.trans hab.1.le, hab.2.1, .cons hab.2.2 hV.2.2⟩

theorem Agree.some' {J : ℕ → Prop} {R : α → β → Prop}
    (hpart : ∀ n, J n → g.Agree n p q fun m a b => n < m ∧ J m ∧ R a b) (h : J n) :
    g.Agree n (Parser.some' p) (Parser.some' q) fun m as bs => n < m ∧ J m ∧ List.Forall₂ R as bs :=
  (hpart n h).bind fun _ _ _ hab => (Agree.many hpart hab.2.1).bind fun _ _ _ hmore =>
    .pure ⟨hab.1.trans_le hmore.1, hmore.2.1, .cons hab.2.2 hmore.2.2⟩

/-! ## Single tokens -/

/-- The next tokens are looked at; where both sequences have come to their ends there is none. -/
theorem Agree.peek {f : Token → Parser γ} {f' : Token → Parser δ} (hn : n < g.pairs.length ∨ g.IsOpen)
    (hf : ∀ t span depth firstLine,
      g.pairs[n]? = some (t, ⟨t.kind, t.chars, span, depth, firstLine⟩) →
        g.Agree n (f t) (f' ⟨t.kind, t.chars, span, depth, firstLine⟩) W) :
    g.Agree n (Parser.peek >>= f) (Parser.peek >>= f') W := by
  rintro ⟨rest, index, seen, stop, depth, diagnosing⟩ ⟨rest', index', seen', stop', depth', diagnosing'⟩ hs
  rw [Parser.bind_apply, Parser.bind_apply, Parser.peek, Parser.peek]
  rcases hs.le.lt_or_eq with hlt | rfl
  · obtain ⟨t, span, d, firstLine, heq⟩ := exists_of_getElem? (List.getElem?_eq_getElem hlt)
    have hp : g.pairs[n]? = some (t, ⟨t.kind, t.chars, span, d, firstLine⟩) := by
      rw [List.getElem?_eq_getElem hlt, heq]
    obtain ⟨rfl, rfl⟩ := hs.exists_rest hp
    have hagree := hf t span d firstLine hp _ _ (hs.seen (max seen (index + 1)) (max seen' (index' + 1)))
    cases hkind : t.kind with
    | broken reason =>
      simp only [hkind]
      exact .objection _ _ _ _
    | _ =>
      simp only [hkind] at hagree ⊢
      exact hagree
  · obtain ⟨rfl, rfl⟩ := hs.rest_of_end
    obtain ⟨hleft, hright⟩ := hn.resolve_left (lt_irrefl _)
    simp only [hleft, hright]
    exact .stuck _ _

/-- Where both sequences have come to their ends nothing can be looked at. -/
theorem Agree.peek_of_open (hopen : g.IsOpen) {f : Token → Parser γ} {f' : Token → Parser δ} :
    g.Agree g.pairs.length (Parser.peek >>= f) (Parser.peek >>= f') W :=
  .peek (.inr hopen) fun _ _ _ _ hp => by
    rw [List.getElem?_eq_none le_rfl] at hp
    cases hp

/-- The next tokens are gone over. -/
theorem Agree.skip {p : Token × Token} (hp : g.pairs[n]? = some p)
    (hwhole : p.1.isWritten = true ∨ p.1.isVisible = false) :
    g.Agree n Parser.skip Parser.skip fun m _ _ => m = n + 1 := by
  intro s s' hs
  obtain ⟨t, span, depth, firstLine, rfl⟩ := exists_of_getElem? hp
  obtain ⟨hleft, hright⟩ := hs.exists_rest hp
  rw [Parser.skip, Parser.skip, hleft, hright]
  obtain ⟨hn, -⟩ := List.getElem?_eq_some_iff.1 hp
  refine .ok ⟨n + 1, ⟨hn, rfl, rfl, ?_, hs.plain⟩, rfl⟩
  intro k hk hwritten
  rcases hwhole with hvisible | hvisible
  · refine ⟨n, Nat.lt_succ_self n, Nat.le_of_lt_succ hk, _, hp, hvisible, ?_, ?_⟩
    · exact if_pos (Token.isVisible_of_isWritten hvisible)
    · exact if_pos (Token.isVisible_of_isWritten hvisible)
  · -- What is not visible leaves the last place.
    have hne : k ≠ n := by
      rintro rfl
      obtain ⟨p, hp', hw⟩ := hwritten
      cases hp.symm.trans hp'
      rw [Token.isVisible_of_isWritten hw] at hvisible
      cases hvisible
    obtain ⟨j, hj, hkj, p, hp, hw, hstop, hstop'⟩ := hs.stops k (by omega) hwritten
    refine ⟨j, hj.trans (Nat.lt_succ_self n), hkj, p, hp, hw, ?_, ?_⟩
    · exact (if_neg (Bool.eq_false_iff.1 hvisible)).trans hstop
    · exact (if_neg (Bool.eq_false_iff.1 hvisible)).trans hstop'

/-- A token with a property of its kind and its characters. -/
theorem Agree.token {f : Token → Bool} (hn : n < g.pairs.length ∨ g.IsOpen)
    (hf : ∀ t span depth firstLine, f ⟨t.kind, t.chars, span, depth, firstLine⟩ = f t)
    (hwhole : ∀ t, f t = true → t.isWritten = true ∨ t.isVisible = false) :
    g.Agree n (Parser.token f) (Parser.token f) fun m t u =>
      m = n + 1 ∧ g.pairs[n]? = some (t, u) ∧ f t = true ∧ u.lexeme = t.lexeme := by
  refine .peek hn fun t span depth firstLine hp => ?_
  rw [hf t span depth firstLine]
  refine .ite (fun ht => (Agree.skip hp (hwhole t ht)).bind fun m _ _ hm => ?_) fun _ => .stuck
  exact .pure ⟨hm, hp, ht, rfl⟩

/-- What was read since a written token spans the tokens between. -/
theorem Agree.spanFrom {a b : Position} (h : g.Starts k a b) (hw : g.Written k) (hk : k < n) :
    g.Agree n (Parser.spanFrom a) (Parser.spanFrom b) fun m σ τ => m = n ∧ g.Spans σ τ := by
  intro s s' hs
  obtain ⟨j, hj, hkj, q, hq, hvisible, hstop, hstop'⟩ := hs.stops k hk hw
  obtain ⟨p, hp, hvisible'⟩ := hw
  obtain ⟨rfl, rfl⟩ := h p hp
  refine .ok ⟨n, hs, rfl, k, j, hkj, p, q, hp, hq, hvisible', hvisible, ?_, ?_⟩
  · rw [hstop]
  · rw [hstop']

/-! ## What is often meant -/

theorem Agree.diagnose : g.Agree n (Parser.diagnose p) (Parser.diagnose q) fun m _ _ => m = n := by
  intro s s' hs
  rw [Parser.diagnose, Parser.diagnose, hs.plain.1, hs.plain.2]
  exact .ok ⟨n, hs, rfl⟩

theorem Agree.diagnoseFrom {t t' : Outlook} (ht : t.diagnosing = false ∧ t'.diagnosing = false) :
    g.Agree n (Parser.diagnoseFrom t p) (Parser.diagnoseFrom t' q) fun m _ _ => m = n := by
  intro s s' hs
  rw [Parser.diagnoseFrom, Parser.diagnoseFrom, Parser.diagnose, Parser.diagnose]
  simp only [ht]
  exact .ok ⟨n, hs.seen _ _, rfl⟩

/-! ## Within a line -/

variable (g) in
/-- From one place to another one at least `d` further on only written tokens are gone over, and there is
    a pair at the other place too. -/
structure Leads (d n m : ℕ) : Prop where
  le : n + d ≤ m
  lt : m < g.pairs.length
  written : ∀ k, n ≤ k → k < m → g.Written k

variable (g) in
/-- Two parsers that go over written tokens only, at least `d` of them, read the same. -/
def Along (d n : ℕ) (p : Parser α) (q : Parser β) (V : α → β → Prop) : Prop :=
  n < g.pairs.length → g.Agree n p q fun m a b => g.Leads d n m ∧ V a b

variable (g) in
/-- Two parsers that read nothing find the same. -/
def Looks (n : ℕ) (p : Parser α) (q : Parser β) (V : α → β → Prop) : Prop :=
  n < g.pairs.length → g.Agree n p q fun m a b => m = n ∧ V a b

namespace Leads

variable {d e : ℕ}

theorem refl (h : n < g.pairs.length) : g.Leads 0 n n := ⟨le_rfl, h, by omega⟩

theorem trans (h : g.Leads d n m) (h' : g.Leads e m k) : g.Leads (d + e) n k where
  le := by have := h.le; have := h'.le; omega
  lt := h'.lt
  written i hi hik := by
    rcases Nat.lt_or_ge i m with him | him
    · exact h.written i hi him
    · exact h'.written i him hik

theorem weak (h : g.Leads d n m) : g.Leads 0 n m := ⟨by have := h.le; omega, h.lt, h.written⟩

/-- What goes on from a place that is led to. -/
theorem after (h : g.Leads d n m) (h' : g.Leads e m k) : g.Leads d n k :=
  ⟨by have := (h.trans h').le; omega, h'.lt, (h.trans h').written⟩

/-- What leads on to a place from where others are led to. -/
theorem before (h : g.Leads e n m) (h' : g.Leads d m k) : g.Leads d n k :=
  ⟨by have := (h.trans h').le; omega, h'.lt, (h.trans h').written⟩

/-- There is something after a written token, since the last token is not written. -/
theorem of_written (h : g.Written n) : g.Leads 1 n (n + 1) := by
  obtain ⟨p, hp, hw⟩ := h
  obtain ⟨hn, rfl⟩ := List.getElem?_eq_some_iff.1 hp
  refine ⟨le_rfl, ?_, fun k hk hlt => ⟨_, by rwa [show k = n by omega], hw⟩⟩
  by_contra hend
  have hlast : g.pairs.getLast? = some g.pairs[n] := by
    rw [List.getLast?_eq_getElem?, ← hp]
    congr 1
    omega
  rw [g.closed _ hlast] at hw
  cases hw

end Leads

namespace Along

variable {d e : ℕ} {V V' : α → β → Prop} {W : γ → δ → Prop}

theorem imp (h : g.Along d n p q V) (himp : ∀ a b, V a b → V' a b) : g.Along d n p q V' :=
  fun hn => (h hn).imp fun _ _ _ hV => ⟨hV.1, himp _ _ hV.2⟩

/-- It does not matter what is read. -/
theorem any (h : g.Along d n p q V) : g.Along d n p q fun _ _ => True := h.imp fun _ _ _ => trivial

theorem weak (h : g.Along d n p q V) : g.Along 0 n p q V :=
  fun hn => (h hn).imp fun _ _ _ hV => ⟨hV.1.weak, hV.2⟩

theorem pure {a : α} {b : β} (h : V a b) : g.Along 0 n (Pure.pure a) (Pure.pure b) V :=
  fun hn => .pure ⟨.refl hn, h⟩

theorem stuck : g.Along d n (Parser.stuck : Parser α) (Parser.stuck : Parser β) V := fun _ => .stuck

theorem object {c c' : Cause} {l l' : Place} :
    g.Along d n (Parser.object c l : Parser α) (Parser.object c' l' : Parser β) V := fun _ => .object

section

variable {f : α → Parser γ} {f' : β → Parser δ}

/-- What goes over enough tokens comes first. -/
theorem bind (h : g.Along d n p q V)
    (hf : ∀ m, g.Leads d n m → ∀ a b, V a b → g.Along 0 m (f a) (f' b) W) :
    g.Along d n (p >>= f) (q >>= f') W := fun hn =>
  (h hn).bind fun m a b hV => (hf m hV.1 a b hV.2 hV.1.lt).imp fun _ _ _ hW =>
    ⟨hV.1.after hW.1, hW.2⟩

/-- What goes over enough tokens comes last. -/
theorem bind_last (h : g.Along e n p q V)
    (hf : ∀ m, g.Leads e n m → ∀ a b, V a b → g.Along d m (f a) (f' b) W) :
    g.Along d n (p >>= f) (q >>= f') W := fun hn =>
  (h hn).bind fun m a b hV => (hf m hV.1 a b hV.2 hV.1.lt).imp fun _ _ _ hW =>
    ⟨hV.1.before hW.1, hW.2⟩

/-- A look at what follows comes first. -/
theorem look (h : g.Looks n p q V) (hf : ∀ a b, V a b → g.Along d n (f a) (f' b) W) :
    g.Along d n (p >>= f) (q >>= f') W := fun hn =>
  (h hn).bind fun m a b hV => by
    obtain ⟨rfl, hV⟩ := hV
    exact hf a b hV hn

/-- The next token is looked at. -/
theorem peek {f : Token → Parser γ} {f' : Token → Parser δ}
    (hf : ∀ t span depth firstLine,
      g.pairs[n]? = some (t, ⟨t.kind, t.chars, span, depth, firstLine⟩) →
        g.Along d n (f t) (f' ⟨t.kind, t.chars, span, depth, firstLine⟩) W) :
    g.Along d n (Parser.peek >>= f) (Parser.peek >>= f') W := fun hn =>
  .peek (.inl hn) fun t span depth firstLine hp => hf t span depth firstLine hp hn

end

theorem map {f : α → γ} {f' : β → δ} (h : g.Along d n p q fun a b => W (f a) (f' b)) :
    g.Along d n (f <$> p) (f' <$> q) W := fun hn => .map (h hn)

theorem seqLeft {r : Parser γ} {r' : Parser δ} (h : g.Along d n p q V)
    (hr : ∀ m, g.Leads d n m → g.Along 0 m r r' W) : g.Along d n (p <* r) (q <* r') V :=
  h.bind fun m hm _ _ hV => (hr m hm).bind fun _ _ _ _ _ => .pure hV

theorem seqRight {r : Parser γ} {r' : Parser δ} (h : g.Along d n p q V)
    (hr : ∀ m, g.Leads d n m → g.Along 0 m r r' W) : g.Along d n (p *> r) (q *> r') W :=
  h.bind fun m hm _ _ _ => hr m hm

theorem orElse (hp : g.Along d n p q V) (hq : g.Along d n p' q' V) :
    g.Along d n (p <|> p') (q <|> q') V := fun hn => (hp hn).orElse (hq hn)

theorem ite {c : Prop} [Decidable c] (hp : c → g.Along d n p q V) (hq : ¬c → g.Along d n p' q' V) :
    g.Along d n (if c then p else p') (if c then q else q') V :=
  fun hn => .ite (fun hc => hp hc hn) fun hc => hq hc hn

theorem optional (h : g.Along d n p q V) :
    g.Along 0 n (Parser.optional p) (Parser.optional q) (Option.Rel V) := by
  refine fun hn => (Agree.optional (h hn)).imp ?_
  rintro m a b (⟨rfl, rfl, rfl⟩ | ⟨c, d, rfl, rfl, hm, hV⟩)
  · exact ⟨.refl hn, .none⟩
  · exact ⟨hm.weak, .some hV⟩

theorem grow {f : α → Parser α} {f' : β → Parser β} {a : α} {b : β} (h : V a b)
    (hpart : ∀ m, g.Leads 0 n m → ∀ a b, V a b → g.Along 1 m (f a) (f' b) V) :
    g.Along 0 n (Parser.grow f a) (Parser.grow f' b) V := fun hn =>
  .grow (fun m a b hV => (hpart m hV.1 a b hV.2 hV.1.lt).imp fun _ _ _ hW =>
    ⟨hW.1.le, hV.1.after hW.1, hW.2⟩) ⟨.refl hn, h⟩

theorem many (hpart : ∀ m, g.Leads 0 n m → g.Along 1 m p q V) :
    g.Along 0 n (Parser.many p) (Parser.many q) (List.Forall₂ V) := fun hn =>
  (Agree.many (J := g.Leads 0 n) (fun m hm => (hpart m hm hm.lt).imp fun _ _ _ hV =>
    ⟨hV.1.le, hm.after hV.1, hV.2⟩) (.refl hn)).imp fun _ _ _ hV => hV.2

theorem some' (hpart : ∀ m, g.Leads 0 n m → g.Along 1 m p q V) :
    g.Along 1 n (Parser.some' p) (Parser.some' q) (List.Forall₂ V) := fun hn =>
  (hpart n (.refl hn)).bind (fun _ hm _ _ hV => (many fun _ hk => hpart _ (hm.weak.after hk)).bind
    fun _ _ _ _ hmore => .pure (.cons hV hmore)) hn

end Along

/-! ### Looks -/

namespace Looks

variable {V V' : α → β → Prop} {W : γ → δ → Prop}

theorem pure {a : α} {b : β} (h : V a b) : g.Looks n (Pure.pure a) (Pure.pure b) V :=
  fun _ => .pure ⟨rfl, h⟩

theorem stuck : g.Looks n (Parser.stuck : Parser α) (Parser.stuck : Parser β) V := fun _ => .stuck

theorem bind {f : α → Parser γ} {f' : β → Parser δ} (h : g.Looks n p q V)
    (hf : ∀ a b, V a b → g.Looks n (f a) (f' b) W) : g.Looks n (p >>= f) (q >>= f') W := fun hn =>
  (h hn).bind fun m a b hV => by
    obtain ⟨rfl, hV⟩ := hV
    exact hf a b hV hn

theorem ite {c : Prop} [Decidable c] (hp : c → g.Looks n p q V) (hq : ¬c → g.Looks n p' q' V) :
    g.Looks n (if c then p else p') (if c then q else q') V :=
  fun hn => .ite (fun hc => hp hc hn) fun hc => hq hc hn

theorem along (h : g.Looks n p q V) : g.Along 0 n p q V := by
  refine fun hn => (h hn).imp ?_
  rintro m a b ⟨rfl, hV⟩
  exact ⟨.refl hn, hV⟩

theorem ahead {d : ℕ} (h : g.Along d n p q V) :
    g.Looks n (Parser.ahead p) (Parser.ahead q) fun a b => a.isSome = b.isSome :=
  fun hn => Agree.ahead (h hn)

theorem diagnose : g.Looks n (Parser.diagnose p) (Parser.diagnose q) fun _ _ => True :=
  fun _ => Agree.diagnose.imp fun _ _ _ h => ⟨h, trivial⟩

theorem diagnoseFrom {t t' : Outlook} (ht : t.diagnosing = false ∧ t'.diagnosing = false) :
    g.Looks n (Parser.diagnoseFrom t p) (Parser.diagnoseFrom t' q) fun _ _ => True :=
  fun _ => (Agree.diagnoseFrom ht).imp fun _ _ _ h => ⟨h, trivial⟩

theorem outlook :
    g.Looks n Parser.outlook Parser.outlook fun s s' => s.diagnosing = false ∧ s'.diagnosing = false :=
  fun _ _ _ hs => .ok ⟨n, hs, rfl, hs.plain⟩

theorem here : g.Looks n Parser.here Parser.here (g.Starts n) := by
  intro hn s s' hs
  obtain ⟨hleft, hright⟩ := hs.exists_rest (List.getElem?_eq_getElem hn)
  refine .ok ⟨n, hs, rfl, fun p hp => ?_⟩
  rw [List.getElem?_eq_getElem hn, Option.some.injEq] at hp
  rw [hleft, hright, ← hp]
  exact ⟨rfl, rfl⟩

/-- What was read since a place spans the tokens between. -/
theorem spanFrom {a b : Position} (h : g.Starts k a b) (hk : g.Leads 1 k n) :
    g.Looks n (Parser.spanFrom a) (Parser.spanFrom b) g.Spans :=
  fun _ => .spanFrom h (hk.written k le_rfl hk.le) hk.le

/-- The number of tokens that are left is fuel enough for them. -/
theorem fuel :
    g.Looks n (fun s => .ok s.rest.length s) (fun s => .ok s.rest.length s) fun i j =>
      g.pairs.length ≤ n + i ∧ g.pairs.length ≤ n + j := by
  intro _ s s' hs
  refine .ok ⟨n, hs, rfl, ?_⟩
  have hle := hs.le
  rw [hs.left, hs.right]
  simp only [List.length_append, List.length_map, List.length_drop]
  omega

theorem require {b : Bool} : g.Looks n (Parser.require b) (Parser.require b) fun _ _ => True := by
  cases b with
  | false => exact .stuck
  | true => exact .pure trivial

/-- What is asked of the next token depends on its kind and its characters only. -/
theorem nextIs {f : Token → Bool}
    (hf : ∀ t span depth firstLine, f ⟨t.kind, t.chars, span, depth, firstLine⟩ = f t) :
    g.Looks n (Parser.nextIs f) (Parser.nextIs f) fun b b' =>
      b' = b ∧ ∃ p, g.pairs[n]? = some p ∧ b = f p.1 :=
  fun hn => .peek (.inl hn) fun t span depth firstLine hp =>
    .pure ⟨rfl, hf t span depth firstLine, _, hp, rfl⟩

/-- Where an operator comes next, it is a written token. -/
theorem nextOp {s : String} :
    g.Looks n (Parser.nextOp s) (Parser.nextOp s) fun b b' => b' = b ∧ (b = true → g.Written n) :=
  fun hn => (nextIs (f := (·.isOperator s)) (fun _ _ _ _ => rfl) hn).imp fun _ _ _ h =>
    ⟨h.1, h.2.1, fun hb => by
      obtain ⟨-, -, p, hp, rfl⟩ := h
      exact ⟨p, hp, Token.isWritten_of_isOperator hb⟩⟩

theorem nextWord {s : String} :
    g.Looks n (Parser.nextWord s) (Parser.nextWord s) fun b b' => b' = b ∧ (b = true → g.Written n) :=
  fun hn => (nextIs (f := (·.isKeyword s)) (fun _ _ _ _ => rfl) hn).imp fun _ _ _ h =>
    ⟨h.1, h.2.1, fun hb => by
      obtain ⟨-, -, p, hp, rfl⟩ := h
      exact ⟨p, hp, Token.isWritten_of_isKeyword hb⟩⟩

theorem notOp {s : String} : g.Looks n (Parser.notOp s) (Parser.notOp s) fun _ _ => True :=
  nextOp.bind fun _ _ h => by
    rw [h.1]
    exact require

end Looks

/-! ### Single tokens -/

namespace Along

variable {d : ℕ} {V : α → β → Prop} {s : String}

theorem skip (h : g.Written n) : g.Along 1 n Parser.skip Parser.skip fun _ _ => True := by
  obtain ⟨p, hp, hw⟩ := h
  refine fun hn => (Agree.skip hp (.inl hw)).imp ?_
  rintro m - - rfl
  exact ⟨.of_written ⟨p, hp, hw⟩, trivial⟩

/-- A written token with a property of its kind and its characters. -/
theorem token {f : Token → Bool}
    (hf : ∀ t span depth firstLine, f ⟨t.kind, t.chars, span, depth, firstLine⟩ = f t)
    (hw : ∀ t, f t = true → t.isWritten = true) :
    g.Along 1 n (Parser.token f) (Parser.token f) fun t u => u.lexeme = t.lexeme := by
  refine fun hn => (Agree.token (.inl hn) hf fun t ht => .inl (hw t ht)).imp ?_
  rintro m t u ⟨rfl, hp, ht, htu⟩
  exact ⟨.of_written ⟨_, hp, hw t ht⟩, htu⟩

theorem op : g.Along 1 n (Parser.op s) (Parser.op s) fun _ _ => True :=
  (token (fun _ _ _ _ => rfl) fun _ => Token.isWritten_of_isOperator).bind
    fun _ _ _ _ _ => .pure trivial

theorem word : g.Along 1 n (Parser.word s) (Parser.word s) fun _ _ => True :=
  (token (fun _ _ _ _ => rfl) fun _ => Token.isWritten_of_isKeyword).bind
    fun _ _ _ _ _ => .pure trivial

theorem softWord : g.Along 1 n (Parser.softWord s) (Parser.softWord s) fun _ _ => True :=
  (token (fun _ _ _ _ => rfl) fun _ => Token.isWritten_of_isName).bind fun _ _ _ _ _ => .pure trivial

theorem name : g.Along 1 n Parser.name Parser.name Eq :=
  (token (fun _ _ _ _ => rfl) fun t ht => by rw [Token.isWritten, beq_iff_eq.1 ht]).bind
    fun _ _ _ _ h => .pure (congrArg identifier (Prod.mk.inj h).2.symm)

theorem demand : g.Along 1 n (Parser.demand s) (Parser.demand s) fun _ _ => True :=
  .peek fun _ _ _ _ hp => .ite (fun ht => .skip ⟨_, hp, Token.isWritten_of_isOperator ht⟩)
    fun _ => .object

theorem separated (hpart : ∀ m, g.Leads 0 n m → g.Along 1 m p q V) :
    g.Along 1 n (Parser.separated s p) (Parser.separated s q) (List.Forall₂ V) := fun hn =>
  (hpart n (.refl hn)).bind (fun _ hm _ _ hV => (many fun _ hk => op.seqRight fun i hi =>
    (hpart i ((hm.after hk).after hi).weak).weak).bind fun _ _ _ _ hmore => .pure (.cons hV hmore)) hn

theorem trailingComma : g.Along 0 n Parser.trailingComma Parser.trailingComma Eq :=
  .map (op.optional.imp fun a b h => by cases h <;> rfl)

/-- What was read spans what was gone over. -/
theorem spanned {p : Parser (Span → α)} {q : Parser (Span → β)}
    (h : g.Along 1 n p q fun f f' => ∀ σ τ, g.Spans σ τ → V (f σ) (f' τ)) :
    g.Along 1 n (Parser.spanned p) (Parser.spanned q) V :=
  Along.look Looks.here fun _ _ hstart => h.bind fun _ hm _ _ hV =>
    Along.look (Looks.spanFrom hstart hm) fun _ _ hspan => .pure (hV _ _ hspan)

end Along

end Pairing

end SpriteStage.Script
