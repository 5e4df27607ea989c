import SpriteStage.Proofs.Script.Abreast.Expression
import Mathlib.Data.Int.Basic

/-!
# Going over lines and blocks abreast

A statement goes over the ends of lines, and over indents and dedents that match.  If as many dedents as
indents are left, it cannot go past the pairs: a block is not closed before its dedent has come.

## Main definitions

* `Script.Pairing.nesting` is the number of blocks that are closed from a place on, if they match
* `Script.Pairing.Crosses` compares parsers that go over whole lines and blocks
* `Script.Pairing.Follows` compares parsers that may stand at the end of the pairs
-/

namespace SpriteStage.Script

/-- How many blocks a token closes: a dedent closes one, an indent opens one. -/
def Token.closes (t : Token) : ℤ :=
  match t.kind with
  | .dedent => 1
  | .indent => -1
  | _ => 0

theorem Token.closes_of_isWritten {t : Token} (h : t.isWritten = true) : t.closes = 0 := by
  rw [isWritten] at h
  rw [closes]
  split at h <;> simp_all

namespace Pairing

variable {α β γ δ : Type} (g : Pairing)

/-- How many blocks are closed from a place on, more than are opened. -/
def nesting (n : ℕ) : ℤ := ((g.pairs.drop n).map fun p => p.1.closes).sum

/-- A place where no more blocks are opened than are closed after it, unless both sequences end after the
    pairs. -/
def Level (n : ℕ) : Prop := g.IsOpen ∨ 0 ≤ g.nesting n

/-- A place within a block. -/
def Deep (n : ℕ) : Prop := g.IsOpen ∨ 1 ≤ g.nesting n

/-- From one place to another one at least `d` further on as many blocks are closed as are opened. -/
structure Passes (d n m : ℕ) : Prop where
  le : n + d ≤ m
  nesting : g.nesting m = g.nesting n

variable {g} {d e n m k : ℕ}

theorem nesting_eq {p : Token × Token} (hp : g.pairs[n]? = some p) :
    g.nesting n = p.1.closes + g.nesting (n + 1) := by
  obtain ⟨hn, rfl⟩ := List.getElem?_eq_some_iff.1 hp
  rw [nesting, nesting, List.drop_eq_getElem_cons hn, List.map_cons, List.sum_cons]

theorem nesting_length : g.nesting g.pairs.length = 0 := by
  rw [nesting, List.drop_length]
  rfl

/-- Within a block the pairs do not end, unless both sequences do. -/
theorem Deep.lt (h : g.Deep n) (hn : n ≤ g.pairs.length) : n < g.pairs.length ∨ g.IsOpen := by
  rcases h with hopen | hnesting
  · exact .inr hopen
  · refine .inl (lt_of_le_of_ne hn ?_)
    rintro rfl
    rw [nesting_length] at hnesting
    omega

theorem Deep.level (h : g.Deep n) : g.Level n := h.imp_right fun h => by omega

/-- What follows an indent is within a block. -/
theorem Level.deep {p : Token × Token} (h : g.Level n) (hp : g.pairs[n]? = some p)
    (hindent : p.1.kind = .indent) : g.Deep (n + 1) := by
  refine h.imp_right fun h => ?_
  have hnesting := nesting_eq hp
  rw [Token.closes, hindent] at hnesting
  dsimp only at hnesting
  omega

namespace Passes

theorem refl : g.Passes 0 n n := ⟨le_rfl, rfl⟩

theorem weak (h : g.Passes d n m) : g.Passes 0 n m := ⟨by have := h.le; omega, h.nesting⟩

theorem trans (h : g.Passes d n m) (h' : g.Passes e m k) : g.Passes (d + e) n k :=
  ⟨by have := h.le; have := h'.le; omega, h'.nesting.trans h.nesting⟩

theorem after (h : g.Passes d n m) (h' : g.Passes e m k) : g.Passes d n k :=
  ⟨by have := (h.trans h').le; omega, (h.trans h').nesting⟩

theorem before (h : g.Passes e n m) (h' : g.Passes d m k) : g.Passes d n k :=
  ⟨by have := (h.trans h').le; omega, (h.trans h').nesting⟩

theorem level (h : g.Passes d n m) (hn : g.Level n) : g.Level m := by rwa [Level, h.nesting]

theorem deep (h : g.Passes d n m) (hn : g.Deep n) : g.Deep m := by rwa [Deep, h.nesting]

theorem of_le (h : g.Passes d n m) (hk : k ≤ n) : k ≤ m := by
  have := h.le
  omega

end Passes

/-- Going over written tokens opens and closes no block. -/
theorem Leads.passes (h : g.Leads d n m) : g.Passes d n m := by
  refine ⟨h.le, ?_⟩
  have hle : n ≤ m := by have := h.le; omega
  have hwritten := h.written
  clear h
  -- By induction on the places that are gone over.
  induction m, hle using Nat.le_induction with
  | base => rfl
  | succ m hm ih =>
    obtain ⟨p, hp, hw⟩ := hwritten m hm (Nat.lt_succ_self m)
    rw [← ih fun k hk hlt => hwritten k hk (hlt.trans (Nat.lt_succ_self m)), nesting_eq hp,
      Token.closes_of_isWritten hw, zero_add]

variable (g) in
/-- Two parsers that go over at least `d` tokens, and over whole blocks, read the same. -/
def Crosses (d n : ℕ) (p : Parser α) (q : Parser β) (V : α → β → Prop) : Prop :=
  n < g.pairs.length → g.Level n → g.Agree n p q fun m a b => g.Passes d n m ∧ V a b

variable (g) in
/-- Two parsers that go over whole blocks read the same, also at the end of the pairs. -/
def Follows (n : ℕ) (p : Parser α) (q : Parser β) (V : α → β → Prop) : Prop :=
  g.Level n → g.Agree n p q fun m a b => g.Passes 0 n m ∧ V a b

variable {p p' : Parser α} {q q' : Parser β} {f : α → Parser γ} {f' : β → Parser δ} {V : α → β → Prop}
  {W : γ → δ → Prop}

/-! ## Whole lines and blocks -/

theorem Along.crosses (h : g.Along d n p q V) : g.Crosses d n p q V :=
  fun hn _ => (h hn).imp fun _ _ _ hV => ⟨hV.1.passes, hV.2⟩

/-- A part of a line comes first. -/
theorem Along.cross (h : g.Along d n p q V)
    (hf : ∀ m, g.Leads d n m → ∀ a b, V a b → g.Crosses 0 m (f a) (f' b) W) :
    g.Crosses d n (p >>= f) (q >>= f') W := fun hn hlevel =>
  (h hn).bind fun m a b hV => (hf m hV.1 a b hV.2 hV.1.lt (hV.1.passes.level hlevel)).imp
    fun _ _ _ hW => ⟨hV.1.passes.after hW.1, hW.2⟩

/-- A look at what follows comes first. -/
theorem Looks.cross (h : g.Looks n p q V) (hf : ∀ a b, V a b → g.Crosses d n (f a) (f' b) W) :
    g.Crosses d n (p >>= f) (q >>= f') W := fun hn hlevel =>
  (h hn).bind fun m a b hV => by
    obtain ⟨rfl, hV⟩ := hV
    exact hf a b hV hn hlevel

namespace Crosses

/-- A block comes first. -/
theorem bind (h : g.Crosses d n p q V)
    (hf : ∀ m, g.Passes d n m → ∀ a b, V a b → g.Follows m (f a) (f' b) W) :
    g.Crosses d n (p >>= f) (q >>= f') W := fun hn hlevel =>
  (h hn hlevel).bind fun m a b hV => (hf m hV.1 a b hV.2 (hV.1.level hlevel)).imp
    fun _ _ _ hW => ⟨hV.1.after hW.1, hW.2⟩

theorem weak (h : g.Crosses d n p q V) : g.Crosses 0 n p q V :=
  fun hn hlevel => (h hn hlevel).imp fun _ _ _ hV => ⟨hV.1.weak, hV.2⟩

theorem imp {V' : α → β → Prop} (h : g.Crosses d n p q V) (himp : ∀ a b, V a b → V' a b) :
    g.Crosses d n p q V' := fun hn hlevel => (h hn hlevel).imp fun _ _ _ hV => ⟨hV.1, himp _ _ hV.2⟩

theorem stuck : g.Crosses d n (Parser.stuck : Parser α) (Parser.stuck : Parser β) V :=
  fun _ _ => .stuck

theorem orElse (hp : g.Crosses d n p q V) (hq : g.Crosses d n p' q' V) :
    g.Crosses d n (p <|> p') (q <|> q') V := fun hn hlevel => (hp hn hlevel).orElse (hq hn hlevel)

theorem ite {c : Prop} [Decidable c] (hp : c → g.Crosses d n p q V) (hq : ¬c → g.Crosses d n p' q' V) :
    g.Crosses d n (if c then p else p') (if c then q else q') V :=
  fun hn hlevel => .ite (fun hc => hp hc hn hlevel) fun hc => hq hc hn hlevel

/-- The next token is looked at. -/
theorem peek {f : Token → Parser γ} {f' : Token → Parser δ}
    (hf : ∀ t span depth firstLine,
      g.pairs[n]? = some (t, ⟨t.kind, t.chars, span, depth, firstLine⟩) →
        g.Crosses d n (f t) (f' ⟨t.kind, t.chars, span, depth, firstLine⟩) W) :
    g.Crosses d n (Parser.peek >>= f) (Parser.peek >>= f') W := fun hn hlevel =>
  .peek (.inl hn) fun t span depth firstLine hp => hf t span depth firstLine hp hn hlevel

theorem map {h : α → γ} {h' : β → δ} (hpq : g.Crosses d n p q fun a b => W (h a) (h' b)) :
    g.Crosses d n (h <$> p) (h' <$> q) W := fun hn hlevel => .map (hpq hn hlevel)

/-- What was read since a written token spans what was gone over. -/
theorem spanned {p : Parser (Span → α)} {q : Parser (Span → β)} (hw : g.Written n)
    (h : g.Crosses 1 n p q fun f f' => ∀ σ τ, g.Spans σ τ → V (f σ) (f' τ)) :
    g.Crosses 1 n (Parser.spanned p) (Parser.spanned q) V :=
  Looks.here.cross fun _ _ hstart => h.bind fun m hm _ _ hV _ =>
    (Agree.spanFrom hstart hw hm.le).bind fun _ _ _ hspan => by
      obtain ⟨rfl, hspan⟩ := hspan
      exact .pure ⟨.refl, hV _ _ hspan⟩

/-- The end of a line. -/
theorem newline : g.Crosses 1 n (Parser.kind .newline) (Parser.kind .newline) fun _ _ => True := by
  refine fun hn _ => (Agree.token (.inl hn) (fun _ _ _ _ => rfl) fun t ht => ?_).bind ?_
  · exact .inr (by rw [Token.isVisible, beq_iff_eq.1 ht])
  rintro m t u ⟨rfl, hp, ht, -⟩
  refine .pure ⟨⟨le_rfl, ?_⟩, trivial⟩
  rw [nesting_eq hp, Token.closes, beq_iff_eq.1 ht, zero_add]

end Crosses

/-! ## The end of the pairs -/

theorem peek_of_startsAnew {s : Outlook} {t : Token} {ts : List Token} (hs : s.rest = t :: ts)
    (ht : t.StartsAnew) : Parser.peek s = .ok t { s with seen := max s.seen (s.index + 1) } := by
  obtain ⟨rest, index, seen, stop, depth, diagnosing⟩ := s
  subst hs
  rw [Parser.peek]
  dsimp only
  split
  · exact absurd ‹_› (ht.whole _)
  · rfl

/-- At the end of the pairs there is nothing, or a new statement begins in both sequences. -/
theorem Agree.peek_of_end {f : Token → Parser γ} {f' : Token → Parser δ} {W : ℕ → γ → δ → Prop}
    (hf : ∀ t u, t.StartsAnew → u.StartsAnew → g.Agree g.pairs.length (f t) (f' u) W) :
    g.Agree g.pairs.length (Parser.peek >>= f) (Parser.peek >>= f') W := by
  intro s s' hs
  obtain ⟨hrest, hrest'⟩ := hs.rest_of_end
  rw [Parser.bind_apply, Parser.bind_apply]
  rcases g.ends with ⟨hleft, hright⟩ | ⟨⟨t, ts, hleft, ht⟩, u, us, hright, hu⟩
  · rw [Parser.peek, Parser.peek, hrest, hrest', hleft, hright]
    exact .stuck _ _
  · rw [peek_of_startsAnew (hrest.trans hleft) ht, peek_of_startsAnew (hrest'.trans hright) hu]
    exact hf t u ht hu _ _ (hs.seen _ _)

/-- A token with which no new statement begins is not there at the end of the pairs. -/
theorem Agree.token_of_end {f : Token → Bool} (hf : ∀ t : Token, t.StartsAnew → f t = false)
    {V : ℕ → Token → Token → Prop} : g.Agree g.pairs.length (Parser.token f) (Parser.token f) V :=
  .peek_of_end fun t u ht hu => by
    rw [hf t ht, hf u hu]
    exact .stuck

theorem Agree.indent_of_end {V : ℕ → Unit → Unit → Prop} :
    g.Agree g.pairs.length (Parser.kind .indent) (Parser.kind .indent) V :=
  (token_of_end (V := fun _ _ _ => False) fun _ ht => beq_eq_false_iff_ne.2 ht.level).bind
    fun _ _ _ h => h.elim

theorem Agree.word_of_end {s : String} (hs : s ∈ ["else", "elif", "except", "finally"])
    {V : ℕ → Unit → Unit → Prop} : g.Agree g.pairs.length (Parser.word s) (Parser.word s) V :=
  (token_of_end (V := fun _ _ _ => False) fun _ ht => ht.word s hs).bind fun _ _ _ h => h.elim

theorem Agree.op_of_open (hopen : g.IsOpen) {s : String} {V : ℕ → Unit → Unit → Prop} :
    g.Agree g.pairs.length (Parser.op s) (Parser.op s) V :=
  Agree.bind (V := fun _ _ _ => False) (.peek_of_open hopen) fun _ _ _ h => h.elim

theorem Agree.nextIs_of_end {f : Token → Bool} (hf : ∀ t : Token, t.StartsAnew → f t = false) :
    g.Agree g.pairs.length (Parser.nextIs f) (Parser.nextIs f) fun m b b' =>
      m = g.pairs.length ∧ b = false ∧ b' = false :=
  .peek_of_end fun t u ht hu => .pure ⟨rfl, hf t ht, hf u hu⟩

namespace Follows

theorem pure {a : α} {b : β} (h : V a b) : g.Follows n (Pure.pure a) (Pure.pure b) V :=
  fun _ => .pure ⟨.refl, h⟩

theorem bind (h : g.Follows n p q V)
    (hf : ∀ m, g.Passes 0 n m → ∀ a b, V a b → g.Follows m (f a) (f' b) W) :
    g.Follows n (p >>= f) (q >>= f') W := fun hlevel =>
  (h hlevel).bind fun m a b hV => (hf m hV.1 a b hV.2 (hV.1.level hlevel)).imp
    fun _ _ _ hW => ⟨hV.1.after hW.1, hW.2⟩

/-- What follows is within the pairs, or at their end. -/
theorem of_end (h : g.Crosses 0 n p q V)
    (hend : g.Agree g.pairs.length p q fun m a b => m = g.pairs.length ∧ V a b) :
    g.Follows n p q V := by
  intro hlevel s s' hs
  rcases hs.le.lt_or_eq with hlt | rfl
  · exact h hlt hlevel s s' hs
  · refine hend.imp ?_ s s' hs
    rintro m a b ⟨rfl, hV⟩
    exact ⟨.refl, hV⟩

/-- A keyword that goes on with a statement is looked for. -/
theorem nextWord {s : String} (hs : s ∈ ["else", "elif", "except", "finally"])
    {f : Bool → Parser γ} {f' : Bool → Parser δ} (htrue : g.Written n → g.Crosses 0 n (f true) (f' true) W)
    (hfalse : g.Follows n (f false) (f' false) W) :
    g.Follows n (Parser.nextWord s >>= f) (Parser.nextWord s >>= f') W := by
  intro hlevel t t' ht
  rcases ht.le.lt_or_eq with hlt | rfl
  · refine Agree.bind (Looks.nextWord hlt) (fun m b b' hb => ?_) t t' ht
    obtain ⟨rfl, rfl, hw⟩ := hb
    cases b' with
    | true => exact htrue (hw rfl) hlt hlevel
    | false => exact hfalse hlevel
  · refine Agree.bind (Agree.nextIs_of_end fun t ht => ht.word s hs) (fun m b b' hb => ?_) t t' ht
    obtain ⟨rfl, rfl, rfl⟩ := hb
    exact hfalse hlevel

theorem crosses (h : g.Follows n p q V) : g.Crosses 0 n p q V := fun _ => h

theorem diagnose : g.Follows n (Parser.diagnose p) (Parser.diagnose q) fun _ _ => True :=
  fun _ => Agree.diagnose.imp fun _ _ _ h => ⟨h ▸ .refl, trivial⟩

end Follows

/-- Within a block part after part is read, each of which goes over whole lines and blocks. -/
theorem Deep.some' (hn : g.Deep n) (hpart : ∀ m, g.Passes 0 n m → g.Crosses 1 m p q V)
    (hend : g.IsOpen → g.Agree g.pairs.length p q fun _ _ _ => False) :
    g.Agree n (Parser.some' p) (Parser.some' q) fun m as bs =>
      g.Passes 1 n m ∧ List.Forall₂ V as bs := by
  refine (Agree.some' (J := g.Passes 0 n) (R := V) (fun m hm => .of_le fun hle => ?_) .refl).imp
    fun _ _ _ hV => ⟨⟨hV.1, hV.2.1.nesting⟩, hV.2.2⟩
  rcases hle.lt_or_eq with hlt | rfl
  · exact (hpart m hm hlt (hm.level hn.level)).imp fun _ _ _ hV => ⟨hV.1.le, hm.after hV.1, hV.2⟩
  · have hopen := ((hm.deep hn).lt le_rfl).resolve_left (lt_irrefl _)
    exact (hend hopen).imp fun _ _ _ h => h.elim

/-- A block between an indent and its dedent.  Its end comes before the pairs end. -/
theorem Follows.indented {u : α → γ} {w : β → δ}
    (hinner : ∀ m, n ≤ m → g.Deep m → g.Agree m p q fun k a b => g.Passes 0 m k ∧ W (u a) (w b)) :
    g.Follows n (do Parser.kind .indent; let a ← p; Parser.kind .dedent; return u a)
      (do Parser.kind .indent; let b ← q; Parser.kind .dedent; return w b) W := by
  refine fun hlevel => .of_le fun hle => ?_
  rcases hle.lt_or_eq with hlt | rfl
  · have hindent : g.Agree n (Parser.kind .indent) (Parser.kind .indent) fun m _ _ =>
        m = n + 1 ∧ g.Deep m ∧ g.nesting m = g.nesting n + 1 := by
      refine (Agree.token (.inl hlt) (fun _ _ _ _ => rfl) fun t ht => ?_).bind ?_
      · exact .inr (by rw [Token.isVisible, beq_iff_eq.1 ht])
      rintro m t u ⟨rfl, hp, ht, -⟩
      have hnesting := nesting_eq hp
      rw [Token.closes, beq_iff_eq.1 ht] at hnesting
      exact .pure ⟨rfl, hlevel.deep hp (beq_iff_eq.1 ht), by dsimp only at hnesting; omega⟩
    refine hindent.bind fun m _ _ hm => (hinner m (by omega) hm.2.1).bind fun i a b hi => ?_
    refine .of_le fun hle => Agree.bind (V := fun j _ _ => g.Passes 0 n j) ?_ fun _ _ _ hj =>
      .pure ⟨hj, hi.2⟩
    refine (Agree.token ((hi.1.deep hm.2.1).lt hle) (fun _ _ _ _ => rfl) fun t ht => ?_).bind ?_
    · exact .inr (by rw [Token.isVisible, beq_iff_eq.1 ht])
    rintro j t u ⟨rfl, hp, ht, -⟩
    have hnesting := nesting_eq hp
    rw [Token.closes, beq_iff_eq.1 ht] at hnesting
    have hle := hi.1.le
    have hsame := hi.1.nesting
    exact .pure ⟨by omega, by dsimp only at hnesting; omega⟩
  · exact (Agree.indent_of_end (V := fun _ _ _ => False)).bind fun _ _ _ h => h.elim

end Pairing

end SpriteStage.Script
