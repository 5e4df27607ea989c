import SpriteStage.Proofs.Script.Abreast.Compound
import SpriteStage.Proofs.Script.Abreast.Tokenizing
import SpriteStage.Proofs.Script.Segment

/-!
# Scripts within the texts they are read from

Where the parts of a script stand is known from the text: a part begins with a character that is not blank,
and it ends further on.  This holds in the text alone, and within any text that ends with it.

## Main definitions

* `Script.Span.Marks` says that a stretch goes from one character of a text up to another one

## Main results

* `Script.exists_finish_of_tokenize` says that only texts are scripts that are read to their end
* `Script.Excerpt.Reading.exists_pairing` pairs the tokens of a text with those of a text that ends with it
* `Script.exists_pairing_of_read` finds the parts of a script in its text
-/

namespace SpriteStage.Script

/-! ## The last token -/

/-- What comes last is an end or stands for what cannot be read, and nothing before it does. -/
def EndsOnce (ts : List Token) : Prop :=
  ∃ us t, ts = us ++ [t] ∧ t.isWritten = false ∧ ∀ u ∈ us, u.IsPlain

theorem endsOnce_singleton {t : Token} (h : t.isWritten = false) : EndsOnce [t] :=
  ⟨[], t, rfl, h, by rintro _ ⟨⟩⟩

theorem EndsOnce.append {us ts : List Token} (h : EndsOnce ts) (hus : ∀ u ∈ us, u.IsPlain) :
    EndsOnce (us ++ ts) := by
  obtain ⟨vs, t, rfl, ht, hvs⟩ := h
  exact ⟨us ++ vs, t, (List.append_assoc us vs [t]).symm, ht,
    fun u hu => (List.mem_append.1 hu).elim (hus u) (hvs u)⟩

/-- An end comes last, and all that comes before it could be read. -/
theorem EndsOnce.exists_of_finish {ts : List Token} (h : EndsOnce ts) (hfinish : ∃ t ∈ ts, t.kind = .finish) :
    ∃ us t, ts = us ++ [t] ∧ t.kind = .finish ∧ ∀ u ∈ us, u.IsPlain := by
  obtain ⟨us, t, rfl, -, hus⟩ := h
  obtain ⟨u, hu, hkind⟩ := hfinish
  rcases List.mem_append.1 hu with hu | hu
  · exact absurd hkind (hus u hu).1
  · rw [List.mem_singleton.1 hu] at hkind
    exact ⟨us, t, rfl, hkind, hus⟩

namespace Cursor

variable {s : Cursor}

theorem isWritten_finish (s : Cursor) : s.finish.isWritten = false := by
  rw [finish]
  split <;> rfl

theorem endsOnce_lexemeOrEnd {b : Bool} (h : (s.lexemeOrEnd b).2 = none) : EndsOnce (s.lexemeOrEnd b).1 := by
  rw [lexemeOrEnd_eq] at h ⊢
  split at h
  · exact endsOnce_singleton (isWritten_finish _)
  · rw [lineEnd] at h
    split at h <;> cases h
  · split at h
    · cases h
    · rename_i hcontinued
      exact endsOnce_singleton (isBroken_breakContinuation _).isWritten
  · rename_i c rest hend hbackslash hrest
    rcases cutsOff_lexeme s.pastBlanks.pastComment c with ⟨s', hsome, -⟩ | ⟨-, t, ht, hbroken⟩
    · rw [hsome] at h
      cases h
    · rw [ht]
      exact endsOnce_singleton hbroken.isWritten

theorem endsOnce_step (h : s.step.2 = none) : EndsOnce s.step.1 := by
  rw [step] at h ⊢
  split at h
  · rename_i hstart
    rw [if_pos hstart]
    split at h
    · rename_i e hmeasure
      exact endsOnce_singleton (isBroken_of_measure hmeasure).isWritten
    · dsimp only at h ⊢
      split at h
      · rename_i hquiet
        rw [if_pos hquiet]
        exact endsOnce_lexemeOrEnd h
      · rename_i hquiet
        rw [if_neg hquiet]
        split at h
        · rename_i e hindent
          exact endsOnce_singleton (isBroken_of_indent hindent).isWritten
        · rename_i marks v hmarks
          exact (endsOnce_lexemeOrEnd h).append (isPlain_of_indent hmarks)
  · rename_i hstart
    rw [if_neg hstart]
    exact endsOnce_lexemeOrEnd h

/-- **The last token** is the only end, or the only one that stands for what cannot be read. -/
theorem endsOnce_tokens (fuel : ℕ) (s : Cursor) : EndsOnce (s.tokens fuel) := by
  induction fuel generalizing s with
  | zero => exact endsOnce_singleton (isWritten_finish s)
  | succ fuel ih =>
    cases hs : s.step with
    | mk ts next =>
      cases next with
      | none =>
        have hstop : s.step.2 = none := by rw [hs]
        rw [tokens_of_stop hstop]
        exact endsOnce_step hstop
      | some next =>
        rw [tokens_of_step hs]
        exact (ih next).append (isPlain_of_step hs)

end Cursor

/-! ## Scripts -/

/-- A sequence of tokens goes together with itself. -/
def Pairing.self (tokens : List Token) (h : EndsOnce tokens) : Pairing where
  pairs := tokens.map fun t => (t, t)
  left := []
  right := []
  alike p hp := by
    obtain ⟨t, -, rfl⟩ := List.mem_map.1 hp
    rfl
  closed p hp := by
    obtain ⟨us, t, rfl, ht, -⟩ := h
    rw [List.map_append, List.map_singleton, List.getLast?_concat] at hp
    obtain rfl := Option.some.inj hp
    exact ht
  ends := .inl ⟨rfl, rfl⟩

/-- What is read is what the plain mode finds. -/
theorem exists_of_ofTokens {tokens : List Token} {script : List Stmt} (h : ofTokens tokens = .ok script) :
    ∃ s, Grammar.script (Grammar.rules (tokens.length + 1)) (tokens.length + 1) { rest := tokens } =
      .ok script s := by
  rw [ofTokens] at h
  split at h
  · rename_i found s hscript
    obtain rfl := Except.ok.inj h
    exact ⟨s, hscript⟩
  · cases h
  · split at h <;> cases h

namespace Pairing

variable {g : Pairing} {ss ts : List Stmt}

/-- **Sequences of tokens that go together up to their ends** write scripts of the same form, or none. -/
theorem abreast_ofTokens (hopen : g.IsOpen) :
    (∃ ss ts, ofTokens (g.pairs.map Prod.fst) = .ok ss ∧ ofTokens (g.pairs.map Prod.snd) = .ok ts ∧
      (∃ p ∈ g.pairs, p.1.kind = .finish) ∧ List.Forall₂ (Stmt.Alike g.Spans) ss ts) ∨
    (∀ ss, ofTokens (g.pairs.map Prod.fst) ≠ .ok ss) ∧ ∀ ts, ofTokens (g.pairs.map Prod.snd) ≠ .ok ts := by
  have hmeets : g.Meets 0 { rest := g.pairs.map Prod.fst } { rest := g.pairs.map Prod.snd } :=
    ⟨Nat.zero_le _, by rw [hopen.1]; simp, by rw [hopen.2]; simp, by rintro k ⟨⟩, rfl, rfl⟩
  have hleft : g.pairs.length ≤ (g.pairs.map Prod.fst).length + 1 := by simp
  have hright : g.pairs.length ≤ (g.pairs.map Prod.snd).length + 1 := by simp
  have habreast := Grammar.abreast_script hopen hleft hright _ _ hmeets
  -- Where one of them is not read, neither is the other one.
  have hnone {tokens : List Token} {reply : Reply (List Stmt)} (hreply : Grammar.script
      (Grammar.rules (tokens.length + 1)) (tokens.length + 1) { rest := tokens } = reply)
      (hnot : ∀ ss s, reply ≠ .ok ss s) (ss : List Stmt) : ofTokens tokens ≠ .ok ss := by
    intro h
    obtain ⟨s, hscript⟩ := Script.exists_of_ofTokens h
    exact hnot ss s (hreply.symm.trans hscript)
  generalize hreply : Grammar.script _ _ { rest := g.pairs.map Prod.fst } = reply at habreast
  generalize hreply' : Grammar.script _ _ { rest := g.pairs.map Prod.snd } = reply' at habreast
  cases habreast with
  | @ok ss _ ts _ hmatch =>
    obtain ⟨-, -, hfinish, halike⟩ := hmatch
    refine .inl ⟨ss, ts, ?_, ?_, hfinish, halike⟩
    · rw [ofTokens, hreply]
    · rw [ofTokens, hreply']
  | stuck i j => exact .inr ⟨hnone hreply (by rintro _ _ ⟨⟩), hnone hreply' (by rintro _ _ ⟨⟩)⟩
  | objection o o' i j => exact .inr ⟨hnone hreply (by rintro _ _ ⟨⟩), hnone hreply' (by rintro _ _ ⟨⟩)⟩

/-- What is read from the left tokens is read from the right ones as well. -/
theorem exists_of_ofTokens (hopen : g.IsOpen) (h : ofTokens (g.pairs.map Prod.fst) = .ok ss) :
    ∃ ts, ofTokens (g.pairs.map Prod.snd) = .ok ts ∧ (∃ p ∈ g.pairs, p.1.kind = .finish) ∧
      List.Forall₂ (Stmt.Alike g.Spans) ss ts := by
  rcases abreast_ofTokens hopen with ⟨ss', ts, hss, hts, hfinish, halike⟩ | ⟨hnot, -⟩
  · obtain rfl : ss = ss' := Except.ok.inj (h.symm.trans hss)
    exact ⟨ts, hts, hfinish, halike⟩
  · exact absurd h (hnot ss)

end Pairing

/-- **Only a text that is read to its end** is a script. -/
theorem exists_finish_of_tokenize {cs : List Char} {script : List Stmt} (h : ofTokens (tokenize cs) = .ok script) :
    ∃ t ∈ tokenize cs, t.kind = .finish := by
  have hmap {tokens : List Token} (hends : EndsOnce tokens) :
      (Pairing.self tokens hends).pairs.map Prod.fst = tokens := by
    simp [Pairing.self, Function.comp_def]
  have hends : EndsOnce (tokenize cs) := Cursor.endsOnce_tokens _ _
  obtain ⟨-, -, ⟨p, hp, hkind⟩, -⟩ :=
    Pairing.exists_of_ofTokens (g := .self _ hends) ⟨rfl, rfl⟩ (by rw [hmap]; exact h)
  obtain ⟨t, ht, rfl⟩ := List.mem_map.1 hp
  exact ⟨t, ht, hkind⟩

/-! ## Texts that come last -/

namespace Excerpt

variable {x : Excerpt} {i j : ℕ} {s t s' t' : Cursor} {ps qs : List (Token × Token)}

/-- What is written from one token up to another one is a stretch of the text. -/
theorem exists_covers_of_spans {g : Pairing} (hpairs : g.pairs = ps ++ qs) (hcuts : ∀ p ∈ ps, x.Cuts i j p)
    (hordered : ps.Pairwise x.Precedes) (hqs : ∀ q ∈ qs, q.1.isWritten = false) {σ τ : Span}
    (h : g.Spans σ τ) : ∃ n m, x.Covers n m σ τ := by
  obtain ⟨k, l, hle, p, q, hp, hq, hwritten, hwritten', rfl, rfl⟩ := h
  have hlt {l : ℕ} {q : Token × Token} (hq : g.pairs[l]? = some q) (hwritten : q.1.isWritten = true) :
      ps[l]? = some q := by
    rw [hpairs] at hq
    rcases Nat.lt_or_ge l ps.length with hlt | hge
    · rwa [List.getElem?_append_left hlt] at hq
    · rw [List.getElem?_append_right hge] at hq
      rw [hqs q (List.mem_of_getElem? hq)] at hwritten
      cases hwritten
  have hp' := hlt hp hwritten
  have hq' := hlt hq hwritten'
  rcases hle.lt_or_eq with hkl | rfl
  · obtain ⟨hk, rfl⟩ := List.getElem?_eq_some_iff.1 hp'
    obtain ⟨hl, rfl⟩ := List.getElem?_eq_some_iff.1 hq'
    exact List.pairwise_iff_getElem.1 hordered k l hk hl hkl hwritten hwritten'
  · obtain rfl : p = q := Option.some.inj (hp.symm.trans hq)
    obtain ⟨n, m, -, -, hcovers⟩ := (hcuts p (List.mem_of_getElem? hp')).spans hwritten
    exact ⟨n, m, hcovers⟩

/-- The tokens up to the end of a text, and what is not written after them, go together with those of the
    text around. -/
def Reading.pairing (h : x.Reading i s t ps s' t')
    (hqs : ∀ q ∈ qs, q.1.lexeme = q.2.lexeme ∧ q.1.isWritten = false) (left right : List Token)
    (hends : (left = [] ∧ right = []) ∨
      (∃ t ts, left = t :: ts ∧ t.StartsAnew) ∧ ∃ t ts, right = t :: ts ∧ t.StartsAnew) : Pairing where
  pairs := ps ++ qs
  left := left
  right := right
  alike p hp := (List.mem_append.1 hp).elim (fun hp => (h.cuts p hp).lexeme) fun hp => (hqs p hp).1
  closed p hp := by
    rcases eq_or_ne qs [] with rfl | hne
    · rw [List.append_nil] at hp
      exact h.last p hp
    · rw [List.getLast?_append_of_ne_nil _ hne] at hp
      exact (hqs p (List.mem_of_getLast? hp)).2
  ends := hends

/-- **A text that comes last** goes together with the end of the text around, up to their ends. -/
theorem Reading.exists_pairing (h : x.Reading i s t ps s' t') (hafter : x.after = []) (fuel : ℕ) :
    ∃ g : Pairing, g.IsOpen ∧ g.pairs.map Prod.fst = ps.map Prod.fst ++ s'.step.1 ∧
      g.pairs.map Prod.snd = ps.map Prod.snd ++ t'.tokens (fuel + 1) ∧
      ∀ σ τ, g.Spans σ τ → ∃ n m, x.Covers n m σ τ := by
  obtain ⟨hrest, hrest'⟩ := h.meets.rest_of_end
  rw [hafter] at hrest'
  have hbrackets : t'.brackets = [] := by
    have hmap := h.meets.brackets
    rwa [h.brackets, List.map_nil, List.map_eq_nil_iff] at hmap
  obtain ⟨d, f, hs, hd, hf⟩ : ∃ d f, s'.step = (List.replicate s'.levels.length d ++ [f], none) ∧
      d.lexeme = (.dedent, []) ∧ f.lexeme = (.finish, []) :=
    ⟨_, _, Cursor.step_of_rest_nil hrest h.atLineStart h.positive h.brackets, rfl, rfl⟩
  obtain ⟨d', f', ht, hd', hf'⟩ : ∃ d' f', t'.step = (List.replicate s'.levels.length d' ++ [f'], none) ∧
      d'.lexeme = (.dedent, []) ∧ f'.lexeme = (.finish, []) := by
    rw [← h.levels]
    exact ⟨_, _, Cursor.step_of_rest_nil hrest' (h.meets.atLineStart.trans h.atLineStart)
      (by rw [h.levels]; exact h.positive) hbrackets, rfl, rfl⟩
  rw [Cursor.tokens_of_stop (by rw [ht]), ht, hs]
  have hqs : ∀ q ∈ List.replicate s'.levels.length (d, d') ++ [(f, f')],
      q.1.lexeme = q.2.lexeme ∧ q.1.isWritten = false := by
    intro q hq
    rcases List.mem_append.1 hq with hq | hq
    · obtain rfl := List.eq_of_mem_replicate hq
      exact ⟨hd.trans hd'.symm, by rw [Token.isWritten, (Prod.mk.inj hd).1]⟩
    · obtain rfl := List.mem_singleton.1 hq
      exact ⟨hf.trans hf'.symm, by rw [Token.isWritten, (Prod.mk.inj hf).1]⟩
  refine ⟨h.pairing hqs [] [] (.inl ⟨rfl, rfl⟩), ⟨rfl, rfl⟩, ?_, ?_, fun σ τ =>
    exists_covers_of_spans rfl h.cuts h.ordered fun q hq => (hqs q hq).2⟩
  · simp [pairing]
  · simp [pairing]

end Excerpt

/-! ## Parts of scripts -/

/-- A stretch of a text from a character that is not blank up to the place before another one. -/
def Span.Marks (cs : List Char) (σ : Span) : Prop :=
  ∃ n m, n < m ∧ m < cs.length ∧ (∀ c ∈ cs[n]?, Text.isBlank c = false) ∧ σ = ⟨place cs n, place cs m⟩

/-- What the lexer reads ends with a line end. -/
theorem getLast?_readable (text : List Char) : (readable text).getLast? = some '\n' := by
  rcases readable_cases text with ⟨h, hlast⟩ | h
  · rw [h, hlast]
  · rw [h, List.getLast?_concat]

/-- A text as a part of itself. -/
def Excerpt.self (text : List Char) : Excerpt := ⟨[], readable text, [], getLast?_readable text⟩

/-- **The parts of a script** are stretches of the text that it is read from. -/
theorem exists_pairing_of_read {text : List Char} {script : List Stmt} (h : read text = .ok script) :
    ∃ g : Pairing, List.Forall₂ (Stmt.Alike g.Spans) script script ∧
      ∀ σ τ, g.Spans σ τ → τ = σ ∧ σ.Marks (readable text) := by
  have hmeets : (Excerpt.self text).Meets 0 { rest := readable text } { rest := readable text } :=
    ⟨⟨rfl, rfl⟩, ⟨by simp [Excerpt.self, Excerpt.whole], rfl⟩, rfl, rfl⟩
  obtain ⟨ps, s', t', fuel, hreading, hfuel, hs, ht⟩ := hmeets.reading (Nat.zero_le _) (fun _ => rfl) rfl
    (by rintro w ⟨⟩) (Nat.lt_succ_self _) (Nat.lt_succ_self _) (exists_finish_of_tokenize h)
  obtain ⟨fuel, rfl⟩ : ∃ n, fuel = n + 1 := ⟨fuel - 1, by omega⟩
  obtain ⟨g, hopen, hleft, hright, hspans⟩ := hreading.exists_pairing rfl fuel
  have hread : ofTokens (tokenize (readable text)) = .ok script := h
  have hread' : ofTokens (g.pairs.map Prod.fst) = .ok script := by
    rw [hleft, ← hs]
    exact h
  obtain ⟨script', hread', -, halike⟩ := Pairing.exists_of_ofTokens hopen hread'
  rw [hright, ← ht] at hread'
  obtain rfl : script = script' := Except.ok.inj (hread.symm.trans hread')
  refine ⟨g, halike, fun σ τ hσ => ?_⟩
  obtain ⟨n, m, hcovers⟩ := hspans σ τ hσ
  refine ⟨?_, n, m, hcovers.lt, hcovers.le, hcovers.visible, hcovers.left⟩
  rw [hcovers.left, hcovers.right]
  simp [Excerpt.self, Excerpt.whole]

end SpriteStage.Script
