import SpriteStage.Proofs.Script.Abreast.Line

/-!
# Tokens of a text within another one

A text that can be read to its end gives the same tokens within another text, up to the dedents at its
end: these come where the next line begins.

## Main definitions

* `Script.Excerpt.Reading` says how two texts are read up to the end of one of them
* `Script.Excerpt.ClosesLevels` says how a text is read that comes last

## Main results

* `Script.Excerpt.Meets.reading` holds if the text alone can be read to its end
* `Script.Excerpt.Meets.closesLevels` holds if the text alone does not begin with an indented line
-/

namespace SpriteStage.Script.Excerpt

variable (x : Excerpt)

/-- A token comes before another one: together they stand for a stretch of the text. -/
def Precedes (p q : Token × Token) : Prop :=
  p.1.isWritten = true → q.1.isWritten = true →
    ∃ n m, x.Covers n m ⟨p.1.span.start, q.1.span.stop⟩ ⟨p.2.span.start, q.2.span.stop⟩

/-- The tokens from a place up to the end of the text, where a line begins outside brackets, and the cursors
    there. -/
structure Reading (i : ℕ) (s t : Cursor) (ps : List (Token × Token)) (s' t' : Cursor) : Prop where
  meets : x.Meets x.text.length s' t'
  atLineStart : s'.atLineStart = true
  brackets : s'.brackets = []
  levels : t'.levels = s'.levels
  positive : ∀ w ∈ s'.levels, 0 < w.width
  cuts : ∀ p ∈ ps, x.Cuts i x.text.length p
  ordered : ps.Pairwise x.Precedes
  closes : (ps.map fun p => p.1.closes).sum + s'.levels.length = s.levels.length
  /-- What is written does not come last. -/
  last : ∀ p ∈ ps.getLast?, p.1.isWritten = false
  settled : ps = [] → s.atLineStart = true ∧ s.brackets = []

/-- The tokens of a text that comes last, and those of the text around, which first closes the `n` levels that are
    open.  From there on both are read from a line outside brackets that is not indented. -/
def ClosesLevels (n : ℕ) (left right : List Token) : Prop :=
  ∃ j u v fuel fuel' d, j ≤ x.text.length ∧ x.Meets j u v ∧ u.atLineStart = true ∧ u.brackets = [] ∧
    u.levels = [] ∧ v.levels = [] ∧ u.rest.length < fuel ∧ v.rest.length < fuel' ∧ d.lexeme = (.dedent, []) ∧
    left = u.tokens fuel ∧ right = List.replicate n d ++ v.tokens fuel'

variable {x} {i j : ℕ} {s t s' t' u v : Cursor} {ps qs : List (Token × Token)}

/-- Tokens of which one ends before the other one begins. -/
theorem Cuts.precedes {p q : Token × Token} (hp : x.Cuts i j p) {k : ℕ} (hq : x.Cuts j k q) :
    x.Precedes p q := by
  intro hp' hq'
  obtain ⟨n, m, -, hm, hleft⟩ := hp.spans hp'
  obtain ⟨n', m', hn', -, hright⟩ := hq.spans hq'
  refine ⟨n, m', ?_, hright.le, hleft.visible, ?_, ?_⟩
  · have := hleft.lt
    have := hright.lt
    omega
  · rw [hleft.left, hright.left]
  · rw [hleft.right, hright.right]

/-- A step comes before what is read further on. -/
theorem Reading.step (h : x.Reading j u v qs s' t') (hgoes : x.Goes i ps j u v)
    (hyields : s.Yields (ps.map Prod.fst) u) : x.Reading i s t (ps ++ qs) s' t' where
  meets := h.meets
  atLineStart := h.atLineStart
  brackets := h.brackets
  levels := h.levels
  positive := h.positive
  cuts p hp := by
    rcases List.mem_append.1 hp with hp | hp
    · exact (hgoes.cuts p hp).mono le_rfl hgoes.le
    · exact (h.cuts p hp).mono hgoes.lt.le le_rfl
  ordered := by
    -- Among the tokens of the step at most the last one is written, so that no two of them are out of order.
    refine List.pairwise_append.2 ⟨?_, h.ordered, fun p hp q hq => (hgoes.cuts p hp).precedes (h.cuts q hq)⟩
    refine (List.pairwise_map.1 hyields.single).imp fun hp hp' => ?_
    rw [hp] at hp'
    cases hp'
  closes := by
    have hstep := hyields.closes
    rw [List.map_map] at hstep
    rw [List.map_append, List.sum_append, add_assoc, h.closes, ← hstep]
    rfl
  last := by
    cases qs with
    | nil =>
      rw [List.append_nil]
      -- Nothing is read further on, so that the last token is the last one of the step.
      obtain ⟨hstart, hnil⟩ := h.settled rfl
      intro p hp
      refine (hyields.settled hstart hnil).1 p.1 ?_
      rw [List.getLast?_map, hp]
      rfl
    | cons q qs =>
      rw [List.getLast?_append_of_ne_nil _ (List.cons_ne_nil q qs)]
      exact h.last
  settled hnil := by
    obtain ⟨rfl, rfl⟩ := List.append_eq_nil_iff.1 hnil
    obtain ⟨hstart, hbrackets⟩ := h.settled rfl
    exact (hyields.settled hstart hbrackets).2 rfl

/-- Before the end of the text a step leads on to what is read further on. -/
theorem Meets.exists_next {fuel : ℕ} (h : x.Meets i s t) (hi : i < x.text.length)
    (hfinish : ∃ a ∈ s.tokens (fuel + 1), a.kind = .finish) :
    ∃ ts next, s.step = (ts, some next) ∧ ∃ a ∈ next.tokens fuel, a.kind = .finish := by
  obtain ⟨a, ha, hkind⟩ := hfinish
  have hnot : a ∉ s.step.1 := fun ha => h.kind_step_ne hi a ha hkind
  cases hs : s.step with
  | mk ts next =>
    rw [hs] at hnot
    cases next with
    | none =>
      rw [Cursor.tokens_of_stop (by rw [hs]), hs] at ha
      exact absurd ha hnot
    | some next =>
      rw [Cursor.tokens_of_step hs] at ha
      exact ⟨ts, next, rfl, a, (List.mem_append.1 ha).resolve_left hnot, hkind⟩

/-- **A text that can be read to its end** gives the same tokens within another text, which goes on to be
    read where the text ends. -/
theorem Meets.reading {fuel fuel' : ℕ} (h : x.Meets i s t) (hi : i ≤ x.text.length)
    (hend : i = x.text.length → s.atLineStart = true) (hlevels : t.levels = s.levels)
    (hpositive : ∀ w ∈ s.levels, 0 < w.width) (hfuel : s.rest.length < fuel) (hfuel' : t.rest.length < fuel')
    (hfinish : ∃ a ∈ s.tokens fuel, a.kind = .finish) :
    ∃ ps s' t' fuel'', x.Reading i s t ps s' t' ∧ t'.rest.length < fuel'' ∧
      s.tokens fuel = ps.map Prod.fst ++ s'.step.1 ∧ t.tokens fuel' = ps.map Prod.snd ++ t'.tokens fuel'' := by
  -- By induction on the fuel for the text alone; every step that does not stop leads to a later place.
  induction fuel generalizing i s t fuel' with
  | zero => cases hfuel
  | succ fuel ih =>
    rcases hi.lt_or_eq with hlt | rfl
    · obtain ⟨ts, next, hnext, hfinish'⟩ := h.exists_next hlt hfinish
      obtain ⟨ps, j, u, v, hs, ht, hend', hlevels', hgoes⟩ := h.step hlt hlevels (by rw [hnext])
      rw [hs] at hnext
      obtain rfl : u = next := Option.some.inj (Prod.mk.inj hnext).2
      have hyields := Cursor.yields_step hs
      have hleft := hgoes.meets.length_rest hgoes.le
      have hleft' := h.length_rest hi
      obtain ⟨fuel', rfl⟩ : ∃ n, fuel' = n + 1 := ⟨fuel' - 1, by omega⟩
      have hlt := hgoes.lt
      have hrest : u.rest.length < fuel ∧ v.rest.length < fuel' := by omega
      obtain ⟨qs, s', t', fuel'', hreading, hfuel'', hs', ht'⟩ :=
        ih hgoes.meets hgoes.le hend' hlevels' (hyields.positive hpositive) hrest.1 hrest.2 hfinish'
      refine ⟨ps ++ qs, s', t', fuel'', hreading.step hgoes hyields, hfuel'', ?_, ?_⟩
      · rw [Cursor.tokens_of_step hs, hs', List.map_append, List.append_assoc]
      · rw [Cursor.tokens_of_step ht, ht', List.map_append, List.append_assoc]
    · obtain ⟨hrest, -⟩ := h.rest_of_end
      have hstart := hend rfl
      have hbrackets : s.brackets = [] := by
        by_contra hne
        obtain ⟨hstop, hnot⟩ := Cursor.step_of_unclosed hrest hstart hne
        obtain ⟨a, ha, hkind⟩ := hfinish
        rw [Cursor.tokens_of_stop hstop] at ha
        exact hnot a ha hkind
      have hstop : s.step.2 = none := by rw [Cursor.step_of_rest_nil hrest hstart hpositive hbrackets]
      refine ⟨[], s, t, fuel', ⟨h, hstart, hbrackets, hlevels, hpositive, by rintro _ ⟨⟩, .nil, by simp,
        by rintro _ ⟨⟩, fun _ => ⟨hstart, hbrackets⟩⟩, hfuel', ?_, rfl⟩
      rw [Cursor.tokens_of_stop hstop]
      rfl

/-! ## Levels of what comes before -/

/-- Blank lines give no tokens, whatever the levels are. -/
theorem Meets.blank (h : x.Meets i s t) (hi : i < x.text.length)
    (hhead : s.rest.head? = some '#' ∨ s.rest.head? = some '\n') (hr : (s.lexemeOrEnd true).2 = some s') :
    ∃ j t', s.lexemeOrEnd true = ([], some s') ∧ t.lexemeOrEnd true = ([], some t') ∧
      s'.atLineStart = true ∧ s'.brackets = s.brackets ∧ (s'.levels = s.levels ∧ t'.levels = t.levels) ∧
      x.Goes i [] j s' t' := by
  obtain ⟨j, hblanks, -, hj⟩ := h.pastBlanks hi
  obtain ⟨k, hcomment, -, hk⟩ := hblanks.pastComment hj
  obtain ⟨c, cs, -, hs, -⟩ := hcomment.exists_head hk
  obtain ⟨hleft, hstart, hbrackets⟩ :=
    Cursor.lexemeOrEnd_of_blank hhead (by rw [hs]; exact List.cons_ne_nil c cs) hr
  obtain ⟨ps, j, u, t', hu, ht, -, hlevels, hgoes⟩ := h.lexemeOrEnd hi hr
  rw [hleft] at hu
  obtain ⟨hnil, hsome⟩ := Prod.mk.inj hu
  obtain rfl := Option.some.inj hsome
  obtain rfl : ps = [] := List.map_eq_nil_iff.1 hnil.symm
  exact ⟨j, t', hleft, ht, hstart, hbrackets, hlevels, hgoes⟩

/-- A line with nothing in it, or with a comment only, is passed without a token, whatever the levels are. -/
theorem Meets.step_blank {w : Indentation} (h : x.Meets i s t) (hi : i < x.text.length)
    (hstart : s.atLineStart = true) (hmeasure : Cursor.measure 0 {} (s.rest.length + 1) s = .ok (w, u))
    (hhead : u.rest.head? = some '#' ∨ u.rest.head? = some '\n') (hr : s.step.2 = some s') :
    ∃ j t', s.step = ([], some s') ∧ t.step = ([], some t') ∧ s'.atLineStart = true ∧
      s'.brackets = s.brackets ∧ (s'.levels = s.levels ∧ t'.levels = t.levels) ∧ x.Goes i [] j s' t' := by
  obtain ⟨k, v, hmeasure', hik, hk, hmeets⟩ :=
    h.measure hi (Nat.lt_succ_self _) (Nat.lt_succ_self t.rest.length) hmeasure
  have hu := Cursor.sameLine_measure hmeasure
  have hv := Cursor.sameLine_measure hmeasure'
  have hblank : (u.rest.head? == some '#' || u.rest.head? == some '\n') = true := by simpa using hhead
  have hs : s.step = ({ u with atLineStart := false } : Cursor).lexemeOrEnd true := by
    rw [Cursor.step, if_pos hstart, hmeasure]
    dsimp only
    rw [hblank, Bool.true_or, if_pos rfl]
  have ht : t.step = ({ v with atLineStart := false } : Cursor).lexemeOrEnd true := by
    rw [Cursor.step, if_pos (h.atLineStart.trans hstart), hmeasure']
    dsimp only
    rw [hmeets.head?_rest hk, hblank, Bool.true_or, if_pos rfl]
  have hmeets' : x.Meets k { u with atLineStart := false } { v with atLineStart := false } :=
    hmeets.congr ⟨rfl, rfl⟩ ⟨rfl, rfl⟩ rfl hmeets.brackets
  rw [hs] at hr ⊢
  rw [ht]
  obtain ⟨j, t', hleft, hright, hstart', hbrackets, hlevels, hgoes⟩ := hmeets'.blank hk hhead hr
  exact ⟨j, t', hleft, hright, hstart', hbrackets.trans hu.brackets,
    ⟨hlevels.1.trans hu.levels, hlevels.2.trans hv.levels⟩, hik.trans_lt hgoes.lt, hgoes.le, hgoes.meets,
    by rintro _ ⟨⟩⟩

/-- **A text that comes last** closes the levels that are open where it begins. -/
theorem Meets.closesLevels {fuel fuel' : ℕ} (h : x.Meets i s t) (hi : i ≤ x.text.length)
    (hstart : s.atLineStart = true) (hbrackets : s.brackets = []) (hlevels : s.levels = [])
    (hpositive : ∀ w ∈ t.levels, 0 < w.width) (hfuel : s.rest.length < fuel) (hfuel' : t.rest.length < fuel')
    (hfinish : ∃ a ∈ s.tokens fuel, a.kind = .finish)
    (hhead : ∀ a ∈ (s.tokens fuel).head?, a.kind ≠ .indent) (hafter : x.after = []) :
    x.ClosesLevels t.levels.length (s.tokens fuel) (t.tokens fuel') := by
  -- By induction on the fuel for the text alone, of which each blank line takes one.
  induction fuel generalizing i s t fuel' with
  | zero => cases hfuel
  | succ fuel ih =>
    obtain ⟨fuel', rfl⟩ : ∃ n, fuel' = n + 1 := ⟨fuel' - 1, by omega⟩
    have hbrackets' : t.brackets = [] := by
      have hmap := h.brackets
      rw [hbrackets, List.map_nil, List.map_eq_nil_iff] at hmap
      exact hmap
    have hline {v : Cursor} (hmeasure : Cursor.measure 0 {} (t.rest.length + 1) t = .ok ({}, v))
        (hv : ∀ c ∈ v.rest.head?, c ≠ '#' ∧ c ≠ '\n') :
        x.ClosesLevels t.levels.length (s.tokens (fuel + 1)) (t.tokens (fuel' + 1)) := by
      refine ⟨i, s, { t with levels := [] }, fuel + 1, fuel' + 1, _, hi,
        h.congr ⟨rfl, rfl⟩ ⟨rfl, rfl⟩ h.atLineStart h.brackets, hstart, hbrackets, hlevels, rfl, hfuel, hfuel',
        ?_, rfl, Cursor.tokens_of_levels (h.atLineStart.trans hstart) hmeasure hv
          ((Cursor.sameLine_measure hmeasure).brackets.trans hbrackets') hpositive fuel'⟩
      rfl
    rcases hi.lt_or_eq with hlt | rfl
    · obtain ⟨ts, next, hs, hfinish'⟩ := h.exists_next hlt hfinish
      have hstep := hs
      rw [Cursor.step, if_pos hstart] at hstep
      split at hstep
      · cases hstep
      rename_i w u hmeasure
      by_cases hblank : u.rest.head? = some '#' ∨ u.rest.head? = some '\n'
      · obtain ⟨j, t', hleft, ht, hstart', hbrackets'', hlevels', hgoes⟩ :=
          h.step_blank hlt hstart hmeasure hblank (by rw [hs])
        have hrest := hgoes.meets.length_rest hgoes.le
        have hrest' := h.length_rest hi
        have hlt' := hgoes.lt
        have hfuels : next.rest.length < fuel ∧ t'.rest.length < fuel' := by omega
        rw [Cursor.tokens_of_step hleft, List.nil_append] at hhead ⊢
        rw [Cursor.tokens_of_step ht, List.nil_append, ← hlevels'.2]
        rw [← hlevels'.2] at hpositive
        exact ih hgoes.meets hgoes.le hstart' (hbrackets''.trans hbrackets) (hlevels'.1.trans hlevels) hpositive
          hfuels.1 hfuels.2 hfinish' hhead
      · -- The first statement of the text is not indented.
        obtain ⟨j, v, hmeasure', -, hj, hmeets⟩ :=
          h.measure hlt (Nat.lt_succ_self _) (Nat.lt_succ_self t.rest.length) hmeasure
        have hu := Cursor.sameLine_measure hmeasure
        have hempty : u.brackets.isEmpty = true := by rw [hu.brackets, hbrackets, List.isEmpty_nil]
        dsimp only at hstep
        rw [if_neg (by simpa [hempty] using hblank)] at hstep
        split at hstep
        · cases hstep
        rename_i marks u' hmarks
        obtain ⟨-, -, rfl⟩ := Cursor.indent_of_levels_nil (s := { u with atLineStart := false })
            (hu.levels.trans hlevels) hmarks fun a ha => by
          have hmark : marks.head? = some a := ha
          refine hhead a ?_
          obtain ⟨marks', rfl⟩ := List.head?_eq_some_iff.1 hmark
          obtain rfl := (Prod.mk.inj hstep).1
          rw [Cursor.tokens_of_step hs]
          rfl
        refine hline hmeasure' fun c hc => ?_
        rw [hmeets.head?_rest hj] at hc
        rw [hc] at hblank
        simpa using hblank
    · have hrest : t.rest = [] := h.rest_of_end.2.trans hafter
      exact hline (Cursor.measure_of_rest_nil hrest) (by rw [hrest]; rintro c ⟨⟩)

end SpriteStage.Script.Excerpt
