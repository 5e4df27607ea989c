import SpriteStage.Proofs.Script.Abreast.BlankLine
import SpriteStage.Proofs.Script.Abreast.Sequel
import SpriteStage.Proofs.Script.Continuation
import SpriteStage.Proofs.Script.Junction

/-!
# Texts one after the other

After a text that ends with a line end, and that is a script by itself, the lexer has come back to where it began:
no bracket is open, no line goes on, and what is indented is closed by the first line that follows.  So a script
that comes next is read as it is by itself, only further down.  Lines that hold a backslash only may come between.

## Main definitions

* `Script.Joint` says how two texts that are put together are read

## Main results

* `Script.exists_joint` holds if both texts can be read to their ends
* `Script.exists_of_tokenize_append` reads two scripts one after the other
* `Script.exists_of_read_append` does so for texts with line ends of all kinds
-/

namespace SpriteStage.Script

/-! ## Where scripts begin -/

theorem Token.StartsAnew.congr {t u : Token} (h : t.StartsAnew) (hlexeme : t.lexeme = u.lexeme) :
    u.StartsAnew := by
  obtain ⟨hkind, hchars⟩ := Prod.mk.inj hlexeme
  refine ⟨fun reason => ?_, ?_, fun w hw => ?_⟩
  · rw [← hkind]
    exact h.whole reason
  · rw [← hkind]
    exact h.level
  · have hword := h.word w hw
    rwa [Token.isKeyword, hkind, hchars] at hword

/-- **A script begins** with a statement, or with the end marker. -/
theorem exists_head_of_tokenize {cs : List Char} {ts : List Stmt} (h : ofTokens (tokenize cs) = .ok ts) :
    ∃ b bs, tokenize cs = b :: bs ∧ b.StartsAnew := by
  obtain ⟨us, e, htokens, he, hplain⟩ :=
    (Cursor.endsOnce_tokens _ _).exists_of_finish (exists_finish_of_tokenize h)
  change tokenize cs = us ++ [e] at htokens
  -- No token is broken, for the text could be read.
  have hwhole : ∀ t ∈ tokenize cs, ∀ reason, t.kind ≠ .broken reason := by
    intro t ht reason hkind
    rw [htokens] at ht
    rcases List.mem_append.1 ht with ht | ht
    · exact (hplain t ht).2 ⟨reason, hkind⟩
    · rw [List.mem_singleton.1 ht, he] at hkind
      cases hkind
  obtain ⟨b, bs, hb⟩ : ∃ b bs, tokenize cs = b :: bs := by
    rw [htokens]
    exact List.exists_cons_of_ne_nil (List.append_ne_nil_of_right_ne_nil _ (List.cons_ne_nil e []))
  refine ⟨b, bs, hb, ?_⟩
  rw [hb] at h hwhole
  -- What begins no statement can only be the end marker.
  have hbegins : Grammar.BeginsNone b.lexeme → b.kind = .finish := by
    intro hnone
    obtain ⟨s, hscript⟩ := exists_of_ofTokens h
    obtain ⟨o, t, ho, hscript⟩ := Parser.exists_of_bind_ok hscript
    obtain ⟨⟨⟩, t', hkind, -⟩ := Parser.exists_of_bind_ok hscript
    obtain ⟨e', rest, hrest, hfinish⟩ := Parser.exists_of_kind_ok hkind
    rcases Parser.optional_cases ho with ⟨found, -, hfound⟩ | ⟨-, seen, rfl⟩
    · obtain ⟨parts, hparts, -⟩ := Parser.exists_of_map_ok hfound
      obtain ⟨first, t, hfirst, -⟩ := Parser.exists_of_bind_ok hparts
      have hfaces : Outlook.Faces { rest := b :: bs } (b.lexeme :: bs.map Token.lexeme) := ⟨rfl, rfl, hwhole⟩
      obtain ⟨seen, hstuck⟩ := Grammar.fails_statement hnone _ hfaces
      rw [hstuck] at hfirst
      cases hfirst
    · rw [(List.cons.inj hrest).1]
      exact hfinish
  refine ⟨hwhole b List.mem_cons_self, fun hkind => ?_, fun w hw => ?_⟩
  · have hfinish := hbegins (.inl (by rw [Token.lexeme, hkind]; simp))
    rw [hkind] at hfinish
    cases hfinish
  · by_contra hkeyword
    have hlexeme : b.lexeme = (.keyword, w.toList) := by
      rw [Bool.not_eq_false, Parser.isKeyword_eq, beq_iff_eq] at hkeyword
      exact hkeyword
    have hfinish := hbegins (.inr ⟨w, hw, hlexeme⟩)
    rw [(Prod.mk.inj hlexeme).1] at hfinish
    cases hfinish

/-! ## Texts with line ends -/

namespace Excerpt

variable {x : Excerpt} {s t s' t' : Cursor} {ps : List (Token × Token)}

/-- The tokens of a text up to its end marker, and those of the text around up to where the next line closes what
    is indented. -/
theorem Reading.exists_closed {i : ℕ} (h : x.Reading i s t ps s' t') (hlevels : s.levels = [])
    (hends : EndsOnce (ps.map Prod.fst ++ s'.step.1)) {d : Token} (hd : d.lexeme = (.dedent, []))
    (right : List Token) (hright : ∃ b bs, right = b :: bs ∧ b.StartsAnew) :
    ∃ (g : Pairing) (e : Token), e.lexeme = (.finish, []) ∧ g.left = [e] ∧ g.right = right ∧ g.nesting 0 = 0 ∧
      (∀ p ∈ g.pairs, p.1.IsPlain) ∧ g.pairs.map Prod.fst ++ [e] = ps.map Prod.fst ++ s'.step.1 ∧
      g.pairs.map Prod.snd = ps.map Prod.snd ++ List.replicate t'.levels.length d ∧
      ∀ σ τ, g.Spans σ τ → ∃ n m, x.Covers n m σ τ := by
  obtain ⟨d', e, hs, hd', he⟩ : ∃ d' e, s'.step = (List.replicate s'.levels.length d' ++ [e], none) ∧
      d'.lexeme = (.dedent, []) ∧ e.lexeme = (.finish, []) :=
    ⟨_, _, Cursor.step_of_rest_nil h.meets.rest_of_end.1 h.atLineStart h.positive h.brackets, rfl, rfl⟩
  have hkind : d'.kind = .dedent := (Prod.mk.inj hd').1
  have hfinish : e.kind = .finish := (Prod.mk.inj he).1
  have hqs : ∀ q ∈ List.replicate s'.levels.length (d', d),
      q.1.lexeme = q.2.lexeme ∧ q.1.isWritten = false := by
    intro q hq
    obtain rfl := List.eq_of_mem_replicate hq
    exact ⟨hd'.trans hd.symm, by rw [Token.isWritten, hkind]⟩
  have hanew : e.StartsAnew := by
    refine ⟨fun reason => ?_, ?_, fun w _ => ?_⟩
    · rw [hfinish]
      rintro ⟨⟩
    · rw [hfinish]
      rintro ⟨⟩
    · rw [Token.isKeyword, hfinish]
      rfl
  refine ⟨h.pairing hqs [e] right (.inr ⟨⟨e, [], rfl, hanew⟩, hright⟩), e, he, rfl, rfl, ?_, ?_, ?_, ?_,
    fun σ τ => exists_covers_of_spans rfl h.cuts h.ordered fun q hq => (hqs q hq).2⟩
  · -- As many levels are closed as are open.
    have hcloses := h.closes
    rw [hlevels, List.length_nil] at hcloses
    have hdedent : d'.closes = 1 := by rw [Token.closes, hkind]
    simp only [Pairing.nesting, Reading.pairing, List.drop_zero, List.map_append, List.map_replicate,
      List.sum_append, List.sum_replicate, hdedent, nsmul_eq_mul, mul_one]
    exact_mod_cast hcloses
  · obtain ⟨us, e', hus, -, hplain⟩ := hends
    rw [hs, ← List.append_assoc] at hus
    have hinit : (ps ++ List.replicate s'.levels.length (d', d)).map Prod.fst = us := by
      rw [List.map_append, List.map_replicate]
      exact (List.append_inj' hus rfl).1
    exact fun p hp => hplain p.1 (hinit ▸ List.mem_map_of_mem hp)
  · rw [hs]
    simp [Reading.pairing]
  · rw [h.levels]
    simp [Reading.pairing]

end Excerpt

/-- **A text that comes last** is read as it is by itself, once the levels are closed that are open where it
    begins, even after lines that hold a backslash only. -/
theorem exists_pairing_of_at {cs ds : List Char} {n fuel : ℕ} {t : Cursor}
    (hcs : cs = [] ∨ cs.getLast? = some '\n') (hds : ds.getLast? = some '\n')
    (ht : t.At (cs ++ backslashLines n ++ ds) cs.length) (hstart : t.atLineStart = true) (hbrackets : t.brackets = [])
    (hpositive : ∀ w ∈ t.levels, 0 < w.width) (hfuel : t.rest.length < fuel)
    (hfinish : ∃ a ∈ tokenize ds, a.kind = .finish)
    (hanew : ∃ b bs, tokenize ds = b :: bs ∧ b.StartsAnew) :
    ∃ (g : Pairing) (d : Token), g.IsOpen ∧ d.lexeme = (.dedent, []) ∧ g.pairs.map Prod.fst = tokenize ds ∧
      t.tokens fuel = List.replicate t.levels.length d ++ g.pairs.map Prod.snd ∧
      ∀ σ τ, g.Spans σ τ → τ = σ.down (cs.count '\n' + n) ∧ σ.Marks ds := by
  have hne : ds ≠ [] := by
    rintro rfl
    cases hds
  obtain ⟨fuel, rfl⟩ : ∃ n, fuel = n + 1 := ⟨fuel - 1, by omega⟩
  -- Past the lines before the text.
  have hrest : t.rest = backslashLines n ++ ds := by rw [ht.rest, List.append_assoc, List.drop_left]
  obtain ⟨u, hu, hline, htokens⟩ := ht.exists_past_backslashLines hstart hrest hne
  let y : Excerpt := ⟨cs ++ backslashLines n, ds, [], hds⟩
  have hy : y.Meets 0 { rest := ds } u := by
    refine ⟨⟨rfl, rfl⟩, ?_, hline.atLineStart.trans hstart, by rw [hline.brackets, hbrackets]⟩
    simpa [y, Excerpt.whole] using hu
  have hufuel : u.rest.length < fuel + 1 := by
    have hlength := (hy.length_rest (Nat.zero_le _)).2
    rw [hrest, List.length_append] at hfuel
    simp only [y, List.length_nil] at hlength
    omega
  have hhead : ∀ a ∈ (tokenize ds).head?, a.kind ≠ .indent := by
    obtain ⟨b, bs, hbegin, hanew⟩ := hanew
    rw [hbegin]
    rintro a ⟨⟩
    exact hanew.level
  -- Before the first statement of the text the levels are closed.
  obtain ⟨j, v, w, f, f', d, hj, hvw, hstart', -, hvlevels, hwlevels, hf, hf', hd, hleft, hright⟩ :=
    hy.closesLevels (Nat.zero_le _) rfl rfl rfl (by rw [hline.levels]; exact hpositive) (Nat.lt_succ_self _) hufuel
      hfinish hhead rfl
  obtain ⟨qs, v', w', fuel', hreading, hfuel', hleft', hright'⟩ := hvw.reading hj (fun _ => hstart')
    (hwlevels.trans hvlevels.symm) (by rw [hvlevels]; rintro w ⟨⟩) hf hf' (by rw [← hleft]; exact hfinish)
  obtain ⟨fuel', rfl⟩ : ∃ n, fuel' = n + 1 := ⟨fuel' - 1, by omega⟩
  obtain ⟨g, hopen, hpairs, hpairs', hspans⟩ := hreading.exists_pairing rfl fuel'
  refine ⟨g, d, hopen, hd, ?_, ?_, fun σ τ hσ => ?_⟩
  · rw [hpairs, ← hleft', ← hleft]
    rfl
  · rw [htokens, hright, hright', hpairs', hline.levels]
  · obtain ⟨k, m, hcovers⟩ := hspans σ τ hσ
    refine ⟨?_, k, m, hcovers.lt, hcovers.le, hcovers.visible, hcovers.left⟩
    rw [hcovers.left, hcovers.right]
    simp only [y, Excerpt.whole, List.append_nil, place_append_backslashLines hcs n hne, Span.down]

/-- Two texts one after the other, with `n` lines between them that hold a backslash only.  The first text can be
    read to its end: `first` pairs its tokens with the first tokens of both texts, up to the end marker `last`,
    and `second` pairs the tokens of the other text with those that are left. -/
structure Joint (cs : List Char) (n : ℕ) (ds : List Char) where
  first : Pairing
  last : Token
  second : Pairing
  lexeme : last.lexeme = (.finish, [])
  left : first.left = [last]
  right : first.right = second.pairs.map Prod.snd
  level : first.nesting 0 = 0
  plain : ∀ p ∈ first.pairs, p.1.IsPlain
  isOpen : second.IsOpen
  tokens : first.pairs.map Prod.fst ++ [last] = tokenize cs
  tokens' : second.pairs.map Prod.fst = tokenize ds
  whole : tokenize (cs ++ backslashLines n ++ ds) = first.pairs.map Prod.snd ++ second.pairs.map Prod.snd
  spans : ∀ σ τ, first.Spans σ τ → τ = σ ∧ σ.Marks cs
  spans' : ∀ σ τ, second.Spans σ τ → τ = σ.down (cs.count '\n' + n) ∧ σ.Marks ds

/-- **Where the first text ends** the second one is read as it is by itself. -/
theorem exists_joint {cs ds : List Char} (hcs : cs.getLast? = some '\n') (n : ℕ) (hds : ds.getLast? = some '\n')
    (hfinish : ∃ t ∈ tokenize cs, t.kind = .finish) (hfinish' : ∃ t ∈ tokenize ds, t.kind = .finish)
    (hanew : ∃ b bs, tokenize ds = b :: bs ∧ b.StartsAnew) : Nonempty (Joint cs n ds) := by
  -- The first text within both of them.
  let x : Excerpt := ⟨[], cs, backslashLines n ++ ds, hcs⟩
  have hx : x.Meets 0 { rest := cs } { rest := cs ++ backslashLines n ++ ds } :=
    ⟨⟨rfl, rfl⟩, ⟨by simp [x, Excerpt.whole], rfl⟩, rfl, rfl⟩
  obtain ⟨ps, s', t', fuel, hreading, hfuel, hleft, hright⟩ := hx.reading (Nat.zero_le _) (fun _ => rfl) rfl
    (by rintro w ⟨⟩) (Nat.lt_succ_self _) (Nat.lt_succ_self _) hfinish
  have hbrackets : t'.brackets = [] := by
    have hmap := hreading.meets.brackets
    rwa [hreading.brackets, List.map_nil, List.map_eq_nil_iff] at hmap
  -- The second text at the end of both of them.
  have hat : t'.At (cs ++ backslashLines n ++ ds) cs.length := by
    have hat := hreading.meets.right
    simpa [x, Excerpt.whole] using hat
  obtain ⟨h, d, hopen, hd, hds', hwhole, hspans⟩ := exists_pairing_of_at (.inr hcs) hds hat
    (hreading.meets.atLineStart.trans hreading.atLineStart) hbrackets
    (by rw [hreading.levels]; exact hreading.positive) hfuel hfinish' hanew
  have hfollows : ∃ c cs, h.pairs.map Prod.snd = c :: cs ∧ c.StartsAnew := by
    obtain ⟨b, bs, hbegin, hanew⟩ := hanew
    rw [hbegin] at hds'
    obtain ⟨p, rest, hp, rfl, -⟩ := List.map_eq_cons_iff.1 hds'
    refine ⟨p.2, rest.map Prod.snd, by rw [hp, List.map_cons], hanew.congr ?_⟩
    exact h.alike p (hp ▸ List.mem_cons_self)
  obtain ⟨g, e, he, hgleft, hgright, hlevel, hplain, hg, hg', hgspans⟩ := hreading.exists_closed rfl
    (hleft ▸ Cursor.endsOnce_tokens _ _) hd _ hfollows
  refine ⟨⟨g, e, h, he, hgleft, hgright, hlevel, hplain, hopen, hg.trans hleft.symm, hds', ?_, fun σ τ hσ => ?_,
    hspans⟩⟩
  · rw [hg', List.append_assoc (ps.map Prod.snd), ← hwhole, ← hright]
    rfl
  · obtain ⟨k, m, hcovers⟩ := hgspans σ τ hσ
    have hm : m < cs.length := hcovers.le
    refine ⟨?_, k, m, hcovers.lt, hm, hcovers.visible, hcovers.left⟩
    rw [hcovers.left, hcovers.right]
    simp only [x, Excerpt.whole, List.nil_append, List.length_nil, Nat.zero_add,
      place_before (hcovers.lt.trans hm), place_before hm]

/-- **Two scripts one after the other** are read as each of them is by itself, the second one further down. -/
theorem exists_of_tokenize_append {cs ds : List Char} {ss ts : List Stmt} (hcs : cs.getLast? = some '\n')
    (n : ℕ) (hds : ds.getLast? = some '\n') (hss : ofTokens (tokenize cs) = .ok ss)
    (hts : ofTokens (tokenize ds) = .ok ts) (hnot : ∀ x ∈ ss, ∀ form σ, x ≠ .other form σ) :
    ∃ us vs P Q, ofTokens (tokenize (cs ++ backslashLines n ++ ds)) = .ok (us ++ vs) ∧
      List.Forall₂ (Stmt.Alike P) ss us ∧ List.Forall₂ (Stmt.Alike Q) ts vs ∧
      (∀ σ τ, P σ τ → τ = σ ∧ σ.Marks cs) ∧ ∀ σ τ, Q σ τ → τ = σ.down (cs.count '\n' + n) ∧ σ.Marks ds := by
  obtain ⟨j⟩ := exists_joint hcs n hds (exists_finish_of_tokenize hss) (exists_finish_of_tokenize hts)
    (exists_head_of_tokenize hts)
  rw [← j.tokens] at hss
  rw [← j.tokens'] at hts
  obtain ⟨us, vs, hread, hus, hvs⟩ := Pairing.ofTokens_append (Prod.mk.inj j.lexeme).1 j.left j.right j.level
    j.plain j.isOpen (j.tokens' ▸ Cursor.endsOnce_tokens _ _) hss hts hnot
  exact ⟨us, vs, _, _, by rw [j.whole]; exact hread, hus, hvs, j.spans, j.spans'⟩

/-- **After lines that hold a backslash only** a script is read as it is by itself, further down. -/
theorem exists_of_tokenize_backslashLines {ds : List Char} {ts : List Stmt} (n : ℕ)
    (hds : ds.getLast? = some '\n') (hts : ofTokens (tokenize ds) = .ok ts) :
    ∃ vs Q, ofTokens (tokenize (backslashLines n ++ ds)) = .ok vs ∧ List.Forall₂ (Stmt.Alike Q) ts vs ∧
      ∀ σ τ, Q σ τ → τ = σ.down n ∧ σ.Marks ds := by
  have hat : ({ rest := backslashLines n ++ ds } : Cursor).At ([] ++ backslashLines n ++ ds) 0 := ⟨rfl, rfl⟩
  obtain ⟨g, d, hopen, -, hds', hwhole, hspans⟩ := exists_pairing_of_at (.inl rfl) hds hat rfl rfl
    (by rintro w ⟨⟩) (Nat.lt_succ_self _) (exists_finish_of_tokenize hts) (exists_head_of_tokenize hts)
  rw [← hds'] at hts
  obtain ⟨vs, hvs, -, halike⟩ := Pairing.exists_of_ofTokens hopen hts
  refine ⟨vs, g.Spans, ?_, halike, by simpa using hspans⟩
  rw [tokenize, hwhole]
  exact hvs

namespace Joint

variable {cs ds : List Char} {n : ℕ} (j : Joint cs n ds)

theorem isWritten_last : j.last.isWritten = false := by
  rw [Token.isWritten, (Prod.mk.inj j.lexeme).1]

/-- The tokens of the first text with its end marker, which goes together with another one. -/
def withEnd (e : Token) (he : e.lexeme = (.finish, [])) : Pairing where
  pairs := j.first.pairs ++ [(j.last, e)]
  left := j.second.left
  right := j.second.right
  alike p hp := by
    rcases List.mem_append.1 hp with hp | hp
    · exact j.first.alike p hp
    · rw [List.mem_singleton.1 hp]
      exact j.lexeme.trans he.symm
  closed p hp := by
    rw [List.getLast?_concat] at hp
    obtain rfl := Option.some.inj hp
    exact j.isWritten_last
  ends := j.second.ends

variable {e : Token} {he : e.lexeme = (.finish, [])}

/-- The end marker is no part of what is written. -/
theorem spans_of_withEnd {σ τ : Span} (h : (j.withEnd e he).Spans σ τ) : j.first.Spans σ τ := by
  have hwritten {k : ℕ} {p : Token × Token} (hp : (j.withEnd e he).pairs[k]? = some p)
      (hw : p.1.isWritten = true) : j.first.pairs[k]? = some p := by
    change (j.first.pairs ++ [(j.last, e)])[k]? = some p at hp
    rcases Nat.lt_or_ge k j.first.pairs.length with hlt | hge
    · rwa [List.getElem?_append_left hlt] at hp
    · rw [List.getElem?_append_right hge] at hp
      rw [List.mem_singleton.1 (List.mem_of_getElem? hp), j.isWritten_last] at hw
      cases hw
  obtain ⟨k, l, hle, p, q, hp, hq, hwp, hwq, hσ, hτ⟩ := h
  exact ⟨k, l, hle, p, q, hwritten hp hwp, hwritten hq hwq, hwp, hwq, hσ, hτ⟩

end Joint

/-- A blank line at the end of a text does not matter, if the text can be read to its end.  Between them there may
    be lines that hold a backslash only. -/
theorem exists_of_tokenize_line {cs : List Char} {n : ℕ} {ts : List Stmt} (hcs : cs.getLast? = some '\n')
    (hfinish : ∃ t ∈ tokenize cs, t.kind = .finish)
    (h : ofTokens (tokenize (cs ++ backslashLines n ++ ['\n'])) = .ok ts) :
    ∃ ss P, ofTokens (tokenize cs) = .ok ss ∧ List.Forall₂ (Stmt.Alike P) ss ts ∧
      ∀ σ τ, P σ τ → τ = σ ∧ σ.Marks cs := by
  obtain ⟨e, he, hlexeme, hanew⟩ : ∃ e, tokenize ['\n'] = [e] ∧ e.lexeme = (.finish, []) ∧ e.StartsAnew :=
    ⟨_, rfl, rfl, by rintro reason ⟨⟩, by rintro ⟨⟩, fun w _ => rfl⟩
  obtain ⟨j⟩ : Nonempty (Joint cs n ['\n']) := exists_joint hcs n rfl hfinish
    ⟨e, by rw [he]; exact List.mem_singleton_self e, (Prod.mk.inj hlexeme).1⟩ ⟨e, [], he, hanew⟩
  -- The end marker of the blank line is that of the text as well.
  have hsecond := j.tokens'
  rw [he] at hsecond
  obtain ⟨p, rest, hp, rfl, hnil⟩ := List.map_eq_cons_iff.1 hsecond
  obtain rfl : rest = [] := List.map_eq_nil_iff.1 hnil
  have hend : p.2.lexeme = (.finish, []) := by
    rw [← hlexeme, ← j.second.alike p (hp ▸ List.mem_singleton_self p)]
  have hleft : (j.withEnd p.2 hend).pairs.map Prod.fst = tokenize cs := by
    rw [← j.tokens]
    exact List.map_append
  have hright : (j.withEnd p.2 hend).pairs.map Prod.snd = tokenize (cs ++ backslashLines n ++ ['\n']) := by
    rw [j.whole, hp]
    exact List.map_append
  rcases Pairing.abreast_ofTokens (g := j.withEnd p.2 hend) j.isOpen with
    ⟨ss, ts', hss, hts, -, halike⟩ | ⟨-, hnot⟩
  · rw [hright, h] at hts
    obtain rfl := Except.ok.inj hts
    rw [hleft] at hss
    exact ⟨ss, _, hss, halike, fun σ τ hσ => j.spans σ τ (j.spans_of_withEnd hσ)⟩
  · rw [hright] at hnot
    exact absurd h (hnot ts)

/-- Where all statements have a form that is known, so do those that are alike. -/
theorem ne_other_of_alike {P : Span → Span → Prop} {ss ts : List Stmt} (h : List.Forall₂ (Stmt.Alike P) ss ts)
    (hts : ∀ x ∈ ts, ∀ form σ, x ≠ .other form σ) : ∀ x ∈ ss, ∀ form σ, x ≠ .other form σ := by
  induction h with
  | nil => exact fun x hx => absurd hx List.not_mem_nil
  | cons h _ ih =>
    obtain ⟨ht, hts⟩ := List.forall_mem_cons.1 hts
    refine List.forall_mem_cons.2 ⟨?_, ih hts⟩
    rintro form σ rfl
    cases h
    exact ht form _ rfl

/-- What is a stretch of a text is so with more of it. -/
theorem Span.Marks.append {cs : List Char} {σ : Span} (h : σ.Marks cs) (ds : List Char) : σ.Marks (cs ++ ds) := by
  obtain ⟨n, m, hlt, hm, hvisible, rfl⟩ := h
  refine ⟨n, m, hlt, ?_, ?_, ?_⟩
  · rw [List.length_append]
    exact Nat.lt_add_right _ hm
  · rwa [List.getElem?_append_left (hlt.trans hm)]
  · rw [place_before (hlt.trans hm), place_before hm]

/-! ## Texts with line ends of all kinds -/

section

variable {cs ds : List Char} {ss : List Stmt} (h : Text.EndsBefore cs ds) (hread : read cs = .ok ss)

include h hread

/-- A script is read to its end with single line ends, unless a carriage return and a line feed come after a
    backslash at its end. -/
theorem exists_finish_of_read (hnot : ¬ ['\\', '\r', '\n'] <:+ cs) :
    ∃ t ∈ tokenize (Text.unifyNewlines cs), t.kind = .finish := by
  have hlast := h.getLast?_unifyNewlines
  have hfinish : ∃ t ∈ tokenize (readable cs), t.kind = .finish := exists_finish_of_tokenize hread
  by_cases hcrlf : ['\r', '\n'] <:+ cs
  · rw [readable_eq, if_neg fun h => h.2 hcrlf] at hfinish
    refine exists_finish_of_blank hlast ?_ hfinish
    rintro ⟨line, hline⟩
    obtain ⟨more, rfl⟩ := hcrlf
    rw [Text.unifyNewlines_append (by rintro - ⟨⟩)] at hline
    have hbackslash : (Text.unifyNewlines more).getLast? = some '\\' := by
      have hinit : (line ++ ['\\']) ++ ['\n'] = Text.unifyNewlines more ++ ['\n'] := by
        rw [List.append_assoc]
        exact hline
      rw [← (List.append_inj' hinit rfl).1, List.getLast?_concat]
    obtain ⟨init, rfl⟩ := List.getLast?_eq_some_iff.1 (Text.getLast?_of_unifyNewlines (by decide) hbackslash)
    exact hnot ⟨init, by rw [List.append_assoc]; rfl⟩
  · rwa [readable_eq, if_pos ⟨hlast, hcrlf⟩] at hfinish

variable (hcontinued : ['\\', '\r', '\n'] <:+ cs → ∃ us n, Text.unifyNewlines cs = us ++ backslashLines n ∧
  (us = [] ∨ us.getLast? = some '\n') ∧ ∃ script, read us = .ok script)

include hcontinued

/-- A script has the same statements if all its line ends are read as single ones and the lines at its end are
    left out that hold a backslash only. -/
theorem exists_of_unifyNewlines :
    ∃ us n rs P, Text.unifyNewlines cs = us ++ backslashLines n ∧ (us = [] ∨ us.getLast? = some '\n') ∧
      ofTokens (tokenize us) = .ok rs ∧ List.Forall₂ (Stmt.Alike P) rs ss ∧
      ∀ σ τ, P σ τ → τ = σ ∧ σ.Marks us := by
  by_cases hcontinues : ['\\', '\r', '\n'] <:+ cs
  · obtain ⟨us, n, hus, hlast, script, hscript⟩ := hcontinued hcontinues
    have hcrlf : ['\r', '\n'] <:+ cs := List.IsSuffix.trans ⟨['\\'], rfl⟩ hcontinues
    rw [read, readable_eq, if_neg fun h => h.2 hcrlf, hus] at hread
    rcases eq_or_ne us [] with rfl | hne
    · -- A text with such lines only has no statement.
      have hline : ofTokens (tokenize ['\n']) = .ok [] := rfl
      obtain ⟨vs, Q, hvs, hnil, -⟩ := exists_of_tokenize_backslashLines n rfl hline
      rw [List.nil_append, hvs] at hread
      obtain rfl := Except.ok.inj hread
      obtain rfl := List.forall₂_nil_left_iff.1 hnil
      exact ⟨[], n, [], fun _ _ => False, hus, .inl rfl, rfl, .nil, by rintro σ τ ⟨⟩⟩
    · have hlast := hlast.resolve_left hne
      have hcr : '\r' ∉ us := fun hmem =>
        Text.not_mem_unifyNewlines cs (hus ▸ List.mem_append_left _ hmem)
      rw [read, readable_eq_self hcr (List.getLast?_eq_some_iff.1 hlast)] at hscript
      obtain ⟨rs, P, hrs, halike, hP⟩ :=
        exists_of_tokenize_line hlast (exists_finish_of_tokenize hscript) hread
      exact ⟨us, n, rs, P, hus, .inr hlast, hrs, halike, hP⟩
  · have hlast := h.getLast?_unifyNewlines
    have hfinish := exists_finish_of_read h hread hcontinues
    obtain ⟨g, halike, hg⟩ := exists_pairing_of_read hread
    rw [read] at hread
    rcases readable_cases cs with ⟨hsame, -⟩ | hline
    · rw [hsame] at hread hg
      exact ⟨_, 0, ss, g.Spans, (List.append_nil _).symm, .inr hlast, hread, halike, hg⟩
    · rw [hline, ← List.append_nil (Text.unifyNewlines cs)] at hread
      obtain ⟨rs, P, hrs, halike, hP⟩ := exists_of_tokenize_line (n := 0) hlast hfinish hread
      exact ⟨_, 0, rs, P, (List.append_nil _).symm, .inr hlast, hrs, halike, hP⟩

/-- **What is read from two texts one after the other**: the statements `us` are those of the first text and `vs`
    those of the second one.  They compare with each other through the statements `rs`, which the first text
    writes with single line ends. -/
theorem exists_of_read_append {ts : List Stmt} (hts : read ds = .ok ts)
    (hnot : ∀ x ∈ ss, ∀ form σ, x ≠ .other form σ) :
    ∃ rs us vs P P' Q, read (cs ++ ds) = .ok (us ++ vs) ∧ List.Forall₂ (Stmt.Alike P) rs ss ∧
      List.Forall₂ (Stmt.Alike P') rs us ∧ List.Forall₂ (Stmt.Alike Q) ts vs ∧
      (∀ σ τ, P σ τ → τ = σ ∧ σ.Marks (Text.unifyNewlines cs)) ∧ (∀ σ τ, P' σ τ → τ = σ) ∧
      ∀ σ τ, Q σ τ → τ = σ.down (Text.physicalLinesFrom [] cs).length ∧ σ.Marks (readable ds) := by
  obtain ⟨line, n, rs, P, hline, hlast, hrs, halike, hP⟩ := exists_of_unifyNewlines h hread hcontinued
  have hP' : ∀ σ τ, P σ τ → τ = σ ∧ σ.Marks (Text.unifyNewlines cs) := fun σ τ hσ =>
    ⟨(hP σ τ hσ).1, hline ▸ (hP σ τ hσ).2.append _⟩
  have hlength : (Text.physicalLinesFrom [] cs).length = line.count '\n' + n := by
    rw [h.length_physicalLinesFrom, hline, List.count_append, count_backslashLines]
  rcases eq_or_ne ds [] with rfl | hds
  · obtain rfl : [] = ts := Except.ok.inj (Eq.trans (by rfl) hts)
    refine ⟨rs, ss, [], P, P, fun _ _ => False, ?_, halike, halike, .nil, hP', fun σ τ hσ => (hP σ τ hσ).1, ?_⟩
    · rw [List.append_nil, List.append_nil, hread]
    · rintro σ τ ⟨⟩
  rw [read, readable_append h hds, hline, hlength]
  rcases eq_or_ne line [] with rfl | hne
  · obtain rfl : [] = rs := Except.ok.inj (Eq.trans (by rfl) hrs)
    obtain ⟨vs, Q, hvs, halike', hQ⟩ := exists_of_tokenize_backslashLines n (getLast?_readable ds) hts
    exact ⟨[], [], vs, P, P, Q, hvs, halike, .nil, halike', hline ▸ hP', fun σ τ hσ => (hP σ τ hσ).1,
      by simpa using hQ⟩
  · obtain ⟨us, vs, P', Q, hboth, hus, hvs, hP'', hQ⟩ := exists_of_tokenize_append (hlast.resolve_left hne) n
      (getLast?_readable ds) hrs hts (ne_other_of_alike halike hnot)
    exact ⟨rs, us, vs, P, P', Q, hboth, halike, hus, hvs, hline ▸ hP', fun σ τ hσ => (hP'' σ τ hσ).1, hQ⟩

end

end SpriteStage.Script
