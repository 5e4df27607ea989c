import SpriteStage.Proofs.Script.Abreast.Tokenizing

/-!
# Blank lines at the end of a text

A blank line after a text matters only if the last line of the text goes on with it.  Otherwise every step up
to the end of the text that can be made with the blank line can be made without it, and so the text can be
read to its end if it can be with the blank line.

## Main definitions

* `Script.Excerpt.EndsBlank` says that a blank line comes after a text

## Main results

* `Script.exists_finish_of_blank` holds for all texts with line ends that do not end with a backslash
-/

namespace SpriteStage.Script

namespace Excerpt

/-- A blank line comes last, and the last line before it does not go on with it. -/
structure EndsBlank (x : Excerpt) : Prop where
  after : x.after = ['\n']
  ends : ¬ ['\\', '\n'] <:+ x.text

variable {x : Excerpt} {i : ℕ} {s t s' t' u v : Cursor} {c : Char} {cs : List Char} {b : Bool}

namespace Meets

/-! ## Lexemes -/

theorem exists_of_quotation (h : x.Meets i s t) (hi : i < x.text.length) (hafter : x.after = ['\n'])
    {letters : List Char} (hletters : Quotation.letters? s.rest = some letters)
    (hr : (t.quotation letters.length).2 = some t') : ∃ s', (s.quotation letters.length).2 = some s' := by
  obtain ⟨q, qs, hquote, hleft, hright, -⟩ := h.exists_quoted hi hletters
  rw [hafter] at hright
  rw [Cursor.quotation, hright] at hr
  rw [Cursor.quotation, hleft]
  simp only [List.cons_append, List.head?_cons, Option.getD_some] at hr ⊢
  cases hn : Quotation.length q (q :: (qs ++ ['\n', '\n'])) with
  | error n =>
    rw [hn] at hr
    cases hr
  | ok n =>
    have hline : q ∉ ['\n'] := by
      rw [List.mem_singleton]
      rintro rfl
      cases hquote
    obtain ⟨hsame, -, -⟩ := Quotation.length_line hquote hline hn []
    rw [List.cons_append] at hsame
    rw [hsame]
    exact ⟨_, rfl⟩

theorem exists_of_bracket (h : x.Meets i s t) (hr : (t.bracket c).2 = some t') :
    ∃ s', (s.bracket c).2 = some s' := by
  rw [Cursor.bracket, h.length_brackets] at hr
  rw [Cursor.bracket]
  by_cases hopen : (c == '(' || c == '[' || c == '\x7b') = true
  · rw [if_pos hopen] at hr ⊢
    -- As many brackets are open in both texts.
    split at hr
    · cases hr
    · rw [if_neg ‹_›]
      exact ⟨_, rfl⟩
  · rw [if_neg hopen] at hr ⊢
    -- The brackets that are open are the same.
    have hbrackets := h.brackets
    rcases hb : s.brackets with _ | ⟨b, bs⟩
    · rw [hb, List.map_nil, List.map_eq_nil_iff] at hbrackets
      rw [hbrackets] at hr
      cases hr
    rcases hb' : t.brackets with _ | ⟨b', bs'⟩
    · rw [hb'] at hr
      cases hr
    · rw [hb, hb'] at hbrackets
      rw [hb'] at hr
      dsimp only at hr ⊢
      rw [(List.cons.inj hbrackets).1] at hr
      split at hr
      · rename_i hfits
        rw [if_pos hfits]
        exact ⟨_, rfl⟩
      · cases hr

/-- **A lexeme** that can be cut off with the blank line can be cut off without it. -/
theorem exists_of_lexeme (h : x.Meets i s t) (hi : i < x.text.length) (hafter : x.after = ['\n'])
    (hrest : s.rest = c :: cs) (hc : c ≠ '\n') (hr : (t.lexeme c).2 = some t') :
    ∃ s', (s.lexeme c).2 = some s' := by
  rw [Cursor.lexeme, h.letters?_eq hi, h.head?_drop_one hi hrest hc] at hr
  rw [Cursor.lexeme]
  cases hquote : Quotation.letters? s.rest with
  | some letters =>
    rw [hquote] at hr
    -- A text in quotes.
    exact h.exists_of_quotation hi hafter hquote hr
  | none =>
    rw [hquote] at hr
    dsimp only at hr ⊢
    by_cases hword : isWordStart c = true
    · -- A word is as long in both texts.
      rw [if_pos hword, h.wordLength_eq hi] at hr
      rw [if_pos hword]
      cases hn : wordLength s.rest with
      | error e =>
        rw [hn] at hr
        exact absurd hr (by rw [Cursor.refuseLexeme_snd]; simp)
      | ok n => exact ⟨_, rfl⟩
    rw [if_neg hword] at hr ⊢
    by_cases hdigit : (c.isDigit || (c == '.' && (s.rest.drop 1).head?.any Char.isDigit)) = true
    · -- So is a numeral.
      rw [if_pos hdigit] at hr ⊢
      have hnumeral : c.isDigit = true ∨ c = '.' := by
        rw [Bool.or_eq_true, Bool.and_eq_true, beq_iff_eq] at hdigit
        exact hdigit.imp_right And.left
      rw [h.numeralLength_eq hi hrest hnumeral] at hr
      cases hn : Numeral.length s.rest with
      | error e =>
        rw [hn] at hr
        exact absurd hr (by rw [Cursor.refuseLexeme_snd]; simp)
      | ok n => exact ⟨_, rfl⟩
    rw [if_neg hdigit] at hr ⊢
    by_cases hbracket : "()[]\x7b\x7d".toList.contains c = true
    · rw [if_pos hbracket] at hr ⊢
      exact h.exists_of_bracket hr
    rw [if_neg hbracket] at hr ⊢
    -- An operator, which both texts begin with.
    split at hr
    · cases hr
    · rw [if_neg ‹_›]
      exact ⟨_, rfl⟩

/-! ## Lines -/

/-- A line that goes on after a backslash goes on without the blank line. -/
theorem exists_of_continued? (h : x.Meets i s t) (hi : i < x.text.length) (hx : x.EndsBlank)
    (hrest : s.rest = '\\' :: cs) (ht : (t.advance 1).continued? = some v) :
    ∃ u, (s.advance 1).continued? = some u := by
  obtain ⟨body, hleft, hright, -⟩ := h.exists_rest hi
  obtain ⟨line, rfl⟩ := exists_cons hrest hleft (by decide)
  rw [Cursor.continued?, Cursor.advance_rest, hright] at ht
  rw [Cursor.continued?, Cursor.advance_rest, hleft]
  cases line with
  | nil =>
    -- The last line of the text would go on.
    have hends : ['\\', '\n'] = x.text.drop i := hleft.symm.trans h.left.rest
    exact absurd (hends ▸ List.drop_suffix i x.text) hx.ends
  | cons c line =>
    by_cases hc : c = '\n'
    · subst hc
      cases line <;> exact ⟨_, rfl⟩
    · refine absurd ht ?_
      simp [hc]

/-- **What comes after white space** can be read without the blank line. -/
theorem exists_of_lexemeOrEnd (h : x.Meets i s t) (hi : i < x.text.length) (hx : x.EndsBlank)
    (hr : (t.lexemeOrEnd b).2 = some t') : ∃ s', (s.lexemeOrEnd b).2 = some s' := by
  obtain ⟨j, hblanks, -, hj⟩ := h.pastBlanks hi
  obtain ⟨k, hcomment, -, hk⟩ := hblanks.pastComment hj
  obtain ⟨c, cs, ds, hs, ht⟩ := hcomment.exists_head hk
  by_cases hnewline : c = '\n'
  · subst hnewline
    rw [Cursor.lexemeOrEnd_of_newline hs, Cursor.lineEnd]
    split <;> exact ⟨_, rfl⟩
  by_cases hbackslash : c = '\\'
  · subst hbackslash
    rw [Cursor.lexemeOrEnd_of_backslash ht] at hr
    rw [Cursor.lexemeOrEnd_of_backslash hs]
    cases hcontinued : (t.pastBlanks.pastComment.advance 1).continued? with
    | none =>
      rw [hcontinued] at hr
      cases hr
    | some v =>
      obtain ⟨u, hu⟩ := hcomment.exists_of_continued? hk hx hs hcontinued
      rw [hu]
      exact ⟨u, rfl⟩
  · rw [Cursor.lexemeOrEnd_of_cons ht ⟨hnewline, hbackslash⟩] at hr
    rw [Cursor.lexemeOrEnd_of_cons hs ⟨hnewline, hbackslash⟩]
    exact hcomment.exists_of_lexeme hk hx.after hs hnewline hr

/-- White space that can be measured with the blank line can be measured without it. -/
theorem exists_of_measure {fixed fuel fuel' : ℕ} {w : Indentation} {r : Indentation × Cursor}
    (h : x.Meets i s t) (hi : i < x.text.length) (hx : x.EndsBlank) (hfuel' : t.rest.length < fuel')
    (ht : Cursor.measure fixed w fuel' t = .ok r) : ∃ r', Cursor.measure fixed w fuel s = .ok r' := by
  -- By induction on the fuel for the text alone, as the white space is passed.
  induction fuel generalizing fixed fuel' w i s t with
  | zero => exact ⟨_, rfl⟩
  | succ fuel ih =>
    obtain ⟨fuel', rfl⟩ : ∃ n, fuel' = n + 1 := ⟨fuel' - 1, by omega⟩
    obtain ⟨body, hleft, hright, hlength⟩ := h.exists_rest hi
    obtain ⟨c, cs, ds, hs', ht'⟩ := h.exists_head hi
    have hrest : (t.advance 1).rest.length < fuel' := by
      rw [Cursor.advance_rest, List.length_drop]
      rw [ht', List.length_cons] at hfuel' ⊢
      omega
    have hnext (hc : c ≠ '\n') : i + 1 < x.text.length := by
      obtain ⟨cs', rfl⟩ := exists_cons hs' hleft hc
      rw [List.length_cons] at hlength
      omega
    rw [Cursor.measure, ht'] at ht
    rw [Cursor.measure, hs']
    dsimp only at ht ⊢
    by_cases hblank : (c == ' ' || c == '\t' || c == '\x0c') = true
    · rw [if_pos hblank] at ht ⊢
      exact ih (h.advance 1) (hnext (by rintro rfl; cases hblank)) hrest ht
    rw [if_neg hblank] at ht ⊢
    by_cases hbackslash : (c == '\\') = true
    · rw [if_pos hbackslash] at ht ⊢
      rw [beq_iff_eq] at hbackslash
      subst hbackslash
      cases hcontinued : (t.advance 1).continued? with
      | none =>
        rw [hcontinued] at ht
        cases ht
      | some v =>
        obtain ⟨u, hu⟩ := h.exists_of_continued? hi hx hs' hcontinued
        obtain ⟨rfl, hv, hlt⟩ := (h.advance 1).continued? (hnext (by decide)) hu
        obtain rfl := Option.some.inj (hv.symm.trans hcontinued)
        rw [hcontinued] at ht
        rw [hu]
        have hmeets : x.Meets (i + 1 + 1)
            { (s.advance 1).advance 1 with firstLine := ((s.advance 1).advance 1).position.line }
            { (t.advance 1).advance 1 with firstLine := ((t.advance 1).advance 1).position.line } :=
          ((h.advance 1).advance 1).congr ⟨rfl, rfl⟩ ⟨rfl, rfl⟩ ((h.advance 1).advance 1).atLineStart
            ((h.advance 1).advance 1).brackets
        refine ih hmeets hlt ?_ ht
        show ((t.advance 1).advance 1).rest.length < fuel'
        rw [Cursor.advance_rest 1 (t.advance 1), List.length_drop]
        omega
    · rw [if_neg hbackslash]
      exact ⟨_, rfl⟩

/-- **A step** before the end of the text that can be made with the blank line can be made without it. -/
theorem exists_of_step (h : x.Meets i s t) (hi : i < x.text.length) (hx : x.EndsBlank)
    (hlevels : t.levels = s.levels) (hr : t.step.2 = some t') : ∃ s', s.step.2 = some s' := by
  by_cases hstart : s.atLineStart = true
  · rw [Cursor.step, if_pos (h.atLineStart.trans hstart)] at hr
    rw [Cursor.step, if_pos hstart]
    cases hmeasure' : Cursor.measure 0 {} (t.rest.length + 1) t with
    | error e =>
      rw [hmeasure'] at hr
      cases hr
    | ok result =>
      obtain ⟨⟨w, u⟩, hmeasure⟩ : ∃ r, Cursor.measure 0 {} (s.rest.length + 1) s = .ok r :=
        h.exists_of_measure hi hx (Nat.lt_succ_self _) hmeasure'
      obtain ⟨j, v, hright, -, hj, hmeets⟩ :=
        h.measure hi (Nat.lt_succ_self _) (Nat.lt_succ_self t.rest.length) hmeasure
      obtain rfl : (w, v) = result := Except.ok.inj (hright.symm.trans hmeasure')
      have hu := Cursor.sameLine_measure hmeasure
      have hv := Cursor.sameLine_measure hmeasure'
      rw [hmeasure'] at hr
      rw [hmeasure]
      dsimp only at hr ⊢
      rw [hmeets.head?_rest hj, hmeets.isEmpty_brackets] at hr
      have hmeets' : x.Meets j { u with atLineStart := false } { v with atLineStart := false } :=
        hmeets.congr ⟨rfl, rfl⟩ ⟨rfl, rfl⟩ rfl hmeets.brackets
      have hlevels' : v.levels = u.levels := by rw [hu.levels, hv.levels, hlevels]
      split at hr
      · rename_i hquiet
        rw [if_pos hquiet]
        exact hmeets'.exists_of_lexemeOrEnd hj hx hr
      · rename_i hloud
        rw [if_neg hloud]
        cases hmarks : ({ v with atLineStart := false } : Cursor).indent w with
        | error e =>
          rw [hmarks] at hr
          cases hr
        | ok result =>
          obtain ⟨marks, v'⟩ := result
          -- The levels decide, which are the same.
          have hsame : ({ u with atLineStart := false } : Cursor).levels =
              ({ v with atLineStart := false } : Cursor).levels := hlevels'.symm
          obtain ⟨ps, -, hmarks', hv', -⟩ := exists_marks hsame hmarks
          rw [hmarks] at hr
          rw [hmarks']
          have hmeets'' : x.Meets j { u with atLineStart := false, levels := v'.levels } v' :=
            hmeets'.congr ⟨rfl, rfl⟩ (by rw [hv']; exact ⟨rfl, rfl⟩) (by rw [hv'])
              (by rw [hv']; exact hmeets'.brackets)
          exact hmeets''.exists_of_lexemeOrEnd hj hx hr
  · rw [Cursor.step, h.atLineStart, if_neg hstart] at hr
    rw [Cursor.step, if_neg hstart]
    exact h.exists_of_lexemeOrEnd hi hx hr

/-! ## Whole texts -/

/-- The cursor in the text around stands before a character of it as well. -/
theorem around (h : x.Meets i s t) (hx : x.EndsBlank) :
    ∃ y : Excerpt, y.Meets (x.before.length + i) t t ∧
      y.text.length = x.before.length + x.text.length + 1 := by
  have hlast : x.whole.getLast? = some '\n' := by rw [whole, hx.after, List.getLast?_concat]
  refine ⟨⟨[], x.whole, [], hlast⟩, ⟨h.right, ?_, rfl, rfl⟩, ?_⟩
  · simpa [whole] using h.right
  · simp [whole, hx.after, Nat.add_assoc]

/-- Where a bracket is open, the blank line does not bring the text to its end. -/
theorem kind_ne_of_unclosed (h : x.Meets x.text.length s t) (hx : x.EndsBlank) (hstart : t.atLineStart = true)
    (hne : t.brackets ≠ []) (fuel : ℕ) : ∀ a ∈ t.tokens (fuel + 2), a.kind ≠ .finish := by
  have hrest : t.rest = ['\n'] := h.rest_of_end.2.trans hx.after
  have hmeasure : Cursor.measure 0 {} (t.rest.length + 1) t = .ok ({}, t) := by
    rw [Cursor.measure, hrest]
    rfl
  have hblanks : ({ t with atLineStart := false } : Cursor).pastBlanks.pastComment.rest = ['\n'] := by
    simp [Cursor.pastBlanks, Cursor.pastComment, hrest]
  obtain ⟨next, hstep, hnext⟩ : ∃ next, t.step = ([], some next) ∧
      (next.rest = [] ∧ next.atLineStart = true ∧ next.brackets ≠ []) := by
    rw [Cursor.step, if_pos hstart, hmeasure]
    dsimp only
    rw [if_pos (by simp [hrest]), Cursor.lexemeOrEnd_of_newline hblanks, Cursor.lineEnd,
      if_pos (by simp [hrest])]
    refine ⟨_, rfl, ?_, rfl, ?_⟩
    · simpa using congrArg (List.drop 1) hblanks
    · have hline := (Cursor.sameLine_pastBlanks { t with atLineStart := false }).trans
        (Cursor.sameLine_pastComment _)
      simpa [hline.brackets] using hne
  obtain ⟨hstop, hnot⟩ := Cursor.step_of_unclosed hnext.1 hnext.2.1 hnext.2.2
  rw [Cursor.tokens_of_step hstep, List.nil_append, Cursor.tokens_of_stop hstop]
  exact hnot

/-- **A text that is read to its end** with the blank line is read to its end without it. -/
theorem exists_finish {fuel fuel' : ℕ} (h : x.Meets i s t) (hi : i ≤ x.text.length)
    (hend : i = x.text.length → s.atLineStart = true) (hx : x.EndsBlank) (hlevels : t.levels = s.levels)
    (hpositive : ∀ w ∈ s.levels, 0 < w.width) (hfuel : s.rest.length < fuel) (hfuel' : t.rest.length < fuel')
    (hfinish : ∃ a ∈ t.tokens fuel', a.kind = .finish) : ∃ a ∈ s.tokens fuel, a.kind = .finish := by
  -- By induction on the fuel for the text alone; every step that does not stop leads to a later place.
  induction fuel generalizing i s t fuel' with
  | zero => cases hfuel
  | succ fuel ih =>
    obtain ⟨fuel', rfl⟩ : ∃ n, fuel' = n + 1 := ⟨fuel' - 1, by omega⟩
    have hleft' := h.length_rest hi
    rcases hi.lt_or_eq with hlt | rfl
    · obtain ⟨y, hy, hlength⟩ := h.around hx
      obtain ⟨ts, next, hnext, a, ha, hkind⟩ := hy.exists_next (by omega) hfinish
      obtain ⟨u, hu⟩ := h.exists_of_step hlt hx hlevels (by rw [hnext])
      obtain ⟨ps, j, u, v, hs, ht, hend', hlevels', hgoes⟩ := h.step hlt hlevels hu
      rw [ht] at hnext
      obtain rfl : v = next := Option.some.inj (Prod.mk.inj hnext).2
      have hleft := hgoes.meets.length_rest hgoes.le
      have hlt := hgoes.lt
      have hrest : u.rest.length < fuel ∧ v.rest.length < fuel' := by omega
      obtain ⟨a, ha, hkind⟩ := ih hgoes.meets hgoes.le hend' hlevels' ((Cursor.yields_step hs).positive hpositive)
        hrest.1 hrest.2 ⟨a, ha, hkind⟩
      refine ⟨a, ?_, hkind⟩
      rw [Cursor.tokens_of_step hs]
      exact List.mem_append_right _ ha
    · have hstart := hend rfl
      have hbrackets : s.brackets = [] := by
        by_contra hne
        obtain ⟨a, ha, hkind⟩ := hfinish
        have hne' : t.brackets ≠ [] := by
          intro hnil
          have hmap := h.brackets
          rw [hnil, List.map_nil, eq_comm, List.map_eq_nil_iff] at hmap
          exact hne hmap
        have hpos : 0 < fuel' := by
          rw [hx.after, List.length_singleton] at hleft'
          omega
        obtain ⟨fuel', rfl⟩ : ∃ n, fuel' = n + 1 := ⟨fuel' - 1, by omega⟩
        exact h.kind_ne_of_unclosed hx (h.atLineStart.trans hstart) hne' fuel' a ha hkind
      have hstep := Cursor.step_of_rest_nil h.rest_of_end.1 hstart hpositive hbrackets
      refine ⟨Cursor.mark .finish { s with atLineStart := false, levels := [] }, ?_, rfl⟩
      rw [Cursor.tokens_of_stop (by rw [hstep]), hstep]
      exact List.mem_append_right _ (List.mem_singleton_self _)

end Meets

end Excerpt

/-- **A blank line after a text** does not bring the text to its end, unless the last line goes on with it. -/
theorem exists_finish_of_blank {cs : List Char} (hcs : cs.getLast? = some '\n') (hends : ¬ ['\\', '\n'] <:+ cs)
    (h : ∃ t ∈ tokenize (cs ++ ['\n']), t.kind = .finish) : ∃ t ∈ tokenize cs, t.kind = .finish := by
  let x : Excerpt := ⟨[], cs, ['\n'], hcs⟩
  have hx : x.Meets 0 { rest := cs } { rest := cs ++ ['\n'] } := ⟨⟨rfl, rfl⟩, ⟨rfl, rfl⟩, rfl, rfl⟩
  exact hx.exists_finish (Nat.zero_le _) (fun _ => rfl) ⟨rfl, hends⟩ rfl (by rintro w ⟨⟩) (Nat.lt_succ_self _)
    (Nat.lt_succ_self _) h

end SpriteStage.Script
