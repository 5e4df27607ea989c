import SpriteStage.Proofs.Script.Abreast.Excerpt

/-!
# Steps of the lexer within another text

Where a step in a text alone does not come to the end of the text, the same step is made in a text around
it: what comes after the last line end is not looked at.

## Main definitions

* `Script.Excerpt.Advances` says that two steps lead to the same later place

## Main results

* `Script.Excerpt.Meets.step` compares steps from cursors with the same indentation
-/

namespace SpriteStage.Script.Excerpt

variable (x : Excerpt)

/-- Two cursors go on to the same later place, with tokens that go together.  At the end of the text alone
    a line begins. -/
def Advances (i : ℕ) (s t : Cursor) (r r' : List Token × Option Cursor) : Prop :=
  ∃ ps j s' t', r = (ps.map Prod.fst, some s') ∧ r' = (ps.map Prod.snd, some t') ∧
    (j = x.text.length → s'.atLineStart = true) ∧ (s'.levels = s.levels ∧ t'.levels = t.levels) ∧
    x.Goes i ps j s' t'

/-- Two steps lead to the same later place, with tokens that go together and the same indentation. -/
def Steps (i : ℕ) (r r' : List Token × Option Cursor) : Prop :=
  ∃ ps j s' t', r = (ps.map Prod.fst, some s') ∧ r' = (ps.map Prod.snd, some t') ∧
    (j = x.text.length → s'.atLineStart = true) ∧ t'.levels = s'.levels ∧ x.Goes i ps j s' t'

variable {x} {i j k n : ℕ} {s t s' t' u v : Cursor} {ts : List Token} {c : Char} {cs : List Char} {b : Bool}
  {ps qs : List (Token × Token)} {r r' : List Token × Option Cursor}

theorem Cuts.mono (h : x.Cuts j k p) (hi : i ≤ j) (hn : k ≤ n) : x.Cuts i n p := by
  refine ⟨h.lexeme, fun hp => ?_⟩
  obtain ⟨m, l, hm, hl, hspans⟩ := h.spans hp
  exact ⟨m, l, hi.trans hm, hl.trans hn, hspans⟩

theorem CutsOff.advances (h : x.CutsOff i s t r r') : x.Advances i s t r r' := by
  obtain ⟨p, j, s', t', hr, hr', -, hj, hlevels, hgoes⟩ := h
  exact ⟨[p], j, s', t', hr, hr', fun h => absurd h hj.ne, hlevels, hgoes⟩

/-- What comes first goes over some characters without a token. -/
theorem Advances.after (h : x.Advances j u v r r') (hij : i ≤ j) (hu : u.levels = s.levels)
    (hv : v.levels = t.levels) : x.Advances i s t r r' := by
  obtain ⟨ps, k, s', t', hr, hr', hend, hlevels, hgoes⟩ := h
  exact ⟨ps, k, s', t', hr, hr', hend, ⟨hlevels.1.trans hu, hlevels.2.trans hv⟩, hij.trans_lt hgoes.lt,
    hgoes.le, hgoes.meets, fun p hp => (hgoes.cuts p hp).mono hij le_rfl⟩

/-- Steps without a change of the indentation, after some characters without a token. -/
theorem Advances.steps (h : x.Advances j u v r r') (hij : i ≤ j) (hlevels : v.levels = u.levels) :
    x.Steps i r r' := by
  obtain ⟨ps, k, s', t', hr, hr', hend, hlevels', hgoes⟩ := h
  exact ⟨ps, k, s', t', hr, hr', hend, by rw [hlevels'.1, hlevels'.2, hlevels], hij.trans_lt hgoes.lt, hgoes.le,
    hgoes.meets, fun p hp => (hgoes.cuts p hp).mono hij le_rfl⟩

/-- Tokens without characters come before those of a step. -/
theorem Steps.marked (h : x.Steps i r r') (hps : ∀ p ∈ ps, p.1.lexeme = p.2.lexeme ∧ p.1.isWritten = false) :
    x.Steps i (ps.map Prod.fst ++ r.1, r.2) (ps.map Prod.snd ++ r'.1, r'.2) := by
  obtain ⟨qs, k, s', t', rfl, rfl, hend, hlevels, hgoes⟩ := h
  refine ⟨ps ++ qs, k, s', t', by rw [List.map_append], by rw [List.map_append], hend, hlevels, hgoes.lt, hgoes.le,
    hgoes.meets, fun p hp => ?_⟩
  rcases List.mem_append.1 hp with hp | hp
  · obtain ⟨hlexeme, hwritten⟩ := hps p hp
    exact ⟨hlexeme, fun h => by rw [hwritten] at h; cases h⟩
  · exact hgoes.cuts p hp

namespace Meets

/-! ## Lines -/

/-- Where a line is continued in a text, it is continued in the text around. -/
theorem continued? (h : x.Meets i s t) (hi : i < x.text.length) (hs : s.continued? = some s') :
    s' = s.advance 1 ∧ t.continued? = some (t.advance 1) ∧ i + 1 < x.text.length := by
  obtain ⟨hadvance, c, cs, hrest⟩ := Cursor.eq_advance_of_continued? hs
  obtain ⟨body, hleft, hright, hlength⟩ := h.exists_rest hi
  rw [hrest] at hleft
  match body, hleft with
  | d :: e :: body, hleft =>
    obtain ⟨rfl, -⟩ := List.cons.inj hleft
    simp only [List.length_cons] at hlength
    exact ⟨hadvance, by rw [Cursor.continued?, hright]; rfl, by omega⟩
  | [d], hleft =>
    obtain ⟨rfl, -⟩ := List.cons.inj hleft
    simp only [List.length_cons, List.length_nil] at hlength
    exact ⟨hadvance, by rw [Cursor.continued?, hright]; rfl, by omega⟩

/-- The same characters are passed within a line. -/
theorem pass (h : x.Meets i s t) (hi : i < x.text.length) {p : Char → Bool} (hp : p '\n' = false) :
    ∃ n, (s.rest.takeWhile p).length = n ∧ (t.rest.takeWhile p).length = n ∧ i + n < x.text.length := by
  obtain ⟨body, hs, ht, hlength⟩ := h.exists_rest hi
  rw [hs, ht, takeWhile_line hp, takeWhile_line hp]
  have hle := (body.takeWhile_prefix p).length_le
  exact ⟨_, rfl, rfl, by omega⟩

theorem pastBlanks (h : x.Meets i s t) (hi : i < x.text.length) :
    ∃ j, x.Meets j s.pastBlanks t.pastBlanks ∧ i ≤ j ∧ j < x.text.length := by
  obtain ⟨n, hs, ht, hlt⟩ := h.pass hi (p := fun c => c == ' ' || c == '\t' || c == '\x0c') (by decide)
  rw [Cursor.pastBlanks, Cursor.pastBlanks, hs, ht]
  exact ⟨i + n, h.advance n, Nat.le_add_right _ _, hlt⟩

theorem pastComment (h : x.Meets i s t) (hi : i < x.text.length) :
    ∃ j, x.Meets j s.pastComment t.pastComment ∧ i ≤ j ∧ j < x.text.length := by
  obtain ⟨n, hn, hn', hlt⟩ := h.pass hi (p := (· != '\n')) (by decide)
  rw [Cursor.pastComment, Cursor.pastComment, h.head?_rest hi, hn, hn']
  split
  · exact ⟨i + n, h.advance n, Nat.le_add_right _ _, hlt⟩
  · exact ⟨i, h, le_rfl, hi⟩

/-- The ends of lines go together; `s` and `t` stand before the comments, if there are any. -/
theorem lineEnd (h : x.Meets i u v) (hi : i < x.text.length)
    (hbrackets : t.brackets.map Bracket.char = s.brackets.map Bracket.char) (b : Bool) :
    x.Advances i u v (Cursor.lineEnd s u b) (Cursor.lineEnd t v b) := by
  have hempty : t.brackets.isEmpty = s.brackets.isEmpty := by
    rw [← List.isEmpty_map (f := Bracket.char), hbrackets, List.isEmpty_map]
  have hnext := h.advance 1
  rw [Cursor.lineEnd, Cursor.lineEnd, hempty]
  split
  · refine ⟨[], i + 1, _, _, rfl, rfl, fun _ => rfl, by simp, Nat.lt_succ_self i, hi, ?_, by rintro _ ⟨⟩⟩
    exact hnext.congr ⟨rfl, rfl⟩ ⟨rfl, rfl⟩ rfl hnext.brackets
  · refine ⟨[(_, _)], i + 1, _, _, rfl, rfl, fun _ => rfl, by simp, Nat.lt_succ_self i, hi, ?_, ?_⟩
    · exact hnext.congr ⟨rfl, rfl⟩ ⟨rfl, rfl⟩ rfl hnext.brackets
    · rintro p hp
      obtain rfl := List.mem_singleton.1 hp
      exact ⟨rfl, fun h => by cases h⟩

/-- **What comes after white space** is the same in a text and in the text around. -/
theorem lexemeOrEnd (h : x.Meets i s t) (hi : i < x.text.length) (hr : (s.lexemeOrEnd b).2 = some s') :
    x.Advances i s t (s.lexemeOrEnd b) (t.lexemeOrEnd b) := by
  -- Blanks and a comment are passed over in both texts alike.
  obtain ⟨j, hblanks, hij, hj⟩ := h.pastBlanks hi
  obtain ⟨k, hcomment, hjk, hk⟩ := hblanks.pastComment hj
  have hu := (Cursor.sameLine_pastBlanks s).trans (Cursor.sameLine_pastComment _)
  have hv := (Cursor.sameLine_pastBlanks t).trans (Cursor.sameLine_pastComment _)
  have hpast {r r' : List Token × Option Cursor}
      (hadvances : x.Advances k s.pastBlanks.pastComment t.pastBlanks.pastComment r r') :
      x.Advances i s t r r' := hadvances.after (hij.trans hjk) hu.levels hv.levels
  obtain ⟨body, hleft, hright, hlength⟩ := hcomment.exists_rest hk
  obtain ⟨c, cs, ds, hs, ht⟩ := hcomment.exists_head hk
  by_cases hnewline : c = '\n'
  · subst hnewline
    rw [Cursor.lexemeOrEnd_of_newline hs, Cursor.lexemeOrEnd_of_newline ht]
    exact hpast (hcomment.lineEnd hk hblanks.brackets b)
  by_cases hbackslash : c = '\\'
  · subst hbackslash
    rw [Cursor.lexemeOrEnd_of_backslash hs] at hr ⊢
    rw [Cursor.lexemeOrEnd_of_backslash ht]
    obtain ⟨ds', rfl⟩ := exists_cons hs hleft (by decide)
    rw [List.length_cons] at hlength
    -- The line goes on in the next one, or the backslash is broken in both texts.
    cases hcontinued : (s.pastBlanks.pastComment.advance 1).continued? with
    | none =>
      rw [hcontinued] at hr
      cases hr
    | some next =>
      obtain ⟨rfl, hcontinued', hlt⟩ := (hcomment.advance 1).continued? (by omega) hcontinued
      rw [hcontinued']
      exact hpast ⟨[], k + 1 + 1, _, _, rfl, rfl, fun h => absurd h hlt.ne, by simp, by omega, hlt.le,
        (hcomment.advance 1).advance 1, by rintro _ ⟨⟩⟩
  · rw [Cursor.lexemeOrEnd_of_cons hs ⟨hnewline, hbackslash⟩] at hr ⊢
    rw [Cursor.lexemeOrEnd_of_cons ht ⟨hnewline, hbackslash⟩]
    have hspace : c ≠ ' ' := Cursor.head_pastComment s c (by rw [hs]; rfl)
    exact hpast (hcomment.lexeme hk hs ⟨hspace, hnewline⟩ hr).advances

/-! ## Steps -/

/-- **The same white space** is measured. -/
theorem measure {fixed fuel fuel' : ℕ} {w w' : Indentation} (h : x.Meets i s t) (hi : i < x.text.length)
    (hfuel : s.rest.length < fuel) (hfuel' : t.rest.length < fuel')
    (hs : Cursor.measure fixed w fuel s = .ok (w', s')) :
    ∃ j t', Cursor.measure fixed w fuel' t = .ok (w', t') ∧ i ≤ j ∧ j < x.text.length ∧ x.Meets j s' t' := by
  -- By induction on the fuel for the text alone, which lasts for each character that is passed.
  induction fuel generalizing fixed fuel' w i s t with
  | zero => cases hfuel
  | succ fuel ih =>
    obtain ⟨fuel', rfl⟩ : ∃ n, fuel' = n + 1 := ⟨fuel' - 1, by omega⟩
    obtain ⟨body, hleft, hright, hlength⟩ := h.exists_rest hi
    obtain ⟨c, cs, ds, hs', ht'⟩ := h.exists_head hi
    have hrest : (s.advance 1).rest.length < fuel ∧ (t.advance 1).rest.length < fuel' := by
      rw [Cursor.advance_rest, Cursor.advance_rest, List.length_drop, List.length_drop]
      rw [hs', List.length_cons] at hfuel ⊢
      rw [ht', List.length_cons] at hfuel' ⊢
      omega
    rw [Cursor.measure, hs'] at hs
    rw [Cursor.measure, ht']
    dsimp only at hs ⊢
    have hnext (hc : c ≠ '\n') : i + 1 < x.text.length := by
      obtain ⟨cs', rfl⟩ := exists_cons hs' hleft hc
      rw [List.length_cons] at hlength
      omega
    by_cases hblank : (c == ' ' || c == '\t' || c == '\x0c') = true
    · rw [if_pos hblank] at hs ⊢
      have hlt := hnext (by rintro rfl; cases hblank)
      obtain ⟨j, t', ht, hij, hj⟩ := ih (h.advance 1) hlt hrest.1 hrest.2 hs
      exact ⟨j, t', ht, by omega, hj⟩
    rw [if_neg hblank] at hs ⊢
    by_cases hbackslash : (c == '\\') = true
    · rw [if_pos hbackslash] at hs ⊢
      have hlt := hnext (by rintro rfl; cases hbackslash)
      cases hcontinued : (s.advance 1).continued? with
      | none =>
        rw [hcontinued] at hs
        cases hs
      | some next =>
        obtain ⟨rfl, hcontinued', hlt'⟩ := (h.advance 1).continued? hlt hcontinued
        rw [hcontinued] at hs
        rw [hcontinued']
        have hmeets : x.Meets (i + 1 + 1)
            { (s.advance 1).advance 1 with firstLine := ((s.advance 1).advance 1).position.line }
            { (t.advance 1).advance 1 with firstLine := ((t.advance 1).advance 1).position.line } :=
          ((h.advance 1).advance 1).congr ⟨rfl, rfl⟩ ⟨rfl, rfl⟩ ((h.advance 1).advance 1).atLineStart
            ((h.advance 1).advance 1).brackets
        have hrest' : ((s.advance 1).advance 1).rest.length < fuel ∧
            ((t.advance 1).advance 1).rest.length < fuel' := by
          rw [Cursor.advance_rest 1 (s.advance 1), Cursor.advance_rest 1 (t.advance 1), List.length_drop,
            List.length_drop]
          omega
        obtain ⟨j, t', ht, hij, hj⟩ := ih hmeets hlt' hrest'.1 hrest'.2 hs
        exact ⟨j, t', ht, by omega, hj⟩
    · rw [if_neg hbackslash] at hs ⊢
      cases hs
      exact ⟨i, t, rfl, le_rfl, hi, h⟩

/-- Indents and dedents are the same where the levels are. -/
theorem exists_marks {w : Indentation} {marks : List Token} (hlevels : t.levels = s.levels)
    (h : s.indent w = .ok (marks, u)) :
    ∃ ps : List (Token × Token), marks = ps.map Prod.fst ∧
      t.indent w = .ok (ps.map Prod.snd, { t with levels := u.levels }) ∧ u = { s with levels := u.levels } ∧
      ∀ p ∈ ps, p.1.lexeme = p.2.lexeme ∧ p.1.isWritten = false := by
  rw [Cursor.indent] at h ⊢
  rw [hlevels]
  dsimp only at h ⊢
  split at h
  · -- The line is as far in as the one before, and there are no marks.
    rename_i hwidth
    rw [if_pos hwidth]
    split at h
    · rename_i hnarrow
      cases h
      rw [if_pos hnarrow]
      exact ⟨[], rfl, by rw [← hlevels]; rfl, rfl, by rintro _ ⟨⟩⟩
    · cases h
  rename_i hwidth
  rw [if_neg hwidth]
  split at h
  · -- Further in: there is one indent.
    rename_i hlt
    rw [if_pos hlt]
    split at h
    · cases h
    rename_i hlimit
    rw [if_neg hlimit]
    split at h
    · cases h
    rename_i hnarrow
    rw [if_neg hnarrow]
    cases h
    refine ⟨[(_, _)], rfl, rfl, rfl, ?_⟩
    intro p hp
    obtain rfl := List.mem_singleton.1 hp
    exact ⟨rfl, rfl⟩
  · -- Further out: the same levels are closed, one dedent each.
    rename_i hlt
    rw [if_neg hlt]
    obtain ⟨n, -, hdedents⟩ := Cursor.dedents_eq w.width s.levels
    rw [hdedents] at h ⊢
    dsimp only at h ⊢
    split at h
    · cases h
    rename_i hwidth'
    rw [if_neg hwidth']
    split at h
    · cases h
    rename_i hnarrow
    rw [if_neg hnarrow]
    cases h
    refine ⟨List.replicate n (Cursor.mark .dedent s, Cursor.mark .dedent t), by rw [List.map_replicate],
      by rw [List.map_replicate], rfl, ?_⟩
    intro p hp
    obtain rfl := List.eq_of_mem_replicate hp
    exact ⟨rfl, rfl⟩

/-- **Steps** are the same where the levels are. -/
theorem step (h : x.Meets i s t) (hi : i < x.text.length) (hlevels : t.levels = s.levels)
    (hr : s.step.2 = some s') : x.Steps i s.step t.step := by
  by_cases hstart : s.atLineStart = true
  · rw [Cursor.step, if_pos hstart] at hr ⊢
    rw [Cursor.step, if_pos (h.atLineStart.trans hstart)]
    -- At the beginning of a line its white space is measured first.
    cases hmeasure : Cursor.measure 0 {} (s.rest.length + 1) s with
    | error e =>
      rw [hmeasure] at hr
      cases hr
    | ok result =>
      obtain ⟨w, u⟩ := result
      obtain ⟨j, v, hmeasure', hij, hj, hmeets⟩ :=
        h.measure hi (Nat.lt_succ_self _) (Nat.lt_succ_self t.rest.length) hmeasure
      have hu := Cursor.sameLine_measure hmeasure
      have hv := Cursor.sameLine_measure hmeasure'
      rw [hmeasure] at hr
      rw [hmeasure']
      dsimp only at hr ⊢
      rw [hmeets.head?_rest hj, hmeets.isEmpty_brackets]
      have hmeets' : x.Meets j { u with atLineStart := false } { v with atLineStart := false } :=
        hmeets.congr ⟨rfl, rfl⟩ ⟨rfl, rfl⟩ rfl hmeets.brackets
      have hlevels' : v.levels = u.levels := by rw [hu.levels, hv.levels, hlevels]
      split at hr
      · -- Blank lines and lines inside brackets leave the levels alone.
        rename_i hquiet
        rw [if_pos hquiet, if_pos hquiet]
        exact (hmeets'.lexemeOrEnd hj hr).steps hij hlevels'
      · rename_i hloud
        rw [if_neg hloud, if_neg hloud]
        -- The marks of the line come before what else is in the step.
        cases hmarks : ({ u with atLineStart := false } : Cursor).indent w with
        | error e =>
          rw [hmarks] at hr
          cases hr
        | ok result =>
          obtain ⟨marks, u'⟩ := result
          obtain ⟨ps, rfl, hmarks', hu', hps⟩ :=
            exists_marks (s := { u with atLineStart := false }) (t := { v with atLineStart := false }) hlevels'
              hmarks
          rw [hmarks] at hr
          rw [hmarks']
          have hmeets'' : x.Meets j u' { v with atLineStart := false, levels := u'.levels } :=
            hmeets'.congr (by rw [hu']; exact ⟨rfl, rfl⟩) ⟨rfl, rfl⟩ (by rw [hu'])
              (by rw [hu']; exact hmeets'.brackets)
          exact ((hmeets''.lexemeOrEnd hj hr).steps hij rfl).marked hps
  · rw [Cursor.step, if_neg hstart] at hr ⊢
    rw [Cursor.step, h.atLineStart, if_neg hstart]
    exact (h.lexemeOrEnd hi hr).steps le_rfl hlevels

/-! ## The end of the text -/

/-- Before the end of the text nothing after white space is an end. -/
theorem kind_lexemeOrEnd_ne (h : x.Meets i s t) (hi : i < x.text.length) (b : Bool) :
    ∀ u ∈ (s.lexemeOrEnd b).1, u.kind ≠ .finish := by
  obtain ⟨j, hblanks, hij, hj⟩ := h.pastBlanks hi
  obtain ⟨k, hcomment, hjk, hk⟩ := hblanks.pastComment hj
  obtain ⟨c, cs, ds, hs, -⟩ := hcomment.exists_head hk
  by_cases hnewline : c = '\n'
  · subst hnewline
    rw [Cursor.lexemeOrEnd_of_newline hs, Cursor.lineEnd]
    split
    · rintro _ ⟨⟩
    · exact Cursor.kind_singleton_ne fun h => by cases h
  by_cases hbackslash : c = '\\'
  · subst hbackslash
    rw [Cursor.lexemeOrEnd_of_backslash hs]
    split
    · rintro _ ⟨⟩
    · exact Cursor.kind_singleton_ne (Cursor.isBroken_breakContinuation _).kind_ne
  · rw [Cursor.lexemeOrEnd_of_cons hs ⟨hnewline, hbackslash⟩]
    exact Cursor.kind_lexeme_ne _ c

/-- **Before the end of the text** no token is an end. -/
theorem kind_step_ne (h : x.Meets i s t) (hi : i < x.text.length) : ∀ u ∈ s.step.1, u.kind ≠ .finish := by
  rw [Cursor.step]
  split
  · split
    · exact Cursor.kind_singleton_ne (Cursor.isBroken_of_measure ‹_›).kind_ne
    · rename_i w u hmeasure
      obtain ⟨j, v, -, -, hj, hmeets⟩ :=
        h.measure hi (Nat.lt_succ_self _) (Nat.lt_succ_self t.rest.length) hmeasure
      have hmeets' : x.Meets j { u with atLineStart := false } { v with atLineStart := false } :=
        hmeets.congr ⟨rfl, rfl⟩ ⟨rfl, rfl⟩ rfl hmeets.brackets
      dsimp only
      split
      · exact hmeets'.kind_lexemeOrEnd_ne hj _
      · split
        · exact Cursor.kind_singleton_ne (Cursor.isBroken_of_indent ‹_›).kind_ne
        · rename_i marks u' hmarks
          have hu := Cursor.indent_cases hmarks
          intro a ha
          rcases List.mem_append.1 ha with ha | ha
          · exact Cursor.kind_marks_ne hmarks a ha
          · -- Marks change the levels only, on which the rest of the step does not depend.
            have hmeets'' : x.Meets j u' { v with atLineStart := false } := by
              rcases hu with ⟨-, rfl⟩ | ⟨-, -, rfl⟩ | ⟨n, -, -, rfl⟩
              · exact hmeets'
              · exact hmeets'.congr ⟨rfl, rfl⟩ ⟨rfl, rfl⟩ rfl hmeets.brackets
              · exact hmeets'.congr ⟨rfl, rfl⟩ ⟨rfl, rfl⟩ rfl hmeets.brackets
            exact hmeets''.kind_lexemeOrEnd_ne hj false a ha
  · exact h.kind_lexemeOrEnd_ne hi false

end Meets

end SpriteStage.Script.Excerpt
