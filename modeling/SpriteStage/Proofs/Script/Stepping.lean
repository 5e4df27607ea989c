import SpriteStage.Proofs.Script.Abreast.Block

/-!
# What a step of the lexer gives

A step gives a lexeme, the end of a line or nothing, after the indents or dedents before it.

## Main definitions

* `Script.Cursor.CutsOff` says that a lexeme is cut off, or that there is a reason why none can be
* `Script.Cursor.Yields` says what is known of the tokens of a step and of the cursor after it

## Main results

* `Script.Cursor.yields_step` and `Script.Cursor.isPlain_of_step` hold for every step but the last one
* `Script.Cursor.step_of_rest_nil` is the last step of a text that can be read to its end
* `Script.Cursor.step_of_levels` is the first step of a line that closes all levels
-/

namespace SpriteStage.Script

namespace Token

variable {t : Token}

/-- A token that stands for what cannot be read. -/
def IsBroken (t : Token) : Prop := ∃ reason, t.kind = .broken reason

theorem IsBroken.kind_ne (h : t.IsBroken) : t.kind ≠ .finish := by
  obtain ⟨reason, hkind⟩ := h
  rw [hkind]
  rintro ⟨⟩

theorem IsBroken.isWritten (h : t.IsBroken) : t.isWritten = false := by
  obtain ⟨reason, hkind⟩ := h
  rw [Token.isWritten, hkind]

/-- A token that is no end and stands for something that can be read. -/
def IsPlain (t : Token) : Prop := t.kind ≠ .finish ∧ ¬ t.IsBroken

theorem isPlain_of_isWritten (h : t.isWritten = true) : t.IsPlain := by
  rw [isWritten] at h
  constructor
  · intro hkind
    rw [hkind] at h
    cases h
  · rintro ⟨reason, hkind⟩
    rw [hkind] at h
    cases h

end Token

namespace Cursor

variable {s s' t : Cursor} {ts : List Token} {c : Char} {b : Bool}

/-! ## Lexemes -/

theorem refuseLexeme_snd (s : Cursor) (r : Refusal) : (s.refuseLexeme r).2 = none := by
  rcases r with ⟨cause, _ | n⟩ <;> rfl

/-- A lexeme of its own, which leaves the line and the indentation. -/
def IsCut (s : Cursor) (ts : List Token) (s' : Cursor) : Prop :=
  ∃ t, ts = [t] ∧ t.isWritten = true ∧ s'.levels = s.levels ∧ s'.atLineStart = s.atLineStart

/-- A lexeme is cut off, or there is a reason why none can be. -/
def CutsOff (s : Cursor) (r : List Token × Option Cursor) : Prop :=
  (∃ s', r.2 = some s' ∧ s.IsCut r.1 s') ∨ r.2 = none ∧ ∃ t, r.1 = [t] ∧ t.IsBroken

theorem cutsOff_refuseLexeme (s : Cursor) (r : Refusal) : s.CutsOff (s.refuseLexeme r) := by
  rcases r with ⟨cause, _ | n⟩ <;> exact .inr ⟨rfl, _, rfl, _, rfl⟩

theorem cutsOff_take {kind : TokenKind} (hkind : (token kind [] s s).isWritten = true) (n : ℕ) :
    s.CutsOff (s.take kind n) :=
  .inl ⟨_, rfl, _, rfl, hkind, advance_levels n s, advance_atLineStart n s⟩

theorem cutsOff_quotation (s : Cursor) (n : ℕ) : s.CutsOff (s.quotation n) := by
  rw [quotation]
  dsimp only
  split
  · exact cutsOff_take rfl _
  · exact .inr ⟨rfl, _, rfl, _, rfl⟩

theorem cutsOff_bracket (s : Cursor) (c : Char) : s.CutsOff (s.bracket c) := by
  have hnext (brackets : List Bracket) (t : Token) (ht : t.isWritten = true) :
      s.CutsOff ([t], some { s.advance 1 with brackets := brackets }) :=
    .inl ⟨_, rfl, t, rfl, ht, advance_levels 1 s, advance_atLineStart 1 s⟩
  rw [bracket]
  dsimp only
  split
  · split
    · exact .inr ⟨rfl, _, rfl, _, rfl⟩
    · exact hnext _ _ rfl
  · split
    · exact .inr ⟨rfl, _, rfl, _, rfl⟩
    · split
      · exact hnext _ _ rfl
      · exact .inr ⟨rfl, _, rfl, _, rfl⟩

/-- **A lexeme** is cut off, or there is a reason why none can be. -/
theorem cutsOff_lexeme (s : Cursor) (c : Char) : s.CutsOff (s.lexeme c) := by
  rw [lexeme]
  split
  · exact cutsOff_quotation s _
  split
  · split
    · exact cutsOff_refuseLexeme s _
    · refine cutsOff_take ?_ _
      split <;> rfl
  split
  · split
    · exact cutsOff_refuseLexeme s _
    · exact cutsOff_take rfl _
  split
  · exact cutsOff_bracket s c
  split
  · exact cutsOff_refuseLexeme s _
  · exact cutsOff_take rfl _

theorem isCut_lexeme (h : s.lexeme c = (ts, some s')) : s.IsCut ts s' := by
  have hcut := cutsOff_lexeme s c
  rw [h] at hcut
  rcases hcut with ⟨t, ht, hcut⟩ | ⟨hnone, -⟩
  · obtain rfl := Option.some.inj ht
    exact hcut
  · cases hnone

/-- Lexemes are no ends. -/
theorem kind_lexeme_ne (s : Cursor) (c : Char) : ∀ t ∈ (s.lexeme c).1, t.kind ≠ .finish := by
  intro t ht
  rcases cutsOff_lexeme s c with ⟨s', -, u, hu, hwritten, -⟩ | ⟨-, u, hu, hbroken⟩
  · rw [hu, List.mem_singleton] at ht
    subst ht
    intro hfinish
    rw [Token.isWritten, hfinish] at hwritten
    cases hwritten
  · rw [hu, List.mem_singleton] at ht
    exact ht ▸ hbroken.kind_ne

/-! ## Lines -/

theorem eq_advance_of_continued? (h : s.continued? = some t) :
    t = s.advance 1 ∧ ∃ c cs, s.rest = '\n' :: c :: cs := by
  rw [continued?] at h
  split at h
  · rename_i c cs hrest
    cases h
    exact ⟨rfl, c, cs, hrest⟩
  · cases h

/-- The cursor past white space. -/
def pastBlanks (s : Cursor) : Cursor :=
  s.advance (s.rest.takeWhile fun c => c == ' ' || c == '\t' || c == '\x0c').length

/-- The cursor past a comment. -/
def pastComment (s : Cursor) : Cursor :=
  if s.rest.head? == some '#' then s.advance (s.rest.takeWhile (· != '\n')).length else s

theorem lexemeOrEnd_eq (s : Cursor) (b : Bool) :
    s.lexemeOrEnd b =
      match s.pastBlanks.pastComment.rest with
      | [] => ([s.pastBlanks.pastComment.finish], none)
      | '\n' :: _ => lineEnd s.pastBlanks s.pastBlanks.pastComment b
      | '\\' :: _ =>
        match (s.pastBlanks.pastComment.advance 1).continued? with
        | some next => ([], some next)
        | none => ([breakContinuation (s.pastBlanks.pastComment.advance 1)], none)
      | c :: _ => s.pastBlanks.pastComment.lexeme c := rfl

/-- What is passed ends where the property does. -/
theorem head_drop_takeWhile (p : Char → Bool) (cs : List Char) :
    ∀ c ∈ (cs.drop (cs.takeWhile p).length).head?, p c = false := by
  intro c hc
  have hdrop : cs.drop (cs.takeWhile p).length = cs.dropWhile p := by
    have happend := congrArg (List.drop (cs.takeWhile p).length)
      (List.takeWhile_append_dropWhile (p := p) (l := cs))
    rwa [List.drop_left, eq_comm] at happend
  have hnot := List.head?_dropWhile_not p cs
  rw [← hdrop, hc] at hnot
  exact hnot

theorem head_pastComment (s : Cursor) : ∀ c ∈ s.pastBlanks.pastComment.rest.head?, c ≠ ' ' := by
  have hblanks := head_drop_takeWhile (fun c => c == ' ' || c == '\t' || c == '\x0c') s.rest
  rw [← advance_rest, ← pastBlanks] at hblanks
  intro c hc
  rw [pastComment] at hc
  split at hc
  · rw [advance_rest] at hc
    have hnewline := head_drop_takeWhile (· != '\n') _ c hc
    rintro rfl
    cases hnewline
  · have hnot := hblanks c hc
    rintro rfl
    cases hnot

section

variable {cs : List Char}

theorem lexemeOrEnd_of_newline (h : s.pastBlanks.pastComment.rest = '\n' :: cs) (b : Bool) :
    s.lexemeOrEnd b = lineEnd s.pastBlanks s.pastBlanks.pastComment b := by
  rw [lexemeOrEnd_eq, h]
  rfl

theorem lexemeOrEnd_of_backslash (h : s.pastBlanks.pastComment.rest = '\\' :: cs) (b : Bool) :
    s.lexemeOrEnd b =
      match (s.pastBlanks.pastComment.advance 1).continued? with
      | some next => ([], some next)
      | none => ([breakContinuation (s.pastBlanks.pastComment.advance 1)], none) := by
  rw [lexemeOrEnd_eq, h]
  rfl

theorem lexemeOrEnd_of_cons (h : s.pastBlanks.pastComment.rest = c :: cs) (hc : c ≠ '\n' ∧ c ≠ '\\') (b : Bool) :
    s.lexemeOrEnd b = s.pastBlanks.pastComment.lexeme c := by
  rw [lexemeOrEnd_eq, h]
  split
  · rename_i h
    cases h
  · rename_i h
    exact absurd (List.cons.inj h).1 hc.1
  · rename_i h
    exact absurd (List.cons.inj h).1 hc.2
  · rename_i h
    rw [(List.cons.inj h).1]

end

/-- Two cursors in the same line, with the same indentation and the same open brackets. -/
structure SameLine (s t : Cursor) : Prop where
  levels : t.levels = s.levels
  brackets : t.brackets = s.brackets
  atLineStart : t.atLineStart = s.atLineStart

theorem SameLine.trans (h : s.SameLine t) (h' : t.SameLine s') : s.SameLine s' :=
  ⟨h'.levels.trans h.levels, h'.brackets.trans h.brackets, h'.atLineStart.trans h.atLineStart⟩

theorem sameLine_advance (n : ℕ) (s : Cursor) : s.SameLine (s.advance n) :=
  ⟨advance_levels n s, advance_brackets n s, advance_atLineStart n s⟩

theorem sameLine_pastBlanks (s : Cursor) : s.SameLine s.pastBlanks := sameLine_advance _ s

theorem sameLine_pastComment (s : Cursor) : s.SameLine s.pastComment := by
  rw [pastComment]
  split
  · exact sameLine_advance _ s
  · exact ⟨rfl, rfl, rfl⟩

theorem sameLine_of_continued? (h : s.continued? = some t) : s.SameLine t := by
  rw [(eq_advance_of_continued? h).1]
  exact sameLine_advance 1 s

/-- What comes after the white space of a line: a lexeme, a backslash before the end of the line, or the
    end of the line. -/
theorem lexemeOrEnd_cases (h : s.lexemeOrEnd b = (ts, some s')) :
    s.IsCut ts s' ∨ (ts = [] ∧ s.SameLine s') ∨
      (s'.levels = s.levels ∧ s'.brackets = s.brackets ∧ s'.atLineStart = true ∧
        if (b || !s.brackets.isEmpty) = true then ts = [] else ∃ t, ts = [t] ∧ t.kind = .newline) := by
  have hpast := (sameLine_pastBlanks s).trans (sameLine_pastComment _)
  rw [lexemeOrEnd_eq] at h
  split at h
  · cases h
  · rw [lineEnd, (sameLine_pastBlanks s).brackets] at h
    have hnext := hpast.trans (sameLine_advance 1 _)
    right
    right
    split at h <;> cases h
    · exact ⟨hnext.levels, hnext.brackets, rfl, by rw [if_pos ‹_›]⟩
    · exact ⟨hnext.levels, hnext.brackets, rfl, by rw [if_neg ‹_›]; exact ⟨_, rfl, rfl⟩⟩
  · split at h
    · rename_i hcontinued
      cases h
      exact .inr (.inl ⟨rfl, (hpast.trans (sameLine_advance 1 _)).trans (sameLine_of_continued? hcontinued)⟩)
    · cases h
  · left
    obtain ⟨t, ht, hwritten, hlevels, hstart⟩ := isCut_lexeme h
    exact ⟨t, ht, hwritten, hlevels.trans hpast.levels, hstart.trans hpast.atLineStart⟩

/-! ## Indentation -/

theorem sameLine_measure {fixed fuel : ℕ} {i i' : Indentation} (h : measure fixed i fuel s = .ok (i', t)) :
    s.SameLine t := by
  -- By induction on the fuel, which lasts for one character or one line that is continued.
  induction fuel generalizing fixed i s with
  | zero =>
    cases h
    exact ⟨rfl, rfl, rfl⟩
  | succ fuel ih =>
    rw [measure] at h
    split at h
    · split at h
      · exact (sameLine_advance 1 s).trans (ih h)
      · split at h
        · split at h
          · rename_i next hcontinued
            have hnext := (sameLine_advance 1 s).trans (sameLine_of_continued? hcontinued)
            have hline : s.SameLine { next with firstLine := next.position.line } :=
              ⟨hnext.levels, hnext.brackets, hnext.atLineStart⟩
            exact hline.trans (ih h)
          · cases h
        · cases h
          exact ⟨rfl, rfl, rfl⟩
    · cases h
      exact ⟨rfl, rfl, rfl⟩

/-- Dedents close the innermost levels. -/
theorem dedents_eq (width : ℕ) (levels : List Indentation) :
    ∃ n ≤ levels.length, ∀ s : Cursor,
      dedents s width levels = (List.replicate n (mark .dedent s), levels.drop n) := by
  induction levels with
  | nil => exact ⟨0, le_rfl, fun _ => rfl⟩
  | cons level levels ih =>
    by_cases hlt : width < level.width
    · obtain ⟨n, hle, heq⟩ := ih
      refine ⟨n + 1, Nat.succ_le_succ hle, fun s => ?_⟩
      rw [dedents, if_pos hlt, heq]
      rfl
    · exact ⟨0, Nat.zero_le _, fun s => by rw [dedents, if_neg hlt]; rfl⟩

/-- At the beginning of a line stands nothing, an indent, or some dedents. -/
theorem indent_cases {i : Indentation} (h : s.indent i = .ok (ts, t)) :
    (ts = [] ∧ t = s) ∨
      (ts = [mark .indent s] ∧ 0 < i.width ∧ t = { s with levels := i :: s.levels }) ∨
      ∃ n ≤ s.levels.length, ts = List.replicate n (mark .dedent s) ∧
        t = { s with levels := s.levels.drop n } := by
  rw [indent] at h
  split at h
  · split at h
    · cases h
      exact .inl ⟨rfl, rfl⟩
    · cases h
  split at h
  · -- Further in than the last level.
    rename_i hlt
    split at h
    · cases h
    split at h
    · cases h
    · cases h
      exact .inr (.inl ⟨rfl, by omega, rfl⟩)
  · -- Further out: levels are closed up to one that is as wide.
    obtain ⟨n, hle, heq⟩ := dedents_eq i.width s.levels
    rw [heq] at h
    dsimp only at h
    split at h
    · cases h
    split at h
    · cases h
    · cases h
      exact .inr (.inr ⟨n, hle, rfl, rfl⟩)

theorem atLineStart_of_indent {i : Indentation} (h : s.indent i = .ok (ts, t)) :
    t.atLineStart = s.atLineStart := by
  rcases indent_cases h with ⟨-, rfl⟩ | ⟨-, -, rfl⟩ | ⟨n, -, -, rfl⟩ <;> rfl

/-! ## Steps -/

/-- What is known of the tokens of a step and of the cursor after it. -/
structure Yields (s : Cursor) (ts : List Token) (s' : Cursor) : Prop where
  /-- Only the last token of a step is written with characters. -/
  single : ts.Pairwise fun t _ => t.isWritten = false
  closes : (ts.map Token.closes).sum + s'.levels.length = s.levels.length
  positive : (∀ i ∈ s.levels, 0 < i.width) → ∀ i ∈ s'.levels, 0 < i.width
  /-- Outside brackets a line does not begin right after what is written. -/
  settled : s'.atLineStart = true → s'.brackets = [] →
    (∀ t ∈ ts.getLast?, t.isWritten = false) ∧ (ts = [] → s.atLineStart = true ∧ s.brackets = [])

/-- What comes after the white space of a line, where it does not begin. -/
theorem yields_lexemeOrEnd (h : s.lexemeOrEnd b = (ts, some s')) (hs : s.atLineStart = false) {t : Cursor}
    (hlevels : s.levels = t.levels) (hbrackets : s.brackets = t.brackets)
    (hb : b = true → t.atLineStart = true) : t.Yields ts s' := by
  rcases lexemeOrEnd_cases h with ⟨u, rfl, hu, hlevels', hstart⟩ | ⟨rfl, hsame⟩ |
    ⟨hlevels', hbrackets', hstart, hts⟩
  · -- A lexeme closes no level.
    refine ⟨List.pairwise_singleton _ _, ?_, ?_, ?_⟩
    · rw [hlevels', hlevels, List.map_singleton, List.sum_singleton, Token.closes_of_isWritten hu, zero_add]
    · rw [hlevels', hlevels]
      exact id
    · rw [hstart, hs]
      rintro ⟨⟩
  · -- Nothing, where a backslash has led on to the next line.
    refine ⟨.nil, ?_, ?_, ?_⟩
    · rw [hsame.levels, hlevels, List.map_nil, List.sum_nil, zero_add]
    · rw [hsame.levels, hlevels]
      exact id
    · rw [hsame.atLineStart, hs]
      rintro ⟨⟩
  · rw [hbrackets] at hts
    -- The end of a line, which is a token only outside brackets and after something.
    by_cases hquiet : (b || !t.brackets.isEmpty) = true
    · rw [if_pos hquiet] at hts
      subst hts
      refine ⟨.nil, by rw [hlevels', hlevels, List.map_nil, List.sum_nil, zero_add], ?_, fun _ hnil => ?_⟩
      · rw [hlevels', hlevels]
        exact id
      · rw [hbrackets', hbrackets] at hnil
        rw [hnil, List.isEmpty_nil, Bool.not_true, Bool.or_false] at hquiet
        exact ⟨by rintro _ ⟨⟩, fun _ => ⟨hb hquiet, hnil⟩⟩
    · rw [if_neg hquiet] at hts
      obtain ⟨u, rfl, hu⟩ := hts
      refine ⟨List.pairwise_singleton _ _, ?_, ?_, fun _ _ => ⟨?_, fun h => by cases h⟩⟩
      · rw [hlevels', hlevels, List.map_singleton, List.sum_singleton, Token.closes, hu, zero_add]
      · rw [hlevels', hlevels]
        exact id
      · intro v hv
        obtain rfl : u = v := Option.some.inj hv
        rw [Token.isWritten, hu]

/-- Indents and dedents are plain. -/
theorem isPlain_of_indent {i : Indentation} (h : s.indent i = .ok (ts, t)) : ∀ u ∈ ts, u.IsPlain := by
  have hmark (kind : TokenKind) (hkind : kind ≠ .finish ∧ ∀ reason, kind ≠ .broken reason) :
      (mark kind s).IsPlain := ⟨hkind.1, fun ⟨reason, h⟩ => hkind.2 reason h⟩
  rcases indent_cases h with ⟨rfl, -⟩ | ⟨rfl, -, -⟩ | ⟨n, -, rfl, -⟩
  · rintro _ ⟨⟩
  · intro u hu
    obtain rfl := List.mem_singleton.1 hu
    exact hmark .indent ⟨by decide, fun _ h => by cases h⟩
  · intro u hu
    obtain rfl := List.eq_of_mem_replicate hu
    exact hmark .dedent ⟨by decide, fun _ h => by cases h⟩

theorem isPlain_of_lexemeOrEnd (h : s.lexemeOrEnd b = (ts, some s')) : ∀ u ∈ ts, u.IsPlain := by
  rcases lexemeOrEnd_cases h with ⟨u, rfl, hu, -⟩ | ⟨rfl, -⟩ | ⟨-, -, -, hts⟩
  · intro v hv
    obtain rfl := List.mem_singleton.1 hv
    exact Token.isPlain_of_isWritten hu
  · rintro _ ⟨⟩
  · split at hts
    · subst hts
      rintro _ ⟨⟩
    · obtain ⟨u, rfl, hu⟩ := hts
      intro v hv
      obtain rfl := List.mem_singleton.1 hv
      refine ⟨fun h => ?_, fun ⟨reason, h⟩ => ?_⟩ <;>
      · rw [hu] at h
        cases h

/-- **A step that is not the last one** gives plain tokens only. -/
theorem isPlain_of_step (h : s.step = (ts, some s')) : ∀ u ∈ ts, u.IsPlain := by
  rw [step] at h
  split at h
  · split at h
    · cases h
    · dsimp only at h
      split at h
      · exact isPlain_of_lexemeOrEnd h
      · split at h
        · cases h
        · rename_i marks v hmarks
          generalize hmore : v.lexemeOrEnd false = more at h
          obtain ⟨us, next⟩ := more
          cases h
          exact fun u hu => (List.mem_append.1 hu).elim (isPlain_of_indent hmarks u)
            (isPlain_of_lexemeOrEnd hmore u)
  · exact isPlain_of_lexemeOrEnd h

/-- The indents and dedents at the beginning of a line come before what else is yielded. -/
theorem Yields.after_indent {i : Indentation} {marks : List Token} (hmarks : s.indent i = .ok (marks, t))
    (hs : s.atLineStart = false) (h : t.Yields ts s') : s.Yields (marks ++ ts) s' := by
  have hstart : t.atLineStart = false := (atLineStart_of_indent hmarks).trans hs
  obtain ⟨hwritten, hcloses, hpositive⟩ : (∀ u ∈ marks, u.isWritten = false) ∧
      (marks.map Token.closes).sum + t.levels.length = s.levels.length ∧
      ((∀ i ∈ s.levels, 0 < i.width) → ∀ i ∈ t.levels, 0 < i.width) := by
    -- Whatever marks there are, none is written, and they count the levels.
    rcases indent_cases hmarks with ⟨rfl, rfl⟩ | ⟨rfl, hi, rfl⟩ | ⟨n, hn, rfl, rfl⟩
    · exact ⟨by rintro _ ⟨⟩, by simp, id⟩
    · refine ⟨?_, ?_, ?_⟩
      · intro u hu
        obtain rfl := List.mem_singleton.1 hu
        rfl
      · simp [mark, token, Token.closes]
      · exact fun hlevels => List.forall_mem_cons.2 ⟨hi, hlevels⟩
    · refine ⟨?_, ?_, ?_⟩
      · intro u hu
        obtain rfl := List.eq_of_mem_replicate hu
        rfl
      · simp [mark, token, Token.closes, hn]
      · exact fun hlevels i hi => hlevels i (List.mem_of_mem_drop hi)
  refine ⟨?_, ?_, fun hlevels => h.positive (hpositive hlevels), fun hline hnil => ?_⟩
  · exact List.pairwise_append.2 ⟨List.pairwise_of_forall_mem_list fun u hu _ _ => hwritten u hu, h.single,
      fun u hu _ _ => hwritten u hu⟩
  · rw [List.map_append, List.sum_append, add_assoc, h.closes, hcloses]
  · obtain ⟨hlast, hnone⟩ := h.settled hline hnil
    -- The line does not begin after its marks, so something comes after them.
    have hne : ts ≠ [] := by
      rintro rfl
      have := (hnone rfl).1
      rw [hstart] at this
      cases this
    refine ⟨?_, fun happend => absurd (List.append_eq_nil_iff.1 happend).2 hne⟩
    rwa [List.getLast?_append_of_ne_nil _ hne]

/-- **A step** of the lexer gives at most one token that is written with characters. -/
theorem yields_step (h : s.step = (ts, some s')) : s.Yields ts s' := by
  rw [step] at h
  split at h
  · rename_i hstart
    split at h
    · cases h
    · rename_i i u hmeasure
      have hline := sameLine_measure hmeasure
      dsimp only at h
      split at h
      · exact yields_lexemeOrEnd h rfl hline.levels hline.brackets fun _ => hstart
      · split at h
        · cases h
        · rename_i marks v hmarks
          generalize hmore : v.lexemeOrEnd false = more at h
          obtain ⟨us, next⟩ := more
          cases h
          have hstart' : v.atLineStart = false := atLineStart_of_indent hmarks
          have hyields := Yields.after_indent hmarks rfl
            (yields_lexemeOrEnd hmore hstart' rfl rfl fun h => by cases h)
          -- The white space has been measured, which leaves levels and brackets alone.
          refine ⟨hyields.single, ?_, ?_, fun hend hnil => ?_⟩
          · rw [hyields.closes, ← hline.levels]
          · rw [← hline.levels]
            exact hyields.positive
          · obtain ⟨hlast, hnone⟩ := hyields.settled hend hnil
            exact ⟨hlast, fun h => absurd (hnone h).1 Bool.false_ne_true⟩
  · exact yields_lexemeOrEnd h (Bool.eq_false_of_not_eq_true ‹_›) rfl rfl fun h => by cases h

theorem tokens_of_step (h : s.step = (ts, some s')) (fuel : ℕ) :
    s.tokens (fuel + 1) = ts ++ s'.tokens fuel := by
  rw [tokens, h]

theorem tokens_of_stop (h : s.step.2 = none) (fuel : ℕ) : s.tokens (fuel + 1) = s.step.1 := by
  obtain ⟨ts, next, hstep⟩ : ∃ ts next, s.step = (ts, next) := ⟨_, _, rfl⟩
  rw [hstep] at h
  obtain rfl : next = none := h
  rw [tokens, hstep]

/-! ## The end of a text -/

theorem isBroken_breakContinuation (s : Cursor) : s.breakContinuation.IsBroken := by
  rw [breakContinuation]
  split <;> exact ⟨_, rfl⟩

/-- White space that cannot be measured. -/
theorem isBroken_of_measure {fixed fuel : ℕ} {i : Indentation} {e : Token}
    (h : measure fixed i fuel s = .error e) : e.IsBroken := by
  induction fuel generalizing fixed i s with
  | zero => cases h
  | succ fuel ih =>
    rw [measure] at h
    split at h
    · split at h
      · exact ih h
      · split at h
        · split at h
          · exact ih h
          · cases h
            exact isBroken_breakContinuation _
        · cases h
    · cases h

/-- White space that does not fit the levels. -/
theorem isBroken_of_indent {i : Indentation} {e : Token} (h : s.indent i = .error e) : e.IsBroken := by
  have hrefuse (cause : Cause) : (s.refuseIndentation cause).IsBroken := ⟨_, rfl⟩
  rw [indent] at h
  dsimp only at h
  split at h
  · split at h <;> cases h
    exact hrefuse _
  split at h
  · split at h
    · cases h
      exact hrefuse _
    · split at h <;> cases h
      exact hrefuse _
  · split at h
    · cases h
      exact hrefuse _
    · split at h <;> cases h
      exact hrefuse _

/-- Where no token is an end, neither is the only one. -/
theorem kind_singleton_ne {u : Token} {next : Option Cursor} (h : u.kind ≠ .finish) :
    ∀ t ∈ ([u], next).1, t.kind ≠ .finish := by
  intro t ht
  obtain rfl := List.mem_singleton.1 ht
  exact h

/-- Indents and dedents are no ends. -/
theorem kind_marks_ne {i : Indentation} (h : s.indent i = .ok (ts, t)) : ∀ u ∈ ts, u.kind ≠ .finish := by
  rcases indent_cases h with ⟨rfl, -⟩ | ⟨rfl, -, -⟩ | ⟨n, -, rfl, -⟩
  · rintro _ ⟨⟩
  · intro u hu
    obtain rfl := List.mem_singleton.1 hu
    exact fun h => by cases h
  · intro u hu
    obtain rfl := List.eq_of_mem_replicate hu
    exact fun h => by cases h

/-- A line without white space before it closes all levels. -/
theorem indent_zero (hpositive : ∀ i ∈ s.levels, 0 < i.width) :
    s.indent {} = .ok (List.replicate s.levels.length (mark .dedent s), { s with levels := [] }) := by
  have hdedents (levels : List Indentation) (h : ∀ i ∈ levels, 0 < i.width) :
      dedents s 0 levels = (List.replicate levels.length (mark .dedent s), []) := by
    induction levels with
    | nil => rfl
    | cons level levels ih =>
      rw [dedents, if_pos (h level List.mem_cons_self), ih fun i hi => h i (List.mem_cons_of_mem level hi)]
      rfl
  obtain ⟨rest, position, firstLine, atLineStart, levels, brackets⟩ := s
  cases levels with
  | nil => rfl
  | cons level levels =>
    have hhead : 0 < level.width := hpositive level List.mem_cons_self
    rw [indent, hdedents _ hpositive]
    simp only [List.head?_cons, Option.getD_some]
    rw [if_neg (by simp; omega), if_neg (by simp)]
    rfl

theorem lexemeOrEnd_of_rest_nil (h : s.rest = []) : s.lexemeOrEnd b = ([s.finish], none) := by
  have hblanks : s.pastBlanks = s := by rw [pastBlanks, h]; rfl
  have hcomment : s.pastComment = s := by rw [pastComment, h]; rfl
  rw [lexemeOrEnd_eq, hblanks, hcomment, h]

theorem measure_of_rest_nil (h : s.rest = []) : measure 0 {} (s.rest.length + 1) s = .ok ({}, s) := by
  rw [measure, h]
  rfl

/-- At the end of a text the levels are closed that are still open. -/
theorem step_of_rest_nil (hrest : s.rest = []) (hstart : s.atLineStart = true)
    (hpositive : ∀ i ∈ s.levels, 0 < i.width) (hbrackets : s.brackets = []) :
    s.step = (List.replicate s.levels.length (mark .dedent { s with atLineStart := false }) ++
      [mark .finish { s with atLineStart := false, levels := [] }], none) := by
  refine step_line hstart (measure_of_rest_nil hrest) (by rw [hrest]; rintro c ⟨⟩) hbrackets
    (indent_zero hpositive) ?_
  rw [lexemeOrEnd_of_rest_nil (by exact hrest), finish, unclosed?, hbrackets]
  rfl

/-- At the end of a text an open bracket is reported. -/
theorem step_of_unclosed (hrest : s.rest = []) (hstart : s.atLineStart = true) (hne : s.brackets ≠ []) :
    s.step.2 = none ∧ ∀ t ∈ s.step.1, t.kind ≠ .finish := by
  have hstep : s.step = ({ s with atLineStart := false } : Cursor).lexemeOrEnd false := by
    rw [step, if_pos hstart, measure_of_rest_nil hrest]
    dsimp only
    rw [if_pos (by simp [hne]), hrest]
    rfl
  obtain ⟨b, bs, hbs⟩ := List.exists_cons_of_ne_nil hne
  rw [hstep, lexemeOrEnd_of_rest_nil (by exact hrest), finish, unclosed?, hbs]
  exact ⟨rfl, kind_singleton_ne fun h => by cases h⟩

/-! ## Levels that are still open -/

/-- The levels play no part in going over characters. -/
theorem advance_withLevels (s : Cursor) (n : ℕ) (levels : List Indentation) :
    ({ s with levels := levels } : Cursor).advance n = { s.advance n with levels := levels } := by
  induction n generalizing s with
  | zero => rfl
  | succ n ih =>
    rw [advance, advance]
    dsimp only
    split
    · rfl
    · rename_i c rest _
      exact ih { s with rest := rest, position := s.position.next c !rest.isEmpty }

theorem continued?_withLevels (s : Cursor) (levels : List Indentation) :
    ({ s with levels := levels } : Cursor).continued? =
      s.continued?.map fun t => { t with levels := levels } := by
  rw [continued?, continued?]
  dsimp only
  split
  · rw [advance_withLevels]
    rfl
  · rfl

/-- The levels play no part in measuring white space. -/
theorem measure_withLevels {fixed fuel : ℕ} {i w : Indentation} (levels : List Indentation)
    (h : measure fixed i fuel s = .ok (w, t)) :
    measure fixed i fuel { s with levels := levels } = .ok (w, { t with levels := levels }) := by
  induction fuel generalizing fixed i s with
  | zero =>
    cases h
    rfl
  | succ fuel ih =>
    rw [measure] at h ⊢
    dsimp only
    split at h
    · split at h
      · -- One more character of white space.
        rename_i hblank
        rw [if_pos hblank, advance_withLevels]
        exact ih h
      · rename_i hblank
        rw [if_neg hblank]
        split at h
        · rename_i hbackslash
          rw [if_pos hbackslash, advance_withLevels, continued?_withLevels]
          split at h
          · rename_i hcontinued
            rw [hcontinued]
            exact ih h
          · cases h
        · rename_i hbackslash
          rw [if_neg hbackslash]
          cases h
          rfl
    · cases h
      rfl

/-- Outside all levels a line has no white space before it, or there is an indent. -/
theorem indent_of_levels_nil {w : Indentation} (hlevels : s.levels = []) (h : s.indent w = .ok (ts, t))
    (hnot : ∀ u ∈ ts.head?, u.kind ≠ .indent) : ts = [] ∧ t = s ∧ w = {} := by
  have hwidth : w.width = 0 := by
    -- Any width outside all levels makes an indent.
    by_contra hne
    have hpos := Nat.pos_of_ne_zero hne
    obtain ⟨rest, position, firstLine, atLineStart, levels, brackets⟩ := s
    obtain rfl : levels = [] := hlevels
    rw [indent, if_neg (by simpa using hne), if_pos (by exact hpos)] at h
    split at h
    · cases h
    split at h
    · cases h
    · cases h
      exact hnot _ rfl rfl
  obtain ⟨rest, position, firstLine, atLineStart, levels, brackets⟩ := s
  obtain rfl : levels = [] := hlevels
  obtain ⟨width, narrow⟩ := w
  obtain rfl : width = 0 := hwidth
  rw [indent, if_pos (by rfl)] at h
  split at h
  · rename_i hnarrow
    obtain rfl : narrow = 0 := beq_iff_eq.1 hnarrow
    cases h
    exact ⟨rfl, rfl, rfl⟩
  · cases h

/-- A line without white space before it closes all levels, and then it is read as without them. -/
theorem step_of_levels {u : Cursor} (hstart : s.atLineStart = true)
    (hmeasure : measure 0 {} (s.rest.length + 1) s = .ok ({}, u))
    (hhead : ∀ c ∈ u.rest.head?, c ≠ '#' ∧ c ≠ '\n') (hbrackets : u.brackets = [])
    (hpositive : ∀ i ∈ u.levels, 0 < i.width) :
    s.step = (List.replicate u.levels.length (mark .dedent { u with atLineStart := false }) ++
        ({ s with levels := [] } : Cursor).step.1, ({ s with levels := [] } : Cursor).step.2) := by
  have hinner : ({ s with levels := [] } : Cursor).step =
      ({ u with atLineStart := false, levels := [] } : Cursor).lexemeOrEnd false :=
    step_line (s := { s with levels := [] }) (u := { u with levels := [] }) hstart
      (measure_withLevels [] hmeasure) hhead hbrackets rfl rfl
  rw [hinner]
  exact step_line hstart hmeasure hhead hbrackets (indent_zero (by exact hpositive)) rfl

/-- A line without white space before it closes all levels. -/
theorem tokens_of_levels {u : Cursor} (hstart : s.atLineStart = true)
    (hmeasure : measure 0 {} (s.rest.length + 1) s = .ok ({}, u))
    (hhead : ∀ c ∈ u.rest.head?, c ≠ '#' ∧ c ≠ '\n') (hbrackets : u.brackets = [])
    (hpositive : ∀ i ∈ s.levels, 0 < i.width) (fuel : ℕ) :
    s.tokens (fuel + 1) =
      List.replicate s.levels.length (mark .dedent { u with atLineStart := false }) ++
        ({ s with levels := [] } : Cursor).tokens (fuel + 1) := by
  have hlevels := (sameLine_measure hmeasure).levels
  rw [← hlevels] at hpositive ⊢
  have hstep := step_of_levels hstart hmeasure hhead hbrackets hpositive
  generalize hinner : ({ s with levels := [] } : Cursor).step = r at hstep
  obtain ⟨ts, _ | next⟩ := r
  · rw [tokens_of_stop (by rw [hstep]), tokens_of_stop (by rw [hinner]), hstep, hinner]
  · rw [tokens_of_step hstep, tokens_of_step hinner, List.append_assoc]

/-- A line with a comment only, or with nothing, gives no token. -/
theorem lexemeOrEnd_of_blank {u : Cursor} (hhead : s.rest.head? = some '#' ∨ s.rest.head? = some '\n')
    (hrest : s.pastBlanks.pastComment.rest ≠ []) (hu : (s.lexemeOrEnd true).2 = some u) :
    s.lexemeOrEnd true = ([], some u) ∧ u.atLineStart = true ∧ u.brackets = s.brackets := by
  have hbrackets := ((sameLine_pastBlanks s).trans (sameLine_pastComment _)).brackets
  -- There are no blanks before a comment or a line end that comes first.
  have hblanks : s.pastBlanks = s := by
    rw [pastBlanks]
    obtain ⟨c, cs, hcs⟩ : ∃ c cs, s.rest = c :: cs := by
      rcases hhead with h | h <;> exact ⟨_, List.head?_eq_some_iff.1 h⟩
    have hc : (c == ' ' || c == '\t' || c == '\x0c') = false := by
      rw [hcs, List.head?_cons, Option.some.injEq, Option.some.injEq] at hhead
      rcases hhead with rfl | rfl <;> rfl
    rw [hcs, List.takeWhile_cons_of_neg (by simp [hc])]
    rfl
  obtain ⟨c, cs, hcs⟩ := List.exists_cons_of_ne_nil hrest
  -- Behind the comment the line ends.
  obtain rfl : c = '\n' := by
    rw [hblanks, pastComment] at hcs
    split at hcs
    · have hnewline := head_drop_takeWhile (· != '\n') s.rest c (by rw [← advance_rest, hcs]; rfl)
      rwa [bne_eq_false_iff_eq] at hnewline
    · rename_i hcomment
      rw [beq_iff_eq] at hcomment
      have hline := hhead.resolve_left hcomment
      rw [hcs] at hline
      exact Option.some.inj hline
  rw [lexemeOrEnd_of_newline hcs, lineEnd, Bool.true_or, if_pos rfl] at hu ⊢
  cases hu
  exact ⟨rfl, rfl, (advance_brackets 1 _).trans hbrackets⟩

end Cursor

end SpriteStage.Script
