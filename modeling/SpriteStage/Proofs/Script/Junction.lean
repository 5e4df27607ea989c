import SpriteStage.Proofs.Script.Segment

/-!
# Texts that are put together

The lines of two texts are those of both of them if the first text ends with a line end, except for a carriage
return before a line feed.  So the places of the second text are further down in both of them, by the lines of
the first one, and what stands there is the same.

## Main definitions

* `Text.EndsBefore` says that the last line of a text ends before another text

## Main results

* `Script.readable_append` is about what the lexer reads
* `Script.Span.segment_append` and `Script.Span.segment_down` are about what stretches cover
-/

namespace SpriteStage

namespace Text

/-! ## Lines of two texts -/

/-- The last line of a text ends before another text: with a line end of any kind that does not go on with the
    other text. -/
def EndsBefore (cs ds : List Char) : Prop :=
  cs.getLast? = some '\n' ∨ cs.getLast? = some '\r' ∧ ds.head? ≠ some '\n'

variable {cs ds : List Char} {c : Char}

/-- A carriage return that ends a line is not followed by a line feed. -/
theorem append_ne_newline (h : ('\r' :: cs).getLast? = some '\r' → ds.head? ≠ some '\n')
    (hcs : ∀ es, cs ≠ '\n' :: es) (es : List Char) : cs ++ ds ≠ '\n' :: es := by
  cases cs with
  | nil =>
    rintro rfl
    exact h rfl rfl
  | cons d cs => exact fun heq => hcs cs (by rw [(List.cons.inj heq).1])

/-- **The line ends of two texts** are those of both of them, unless a line feed comes after a carriage return. -/
theorem unifyNewlines_append (h : cs.getLast? = some '\r' → ds.head? ≠ some '\n') :
    unifyNewlines (cs ++ ds) = unifyNewlines cs ++ unifyNewlines ds := by
  have hcons {c : Char} {es : List Char} (hlast : es.getLast? = some '\r') : (c :: es).getLast? = some '\r' := by
    rw [List.getLast?_cons, hlast]
    rfl
  fun_induction unifyNewlines cs with
  | case1 => rfl
  | case2 es ih =>
    rw [List.cons_append, List.cons_append, unifyNewlines]
    exact congrArg _ (ih fun hlast => h (hcons (hcons hlast)))
  | case3 es hnot ih =>
    rw [List.cons_append, unifyNewlines]
    · exact congrArg _ (ih fun hlast => h (hcons hlast))
    · exact append_ne_newline h hnot
  | case4 c es hcrlf hcr ih =>
    rw [List.cons_append, unifyNewlines]
    · exact congrArg _ (ih fun hlast => h (hcons hlast))
    · exact fun es hc => absurd hc hcr
    · exact hcr

/-- A last character that ends no line stays the last one. -/
theorem getLast?_of_unifyNewlines (hc : c ≠ '\n') (h : (unifyNewlines cs).getLast? = some c) :
    cs.getLast? = some c := by
  rcases List.eq_nil_or_concat cs with rfl | ⟨es, d, rfl⟩
  · cases h
  rw [List.concat_eq_append] at h ⊢
  by_cases hcrlf : es.getLast? = some '\r' ∧ d = '\n'
  · -- The carriage return and the line feed are one line end.
    obtain ⟨⟨fs, rfl⟩, rfl⟩ := hcrlf.imp_left List.getLast?_eq_some_iff.1
    rw [List.append_assoc, unifyNewlines_append (by rintro - ⟨⟩)] at h
    rw [show unifyNewlines (['\r'] ++ ['\n']) = ['\n'] from rfl, List.getLast?_concat] at h
    exact absurd (Option.some.inj h).symm hc
  · have hsingle : unifyNewlines [d] = [if d = '\r' then '\n' else d] := by
      simp [unifyNewlines_cons, afterFirst, unifyNewlines]
    rw [unifyNewlines_append fun hlast hd => hcrlf ⟨hlast, by simpa using hd⟩, hsingle, List.getLast?_concat] at h
    rw [List.getLast?_concat]
    split at h
    · exact absurd (Option.some.inj h).symm hc
    · exact h

namespace EndsBefore

theorem ne_nil (h : EndsBefore cs ds) : cs ≠ [] := by
  rintro rfl
  rcases h with h | ⟨h, -⟩ <;> cases h

theorem tail (h : EndsBefore (c :: cs) ds) (hne : cs ≠ []) : EndsBefore cs ds := by
  obtain ⟨d, es, rfl⟩ := List.exists_cons_of_ne_nil hne
  rwa [EndsBefore, List.getLast?_cons_cons] at h

theorem head?_ne (h : EndsBefore cs ds) (hlast : cs.getLast? = some '\r') : ds.head? ≠ some '\n' := by
  rcases h with h | ⟨-, h⟩
  · rw [hlast] at h
    cases h
  · exact h

/-- A character that ends no line is not the last one. -/
theorem ne_nil_of_plain (h : EndsBefore (c :: cs) ds) (hc : c ≠ '\r' ∧ c ≠ '\n') : cs ≠ [] := by
  rintro rfl
  rcases h with h | ⟨h, -⟩
  · exact hc.2 (Option.some.inj h)
  · exact hc.1 (Option.some.inj h)

theorem getLast?_unifyNewlines (h : EndsBefore cs ds) : (unifyNewlines cs).getLast? = some '\n' := by
  -- Nothing more than an end of a line may be left.
  have hcons {c : Char} {es : List Char} (hc : es = [] → c = '\n')
      (hes : es ≠ [] → (unifyNewlines es).getLast? = some '\n') :
      (c :: unifyNewlines es).getLast? = some '\n' := by
    rcases eq_or_ne es [] with rfl | hne
    · rw [hc rfl]
      rfl
    · rw [List.getLast?_cons, hes hne]
      rfl
  fun_induction unifyNewlines cs with
  | case1 => exact absurd rfl h.ne_nil
  | case2 es ih => exact hcons (fun _ => rfl) fun hne => ih ((h.tail (List.cons_ne_nil _ _)).tail hne)
  | case3 es hnot ih => exact hcons (fun _ => rfl) fun hne => ih (h.tail hne)
  | case4 c es hcrlf hcr ih =>
    refine hcons (fun hnil => ?_) fun hne => ih (h.tail hne)
    by_contra hc
    exact h.ne_nil_of_plain ⟨hcr, hc⟩ hnil

/-- **The lines of two texts** are those of both of them; the first one goes on with `line`. -/
theorem physicalLinesFrom_append (h : EndsBefore cs ds) (line : List Char) :
    physicalLinesFrom line (cs ++ ds) = physicalLinesFrom line cs ++ physicalLinesFrom [] ds := by
  -- After the end of a line nothing more may be left.
  have hrest {c : Char} {es : List Char} (h : EndsBefore (c :: es) ds) (ih : EndsBefore es ds →
      physicalLinesFrom [] (es ++ ds) = physicalLinesFrom [] es ++ physicalLinesFrom [] ds) :
      physicalLinesFrom [] (es ++ ds) = physicalLinesFrom [] es ++ physicalLinesFrom [] ds := by
    rcases eq_or_ne es [] with rfl | hne
    · rfl
    · exact ih (h.tail hne)
  fun_induction physicalLinesFrom line cs with
  | case1 line hline | case2 line hline => exact absurd rfl h.ne_nil
  | case3 line es ih =>
    rw [List.cons_append, List.cons_append, physicalLinesFrom, hrest (h.tail (List.cons_ne_nil _ _)) ih]
    rfl
  | case4 line es hnot ih =>
    rw [List.cons_append, physicalLinesFrom, hrest h ih]
    · rfl
    · exact append_ne_newline h.head?_ne hnot
  | case5 line es ih =>
    rw [List.cons_append, physicalLinesFrom, hrest h ih]
    rfl
  | case6 line c es hcrlf hcr hlf ih =>
    rw [List.cons_append, physicalLinesFrom_cons _ _ ⟨hcr, hlf⟩, ih (h.tail (h.ne_nil_of_plain ⟨hcr, hlf⟩))]

/-- There are as many lines as line ends. -/
theorem length_physicalLinesFrom (h : EndsBefore cs ds) (line : List Char) :
    (physicalLinesFrom line cs).length = (unifyNewlines cs).count '\n' := by
  have hrest {c : Char} {es : List Char} (h : EndsBefore (c :: es) ds)
      (ih : EndsBefore es ds → (physicalLinesFrom [] es).length = (unifyNewlines es).count '\n') :
      (physicalLinesFrom [] es).length = (unifyNewlines es).count '\n' := by
    rcases eq_or_ne es [] with rfl | hne
    · rfl
    · exact ih (h.tail hne)
  fun_induction physicalLinesFrom line cs with
  | case1 line hline | case2 line hline => exact absurd rfl h.ne_nil
  | case3 line es ih =>
    rw [List.length_cons, unifyNewlines, List.count_cons_self, hrest (h.tail (List.cons_ne_nil _ _)) ih]
  | case4 line es hnot ih =>
    rw [List.length_cons, unifyNewlines, List.count_cons_self, hrest h ih]
    exact hnot
  | case5 line es ih =>
    rw [List.length_cons, unifyNewlines_cons, if_neg (by decide), List.count_cons_self]
    exact congrArg _ (hrest h ih)
  | case6 line c es hcrlf hcr hlf ih =>
    rw [ih (h.tail (h.ne_nil_of_plain ⟨hcr, hlf⟩)), unifyNewlines, List.count_cons_of_ne hlf]
    · exact fun es hc => absurd hc hcr
    · exact hcr

end EndsBefore

end Text

namespace Script

/-- **What the lexer reads** of two texts: only at the end of the second one it may read one line end more. -/
theorem readable_append {cs ds : List Char} (h : Text.EndsBefore cs ds) (hds : ds ≠ []) :
    readable (cs ++ ds) = Text.unifyNewlines cs ++ readable ds := by
  have hne : Text.unifyNewlines ds ≠ [] := by
    obtain ⟨c, es, rfl⟩ := List.exists_cons_of_ne_nil hds
    rw [Text.unifyNewlines_cons]
    exact List.cons_ne_nil _ _
  have hsuffix : ['\r', '\n'] <:+ cs ++ ds ↔ ['\r', '\n'] <:+ ds := by
    refine ⟨fun hcrlf => ?_, fun hcrlf => hcrlf.trans (List.suffix_append cs ds)⟩
    rcases Nat.lt_or_ge ds.length 2 with hlt | hge
    · -- A single line feed does not come after a carriage return.
      obtain ⟨c, rfl⟩ : ∃ c, ds = [c] := by
        rw [← List.length_eq_one_iff]
        have := List.length_pos_of_ne_nil hds
        omega
      obtain ⟨more, hmore⟩ := hcrlf
      have hends : (more ++ ['\r']) ++ ['\n'] = cs ++ [c] := by simpa using hmore
      obtain ⟨hinit, hlast⟩ := List.append_inj' hends rfl
      rcases h with h | ⟨-, h⟩
      · rw [← hinit, List.getLast?_concat] at h
        cases h
      · exact absurd (by rw [← hlast]; rfl) h
    · exact List.suffix_of_suffix_length_le hcrlf (List.suffix_append cs ds) hge
  rw [readable_eq, readable_eq, Text.unifyNewlines_append h.head?_ne, List.getLast?_append_of_ne_nil _ hne]
  simp only [hsuffix]
  split
  · rfl
  · rw [List.append_assoc]

/-- A stretch some lines further down. -/
def Span.down (σ : Span) (k : ℕ) : Span := ⟨σ.start.down k, σ.stop.down k⟩

section

open Text (physicalLinesFrom)

variable {cs ds : List Char} {σ : Span}

/-- **A stretch of the first text** covers the same part of both texts. -/
theorem Span.segment_append (h : Text.EndsBefore cs ds) (hfirst : 1 ≤ σ.start.line)
    (hlast : σ.start.line ≤ σ.stop.line) (hle : σ.stop.line ≤ (physicalLinesFrom [] cs).length) :
    σ.segment (cs ++ ds) = σ.segment cs := by
  have hlt : σ.start.line - 1 < (physicalLinesFrom [] cs).length := by omega
  rw [segment, segment, h.physicalLinesFrom_append, List.drop_append_of_le_length hlt.le]
  dsimp only
  rw [List.drop_eq_getElem_cons hlt, List.cons_append]
  dsimp only
  split
  · rfl
  · rename_i hne
    have hrest : σ.stop.line - σ.start.line - 1 <
        ((physicalLinesFrom [] cs).drop (σ.start.line - 1 + 1)).length := by
      rw [List.length_drop]
      omega
    rw [List.take_append_of_le_length hrest.le, List.drop_append_of_le_length hrest.le,
      List.drop_eq_getElem_cons hrest, List.cons_append, List.headD_cons, List.headD_cons]

/-- **A stretch of the second text** covers the same part of both texts, further down. -/
theorem Span.segment_down (h : Text.EndsBefore cs ds) (hfirst : 1 ≤ σ.start.line) :
    (σ.down (physicalLinesFrom [] cs).length).segment (cs ++ ds) = σ.segment ds := by
  have hdrop : (physicalLinesFrom [] cs ++ physicalLinesFrom [] ds).drop
      (σ.start.line + (physicalLinesFrom [] cs).length - 1) =
        (physicalLinesFrom [] ds).drop (σ.start.line - 1) := by
    rw [show σ.start.line + (physicalLinesFrom [] cs).length - 1 =
      (physicalLinesFrom [] cs).length + (σ.start.line - 1) by omega, ← List.drop_drop, List.drop_left]
  have hlines : σ.stop.line + (physicalLinesFrom [] cs).length -
      (σ.start.line + (physicalLinesFrom [] cs).length) = σ.stop.line - σ.start.line := by omega
  rw [segment, segment, h.physicalLinesFrom_append]
  simp only [down, Position.down, hdrop, hlines, Nat.add_right_cancel_iff]

end

end Script

end SpriteStage
