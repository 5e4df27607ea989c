import SpriteStage.Proofs.Script.Place
import SpriteStage.Proofs.Script.Stepping

/-!
# Lines that hold a backslash only

A line with nothing but a backslash goes on with the next line, which has to be there.  Where a line begins, such
lines leave no trace: what follows is read as if it came first, only further down.

## Main definitions

* `Script.backslashLines` are some of these lines

## Main results

* `Script.place_append_backslashLines` is about the places after them
* `Script.Cursor.At.exists_past_backslashLines` goes over them
-/

namespace SpriteStage.Script

/-- Some lines with nothing but a backslash. -/
def backslashLines : ℕ → List Char
  | 0 => []
  | n + 1 => '\\' :: '\n' :: backslashLines n

@[simp] theorem count_backslashLines (n : ℕ) : (backslashLines n).count '\n' = n := by
  induction n with
  | zero => rfl
  | succ n ih => rw [backslashLines, List.count_cons_of_ne (by decide), List.count_cons_self, ih]

/-- These lines end like other ones. -/
theorem getLast?_append_backslashLines {cs : List Char} (hcs : cs = [] ∨ cs.getLast? = some '\n') (n : ℕ)
    (hne : cs ++ backslashLines n ≠ []) : (cs ++ backslashLines n).getLast? = some '\n' := by
  induction n generalizing cs with
  | zero =>
    rw [backslashLines, List.append_nil] at hne ⊢
    exact hcs.resolve_left hne
  | succ n ih =>
    have hmore : (cs ++ ['\\', '\n'] ++ backslashLines n).getLast? = some '\n' := ih (.inr (by simp)) (by simp)
    rwa [List.append_assoc] at hmore

/-- **After lines that hold a backslash only** the places are further down. -/
theorem place_append_backslashLines {cs ds : List Char} (hcs : cs = [] ∨ cs.getLast? = some '\n') (n : ℕ)
    (hds : ds ≠ []) (k : ℕ) :
    place (cs ++ backslashLines n ++ ds) ((cs ++ backslashLines n).length + k) =
      (place ds k).down (cs.count '\n' + n) := by
  by_cases hnil : cs ++ backslashLines n = []
  · obtain ⟨rfl, hn⟩ := List.append_eq_nil_iff.1 hnil
    obtain rfl : n = 0 := by
      cases n with
      | zero => rfl
      | succ n => cases hn
    rw [hnil, List.nil_append, List.length_nil, Nat.zero_add]
    rfl
  · rw [place_append (getLast?_append_backslashLines hcs n hnil) hds, List.count_append, count_backslashLines]

namespace Cursor

variable {s : Cursor} {whole cs : List Char} {i n : ℕ}

/-- Fuel for all characters that are left is enough to measure white space. -/
theorem measure_eq_of_lt {fixed fuel fuel' : ℕ} {w : Indentation} (h : s.rest.length < fuel)
    (h' : s.rest.length < fuel') : measure fixed w fuel s = measure fixed w fuel' s := by
  -- By induction on the fuel, which lasts for one character or one line that is continued.
  induction fuel generalizing fixed w s fuel' with
  | zero => cases h
  | succ fuel ih =>
    obtain ⟨fuel', rfl⟩ : ∃ n, fuel' = n + 1 := ⟨fuel' - 1, by omega⟩
    rw [measure, measure]
    split
    · rename_i c rest hrest
      have hnext : (s.advance 1).rest.length < fuel ∧ (s.advance 1).rest.length < fuel' := by
        rw [advance_rest, List.length_drop]
        rw [hrest, List.length_cons] at h h' ⊢
        omega
      split
      · exact ih hnext.1 hnext.2
      split
      · split
        · rename_i t ht
          obtain ⟨rfl, -⟩ := eq_advance_of_continued? ht
          have hle : ((s.advance 1).advance 1).rest.length ≤ (s.advance 1).rest.length := by
            rw [advance_rest 1 (s.advance 1), List.length_drop]
            exact Nat.sub_le _ _
          exact ih (hle.trans_lt hnext.1) (hle.trans_lt hnext.2)
        · rfl
      · rfl
    · rfl

/-- The cursor past a line that holds a backslash only. -/
def pastBackslashLine (s : Cursor) : Cursor :=
  { (s.advance 1).advance 1 with firstLine := ((s.advance 1).advance 1).position.line }

/-- **A line that holds a backslash only** is passed without a token, if another line follows. -/
theorem step_pastBackslashLine (hstart : s.atLineStart = true) (hrest : s.rest = '\\' :: '\n' :: cs)
    (hne : cs ≠ []) : s.step = s.pastBackslashLine.step := by
  obtain ⟨c, rest, rfl⟩ := List.exists_cons_of_ne_nil hne
  have hcontinued : (s.advance 1).continued? = some ((s.advance 1).advance 1) := by
    rw [continued?, advance_rest, hrest]
    rfl
  have hpast : s.pastBackslashLine.rest = c :: rest := by
    change ((s.advance 1).advance 1).rest = _
    rw [advance_rest, advance_rest, hrest]
    rfl
  have hstart' : s.pastBackslashLine.atLineStart = true := by
    change ((s.advance 1).advance 1).atLineStart = _
    rw [advance_atLineStart, advance_atLineStart, hstart]
  -- No white space comes before the backslash, so that the next line is measured as if it came first.
  have hmeasure : measure 0 {} (s.rest.length + 1) s =
      measure 0 {} (s.pastBackslashLine.rest.length + 1) s.pastBackslashLine := by
    rw [measure, hrest]
    dsimp only
    rw [if_neg (by decide), if_pos (by decide), hcontinued]
    refine measure_eq_of_lt (s := s.pastBackslashLine) ?_ (Nat.lt_succ_self _)
    rw [hpast]
    simp only [List.length_cons]
    omega
  rw [step, step, if_pos hstart, if_pos hstart', hmeasure]

/-- **Lines that hold a backslash only** leave a cursor at the beginning of the line that follows them, from where
    on the tokens are the same. -/
theorem At.exists_past_backslashLines (h : s.At whole i) (hstart : s.atLineStart = true)
    (hrest : s.rest = backslashLines n ++ cs) (hne : cs ≠ []) :
    ∃ t, t.At whole (i + (backslashLines n).length) ∧ s.SameLine t ∧
      ∀ fuel, s.tokens (fuel + 1) = t.tokens (fuel + 1) := by
  induction n generalizing s i with
  | zero => exact ⟨s, h, ⟨rfl, rfl, rfl⟩, fun _ => rfl⟩
  | succ n ih =>
    have hline : s.SameLine s.pastBackslashLine := by
      have hadvance := (sameLine_advance 1 s).trans (sameLine_advance 1 _)
      exact ⟨hadvance.levels, hadvance.brackets, hadvance.atLineStart⟩
    have hpast : s.pastBackslashLine.At whole (i + 1 + 1) := ((h.advance 1).advance 1).congr rfl rfl
    have hrest' : s.pastBackslashLine.rest = backslashLines n ++ cs := by
      change ((s.advance 1).advance 1).rest = _
      rw [advance_rest, advance_rest, hrest]
      rfl
    obtain ⟨t, ht, hsame, htokens⟩ := ih hpast (hline.atLineStart.trans hstart) hrest'
    refine ⟨t, ?_, hline.trans hsame, fun fuel => ?_⟩
    · rwa [Nat.add_assoc, Nat.add_assoc, Nat.add_comm 1, Nat.add_comm 1] at ht
    · have hstep := step_pastBackslashLine hstart hrest (List.append_ne_nil_of_right_ne_nil _ hne)
      rw [← htokens, tokens, tokens, hstep]

end Cursor

end SpriteStage.Script
