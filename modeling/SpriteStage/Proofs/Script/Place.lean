import SpriteStage.Proofs.Script.Lexing

/-!
# Places in a text

The lexer counts lines and bytes as it goes over the characters.  So the place where it stands is a
function of the text and of the number of characters before it.

## Main definitions

* `Script.place` is the place after some of the characters of a text
* `Script.Cursor.At` says that a cursor stands after some of the characters of a text

## Main results

* `Script.place_lt` says that places go on, and that within a line the bytes are counted up
* `Script.place_before` and `Script.place_append` are about texts that are put together
-/

namespace SpriteStage.Script

/-- The number of bytes of some characters. -/
def byteCount (cs : List Char) : ℕ := (cs.map Char.utf8Size).sum

namespace Position

/-- The same place some lines further down. -/
def down (p : Position) (k : ℕ) : Position := ⟨p.line + k, p.offset⟩

/-- The place after the first `n` of the characters that follow a place. -/
def after (p : Position) : ℕ → List Char → Position
  | 0, _ => p
  | _, [] => p
  | n + 1, c :: cs => (p.next c !cs.isEmpty).after n cs

variable (p : Position) (n m k : ℕ) (cs rest body : List Char)

@[simp] theorem after_nil : p.after n [] = p := by cases n <;> rfl

theorem next_down (c : Char) (more : Bool) : (p.down k).next c more = (p.next c more).down k := by
  rw [next, next]
  split
  · rw [down, down, Nat.add_right_comm]
  · rfl

theorem after_down : (p.down k).after n cs = (p.after n cs).down k := by
  induction n generalizing p cs with
  | zero => rfl
  | succ n ih =>
    cases cs with
    | nil => rfl
    | cons c cs => rw [after, after, next_down, ih]

theorem after_add : p.after (m + n) cs = (p.after m cs).after n (cs.drop m) := by
  induction m generalizing p cs with
  | zero => rw [Nat.zero_add]; rfl
  | succ m ih =>
    cases cs with
    | nil => rw [List.drop_nil, after_nil, after_nil, after_nil]
    | cons c cs => rw [Nat.add_right_comm, after, ih]; rfl

variable {n cs} in
/-- Before the end of a text it does not matter what comes after it. -/
theorem after_append (h : n < cs.length) : p.after n (cs ++ rest) = p.after n cs := by
  induction n generalizing p cs with
  | zero => rfl
  | succ n ih =>
    match cs, h with
    | c :: d :: cs, h => exact ih _ (Nat.lt_of_succ_lt_succ h)
    | [c], h => exact absurd h (by simp)

variable {n cs} in
/-- Going on does not lead back, and within a line it leads to more bytes. -/
theorem le_after (hn : 0 < n) (h : n ≤ cs.length) :
    p.line ≤ (p.after n cs).line ∧ ((p.after n cs).line = p.line → p.offset < (p.after n cs).offset) := by
  induction n generalizing p cs with
  | zero => cases hn
  | succ n ih =>
    match cs, h with
    | c :: cs, h =>
      have hnext : p.line ≤ (p.next c !cs.isEmpty).line ∧
          ((p.next c !cs.isEmpty).line = p.line → p.offset < (p.next c !cs.isEmpty).offset) := by
        rw [next]
        split
        · exact ⟨Nat.le_succ _, fun h => absurd h (Nat.succ_ne_self _)⟩
        · exact ⟨le_rfl, fun _ => Nat.lt_add_of_pos_right c.utf8Size_pos⟩
      rw [after]
      rcases Nat.eq_zero_or_pos n with rfl | hpos
      · exact hnext
      · have hrest := ih (p.next c !cs.isEmpty) hpos (Nat.le_of_succ_le_succ h)
        refine ⟨hnext.1.trans hrest.1, fun hline => ?_⟩
        have h₁ := hnext.2 (by omega)
        have h₂ := hrest.2 (by omega)
        exact h₁.trans h₂

variable {cs rest} in
/-- The end of a text with line ends is the beginning of what follows. -/
theorem after_length (hcs : cs.getLast? = some '\n') (hrest : rest ≠ []) :
    p.after cs.length (cs ++ rest) = ⟨p.line + cs.count '\n', 0⟩ := by
  induction cs generalizing p with
  | nil => cases hcs
  | cons c cs ih =>
    have hmore : (!(cs ++ rest).isEmpty) = true := by
      rw [Bool.not_eq_true', List.isEmpty_eq_false_iff]
      exact List.append_ne_nil_of_right_ne_nil _ hrest
    rw [List.length_cons, List.cons_append, after, hmore, next, Bool.and_true, List.count_cons]
    cases cs with
    | nil =>
      obtain rfl : c = '\n' := Option.some.inj hcs
      rfl
    | cons d cs =>
      rw [ih _ (by rwa [List.getLast?_cons_cons] at hcs)]
      split
      · rw [Nat.add_right_comm, Nat.add_assoc]
      · rfl

end Position

/-- The place after the first `n` characters of a text. -/
def place (cs : List Char) (n : ℕ) : Position := Position.after ⟨1, 0⟩ n cs

variable {cs rest : List Char} {n m : ℕ}

theorem place_add (cs : List Char) (n m : ℕ) :
    place cs (n + m) = (place cs n).after m (cs.drop n) := Position.after_add _ _ _ _

/-- **Within a line the bytes are counted up**. -/
theorem place_lt (hlt : n < m) (hm : m ≤ cs.length) :
    (place cs n).line ≤ (place cs m).line ∧
      ((place cs m).line = (place cs n).line → (place cs n).offset < (place cs m).offset) := by
  obtain ⟨k, rfl⟩ := Nat.exists_eq_add_of_lt hlt
  rw [Nat.add_assoc, place_add]
  exact Position.le_after _ (Nat.succ_pos k) (by rw [List.length_drop]; omega)

theorem one_le_line_place (hn : n ≤ cs.length) : 1 ≤ (place cs n).line := by
  rcases Nat.eq_zero_or_pos n with rfl | hpos
  · exact le_rfl
  · exact (place_lt hpos hn).1

/-- **Before the end of a text** the places do not depend on what follows. -/
theorem place_before (h : n < cs.length) (rest : List Char) : place (cs ++ rest) n = place cs n :=
  Position.after_append _ _ h

/-- **After the end of a text** with line ends the places are further down. -/
theorem place_append (hcs : cs.getLast? = some '\n') (hrest : rest ≠ []) (n : ℕ) :
    place (cs ++ rest) (cs.length + n) = (place rest n).down (cs.count '\n') := by
  have hend : place (cs ++ rest) cs.length = Position.down ⟨1, 0⟩ (cs.count '\n') :=
    Position.after_length _ hcs hrest
  rw [place_add, hend, List.drop_left, Position.after_down, place]

/-- There are as many lines as line ends. -/
theorem line_place_le (hcs : cs.getLast? = some '\n') (hn : n < cs.length) :
    (place cs n).line ≤ cs.count '\n' := by
  -- The place after the last line end is further on.
  have hend : place (cs ++ [' ']) cs.length = Position.down ⟨1, 0⟩ (cs.count '\n') :=
    Position.after_length _ hcs (List.cons_ne_nil _ _)
  have hlength : cs.length ≤ (cs ++ [' ']).length := by simp
  obtain ⟨hle, hlt⟩ := place_lt hn hlength
  rw [hend, place_before hn] at hle hlt
  refine Nat.lt_succ_iff.1 (lt_of_le_of_ne (hle.trans_eq (Nat.add_comm _ _)) fun heq => ?_)
  exact Nat.not_lt_zero _ (hlt ((Nat.add_comm _ _).trans heq.symm))

namespace Cursor

theorem advance_position (n : ℕ) (s : Cursor) : (s.advance n).position = s.position.after n s.rest := by
  induction n generalizing s with
  | zero => rfl
  | succ n ih =>
    rw [advance]
    split
    · rename_i h
      rw [h, Position.after_nil]
    · rename_i c rest h
      rw [ih, h, Position.after]

/-- A cursor that stands after the first `i` characters of a text. -/
structure At (cs : List Char) (i : ℕ) (s : Cursor) : Prop where
  rest : s.rest = cs.drop i
  position : s.position = place cs i

variable {i : ℕ} {s t : Cursor}

theorem At.advance (h : s.At cs i) (n : ℕ) : (s.advance n).At cs (i + n) where
  rest := by rw [advance_rest, h.rest, List.drop_drop]
  position := by rw [advance_position, h.rest, h.position, place, place, Position.after_add]

/-- The place and what is left of the text are all that counts. -/
theorem At.congr (h : s.At cs i) (hrest : t.rest = s.rest) (hposition : t.position = s.position) :
    t.At cs i := ⟨hrest.trans h.rest, hposition.trans h.position⟩

end Cursor

end SpriteStage.Script
