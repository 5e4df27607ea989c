import SpriteStage.Script.Report
import SpriteStage.Proofs.Script.Place

/-!
# Stretches of a text with its own line ends

The lexer reads a text in which every line ends in the same way, and it counts lines and bytes there.  A
message quotes the text as it was written, with its own line ends.  Here the places of the one are found in
the other: what a stretch covers is the part of the text from its first character up to its last one.

## Main definitions

* `Text.remainder` is what is left of a text after some characters, an end of a line being one character
* `Script.Position.Leaves` says which part of a text is left at a place of it

## Main results

* `Script.leaves_place` finds the places of the lexer in the text
* `Script.Span.segment_append_of_leaves` says what a stretch covers
-/

namespace SpriteStage

namespace Text

/-! ## Line ends as single characters -/

/-- A text without its first character, an end of a line being one character. -/
def afterFirst : List Char → List Char
  | [] => []
  | '\r' :: '\n' :: rest => rest
  | _ :: rest => rest

/-- What is left of a text after some characters, an end of a line being one character. -/
def remainder (n : ℕ) (cs : List Char) : List Char := afterFirst^[n] cs

theorem unifyNewlines_eq_self {cs : List Char} (h : '\r' ∉ cs) : unifyNewlines cs = cs := by
  induction cs with
  | nil => rfl
  | cons c cs ih =>
    obtain ⟨hc, hcs⟩ := not_or.1 (mt List.mem_cons.2 h)
    rw [unifyNewlines]
    · rw [ih hcs]
    · exact fun rest heq => absurd heq.symm hc
    · exact fun heq => absurd heq.symm hc

theorem not_mem_unifyNewlines (cs : List Char) : '\r' ∉ unifyNewlines cs := by
  fun_induction unifyNewlines cs with
  | case1 => exact List.not_mem_nil
  | case2 es ih => exact List.mem_cons.not.2 (not_or.2 ⟨by decide, ih⟩)
  | case3 es hnot ih => exact List.mem_cons.not.2 (not_or.2 ⟨by decide, ih⟩)
  | case4 c es hcrlf hcr ih => exact List.mem_cons.not.2 (not_or.2 ⟨Ne.symm hcr, ih⟩)

/-- A text begins like the text that the lexer reads. -/
theorem unifyNewlines_cons (c : Char) (cs : List Char) :
    unifyNewlines (c :: cs) = (if c = '\r' then '\n' else c) :: unifyNewlines (afterFirst (c :: cs)) := by
  by_cases hc : c = '\r'
  · subst hc
    rcases cs with _ | ⟨d, cs⟩
    · rfl
    by_cases hd : d = '\n'
    · subst hd
      rfl
    · rw [unifyNewlines, afterFirst, if_pos rfl] <;> simp [hd]
  · rw [unifyNewlines, afterFirst, if_neg hc] <;> simp [hc]

theorem unifyNewlines_afterFirst (cs : List Char) :
    unifyNewlines (afterFirst cs) = (unifyNewlines cs).drop 1 := by
  cases cs with
  | nil => rfl
  | cons c cs => rw [unifyNewlines_cons, List.drop_one, List.tail_cons]

/-- What is left reads like what is left of the text that the lexer reads. -/
theorem unifyNewlines_remainder (n : ℕ) (cs : List Char) :
    unifyNewlines (remainder n cs) = (unifyNewlines cs).drop n := by
  induction n generalizing cs with
  | zero => rfl
  | succ n ih =>
    rw [remainder, Function.iterate_succ_apply, ← remainder, ih, unifyNewlines_afterFirst, List.drop_drop,
      Nat.add_comm]

/-! ## Lines -/

variable (line cs : List Char)

/-- The first line goes on with what it begins with. -/
theorem prefix_physicalLinesFrom : line.reverse <+: (physicalLinesFrom line cs).headD [] := by
  fun_induction physicalLinesFrom line cs with
  | case1 line hline =>
    rw [List.isEmpty_iff.1 hline]
    exact List.nil_prefix
  | case2 line hline => exact List.prefix_rfl
  | case3 line rest ih | case4 line rest hnot ih | case5 line rest ih =>
    simp only [List.headD_cons, List.reverse_cons, List.append_assoc]
    exact List.prefix_append _ _
  | case6 line c rest hcrlf hcr hlf ih =>
    rw [List.reverse_cons] at ih
    exact (List.prefix_append _ _).trans ih

/-- The end of a line ends a physical line. -/
theorem exists_physicalLinesFrom_cons {c : Char} (hc : c = '\r' ∨ c = '\n') :
    ∃ first, physicalLinesFrom line (c :: cs) = first :: physicalLinesFrom [] (afterFirst (c :: cs)) := by
  rcases hc with rfl | rfl
  · rcases cs with _ | ⟨d, cs⟩
    · exact ⟨_, rfl⟩
    by_cases hd : d = '\n'
    · subst hd
      exact ⟨_, rfl⟩
    · refine ⟨('\r' :: line).reverse, ?_⟩
      rw [physicalLinesFrom, afterFirst] <;> simp [hd]
  · exact ⟨_, rfl⟩

theorem physicalLinesFrom_cons {c : Char} (hc : c ≠ '\r' ∧ c ≠ '\n') :
    physicalLinesFrom line (c :: cs) = physicalLinesFrom (c :: line) cs := by
  rw [physicalLinesFrom] <;> simp [hc]

end Text

namespace Script

open Text (remainder afterFirst unifyNewlines physicalLinesFrom)

/-! ## Bytes -/

variable (xs ys : List Char)

theorem dropBytes_append : dropBytes (byteCount xs) (xs ++ ys) = ys := by
  induction xs with
  | nil =>
    rw [List.nil_append]
    cases ys <;> rfl
  | cons c xs ih =>
    have hpos := c.utf8Size_pos
    obtain ⟨k, hk⟩ : ∃ k, byteCount (c :: xs) = k + 1 := ⟨c.utf8Size + byteCount xs - 1, by
      rw [byteCount, List.map_cons, List.sum_cons, ← byteCount]
      omega⟩
    rw [hk, List.cons_append, dropBytes, ← hk, byteCount, List.map_cons, List.sum_cons, Nat.add_sub_cancel_left]
    exact ih

theorem takeBytes_append : takeBytes (byteCount xs) (xs ++ ys) = xs := by
  induction xs with
  | nil =>
    rw [List.nil_append]
    cases ys <;> rfl
  | cons c xs ih =>
    have hpos := c.utf8Size_pos
    obtain ⟨k, hk⟩ : ∃ k, byteCount (c :: xs) = k + 1 := ⟨c.utf8Size + byteCount xs - 1, by
      rw [byteCount, List.map_cons, List.sum_cons, ← byteCount]
      omega⟩
    rw [hk, List.cons_append, takeBytes, ← hk, byteCount, List.map_cons, List.sum_cons, Nat.add_sub_cancel_left]
    exact congrArg _ ih

/-! ## Places -/

/-- What is left at a place, of some lines that are counted from `first` on: the beginning of its line has
    the bytes of the place. -/
def Position.Leaves (first : ℕ) (lines : List (List Char)) (p : Position) (rest : List Char) : Prop :=
  first ≤ p.line ∧ ∃ last, (∀ c ∈ last, c ≠ '\r' ∧ c ≠ '\n') ∧ byteCount last = p.offset ∧
    last <+: (lines.drop (p.line - first)).headD [] ∧ (lines.drop (p.line - first)).flatten = last ++ rest

/-- **The places of the lexer** are found in the text, which may begin within a line. -/
theorem leaves_after {n : ℕ} {cs line : List Char} (hn : n ≤ (unifyNewlines cs).length) (first : ℕ)
    (hline : ∀ c ∈ line, c ≠ '\r' ∧ c ≠ '\n') :
    Position.Leaves first (physicalLinesFrom line cs)
      (Position.after ⟨first, byteCount line⟩ n (unifyNewlines cs ++ ['\n'])) (remainder n cs) := by
  induction n generalizing first line cs with
  | zero =>
    refine ⟨le_rfl, line.reverse, fun c hc => hline c (List.mem_reverse.1 hc), ?_, ?_, ?_⟩
    · rw [byteCount, List.map_reverse, List.sum_reverse]
      rfl
    · rw [Position.after, Nat.sub_self]
      exact Text.prefix_physicalLinesFrom line cs
    · rw [Position.after, Nat.sub_self]
      exact Text.flatten_physicalLinesFrom line cs
  | succ n ih =>
    rcases cs with _ | ⟨c, cs⟩
    · cases hn
    have hmore : (!(unifyNewlines (afterFirst (c :: cs)) ++ ['\n']).isEmpty) = true := by simp
    rw [Text.unifyNewlines_cons] at hn ⊢
    rw [List.cons_append, Position.after, hmore, remainder, Function.iterate_succ_apply]
    have hn := Nat.le_of_succ_le_succ hn
    by_cases hc : c = '\r' ∨ c = '\n'
    · obtain ⟨head, hlines⟩ := Text.exists_physicalLinesFrom_cons line cs hc
      have hend : (if c = '\r' then '\n' else c) = '\n' := by rcases hc with rfl | rfl <;> rfl
      have hnext : Position.next ⟨first, byteCount line⟩ '\n' true = ⟨first + 1, byteCount []⟩ := rfl
      rw [hlines, hend, hnext]
      -- The other lines are counted from the next one on.
      have hnil : ∀ c ∈ ([] : List Char), c ≠ '\r' ∧ c ≠ '\n' := by rintro _ ⟨⟩
      obtain ⟨hle, last, hplain, hbytes, hbegin, hflatten⟩ := ih hn (first + 1) hnil
      refine ⟨(Nat.le_succ first).trans hle, last, hplain, hbytes, ?_⟩
      rw [show ∀ l, first + 1 ≤ l → l - first = l - (first + 1) + 1 by omega, List.drop_succ_cons]
      · exact ⟨hbegin, hflatten⟩
      · exact hle
    · rw [not_or] at hc
      have hnext : Position.next ⟨first, byteCount line⟩ c true = ⟨first, byteCount (c :: line)⟩ := by
        rw [Position.next, beq_false_of_ne hc.2, Bool.false_and, if_neg Bool.false_ne_true, byteCount, byteCount,
          List.map_cons, List.sum_cons, Nat.add_comm c.utf8Size]
      have hafter : afterFirst (c :: cs) = cs := by
        rw [afterFirst]
        rintro rest rfl
        exact absurd rfl hc.1
      rw [Text.physicalLinesFrom_cons line cs hc, if_neg hc.1, hnext, hafter]
      rw [hafter] at hn
      exact ih hn first (List.forall_mem_cons.2 ⟨hc, hline⟩)

/-- The lexer reads the text as it is if its last line ends, but not with a carriage return and a line feed;
    else it reads one line end more. -/
theorem readable_eq (text : List Char) :
    readable text = if (unifyNewlines text).getLast? = some '\n' ∧ ¬ ['\r', '\n'] <:+ text
      then unifyNewlines text else unifyNewlines text ++ ['\n'] := by
  have hcrlf : ['\n', '\r'].isPrefixOf text.reverse = true ↔ ['\r', '\n'] <:+ text := by
    rw [List.isPrefixOf_iff_prefix, ← List.reverse_suffix, List.reverse_reverse]
    rfl
  rw [readable]
  rcases hlast : (unifyNewlines text).reverse with _ | ⟨c, cs⟩
  · rw [List.reverse_eq_nil_iff.1 hlast]
    rfl
  · have hend : (unifyNewlines text).getLast? = some c := by rw [List.getLast?_eq_head?_reverse, hlast]; rfl
    rw [hend]
    -- A text without a last line end gets one, whatever else it ends with.
    by_cases hc : c = '\n'
    · subst hc
      by_cases h : ['\r', '\n'] <:+ text
      · rw [hcrlf.2 h]
        exact (if_neg (by simp [h])).symm
      · rw [Bool.eq_false_iff.2 (mt hcrlf.1 h)]
        exact (if_pos ⟨rfl, h⟩).symm
    · refine Eq.trans (if_neg ?_) (if_neg (by simp [hc])).symm
      split
      · rename_i h
        exact absurd (List.cons.inj h).1 hc
      · exact Bool.false_ne_true

/-- A text whose lines all end as they should is readable. -/
theorem readable_eq_self {cs : List Char} (h : '\r' ∉ cs) (hend : ∃ ds, cs = ds ++ ['\n']) :
    readable cs = cs := by
  obtain ⟨ds, rfl⟩ := hend
  rw [readable_eq, Text.unifyNewlines_eq_self h, List.getLast?_concat,
    if_pos ⟨rfl, fun hcrlf => h (hcrlf.subset List.mem_cons_self)⟩]

theorem readable_cases (text : List Char) :
    (readable text = unifyNewlines text ∧ (unifyNewlines text).getLast? = some '\n') ∨
      readable text = unifyNewlines text ++ ['\n'] := by
  rw [readable_eq]
  split
  · rename_i h
    exact .inl ⟨rfl, h.1⟩
  · exact .inr rfl

/-- **Places in what the lexer reads** are places in the text. -/
theorem leaves_place {text : List Char} {n : ℕ} (hn : n < (readable text).length) :
    (place (readable text) n).Leaves 1 (physicalLinesFrom [] text) (remainder n text) := by
  have hplace : place (readable text) n = Position.after ⟨1, byteCount []⟩ n (unifyNewlines text ++ ['\n']) := by
    rcases readable_cases text with ⟨h, -⟩ | h
    · rw [h] at hn ⊢
      exact (place_before hn _).symm
    · rw [h]
      rfl
  have hle : n ≤ (unifyNewlines text).length := by
    rcases readable_cases text with ⟨h, -⟩ | h
    · rw [h] at hn
      exact hn.le
    · rw [h, List.length_append, List.length_singleton] at hn
      omega
  rw [hplace]
  exact leaves_after hle 1 (by rintro _ ⟨⟩)

/-! ## Stretches -/

theorem byteCount_append (xs ys : List Char) : byteCount (xs ++ ys) = byteCount xs + byteCount ys := by
  rw [byteCount, List.map_append, List.sum_append]
  rfl

/-- Of two beginnings the one with fewer bytes is the beginning of the other one. -/
theorem prefix_of_byteCount_le {xs ys zs : List Char} (hxs : xs <+: zs) (hys : ys <+: zs)
    (h : byteCount xs ≤ byteCount ys) : xs <+: ys := by
  rcases List.prefix_or_prefix_of_prefix hxs hys with hbegin | ⟨more, rfl⟩
  · exact hbegin
  · rw [byteCount_append] at h
    cases more with
    | nil => simp
    | cons c more =>
      have hpos := c.utf8Size_pos
      rw [byteCount, byteCount, List.map_cons, List.sum_cons] at h
      omega

/-- **What a stretch covers** is the text from its first place up to its second one. -/
theorem Span.segment_append_of_leaves {text : List Char} {p q : Position} {xs ys : List Char}
    (hp : p.Leaves 1 (physicalLinesFrom [] text) xs) (hq : q.Leaves 1 (physicalLinesFrom [] text) ys)
    (hline : p.line ≤ q.line) (hoffset : q.line = p.line → p.offset ≤ q.offset) :
    Span.segment text ⟨p, q⟩ ++ ys = xs := by
  obtain ⟨hfirst, last, -, hbytes, hbegin, hflatten⟩ := hp
  obtain ⟨-, last', -, hbytes', hbegin', hflatten'⟩ := hq
  rw [segment]
  dsimp only
  rcases hlines : (physicalLinesFrom [] text).drop (p.line - 1) with _ | ⟨line, lines⟩
  · -- Behind the last line nothing is left.
    have hlines' : (physicalLinesFrom [] text).drop (q.line - 1) = [] := by
      rw [List.drop_eq_nil_iff] at hlines ⊢
      omega
    rw [hlines] at hflatten
    rw [hlines'] at hflatten'
    have hxs := (List.append_eq_nil_iff.1 hflatten.symm).2
    have hys := (List.append_eq_nil_iff.1 hflatten'.symm).2
    rw [hxs, hys]
    rfl
  rw [hlines] at hflatten hbegin
  obtain ⟨more, hmore⟩ : last <+: line := hbegin
  dsimp only
  by_cases hsame : q.line = p.line
  · rw [if_pos hsame]
    rw [hsame, hlines] at hflatten' hbegin'
    obtain ⟨more', hmore'⟩ : last' <+: line := hbegin'
    obtain ⟨mid, rfl⟩ : last <+: last' :=
      prefix_of_byteCount_le ⟨more, hmore⟩ ⟨more', hmore'⟩ (by rw [hbytes, hbytes']; exact hoffset hsame)
    rw [← hmore', ← hbytes', takeBytes_append, ← hbytes, dropBytes_append]
    rw [hflatten, List.append_assoc] at hflatten'
    exact (List.append_cancel_left hflatten').symm
  · rw [if_neg hsame]
    have hdrop : (physicalLinesFrom [] text).drop (q.line - 1) = lines.drop (q.line - p.line - 1) := by
      have hsplit : q.line - 1 = (p.line - 1) + (q.line - p.line - 1 + 1) := by omega
      rw [hsplit, ← List.drop_drop, hlines, List.drop_succ_cons]
    rw [hdrop] at hflatten' hbegin'
    obtain ⟨more', hmore'⟩ := hbegin'
    rw [← hmore, ← hmore', ← hbytes, ← hbytes', dropBytes_append, takeBytes_append]
    refine (List.append_right_inj last).1 ?_
    rw [← hflatten, List.flatten_cons, ← hmore]
    conv_rhs => rw [← List.take_append_drop (q.line - p.line - 1) lines, List.flatten_append, hflatten']
    simp only [List.append_assoc]

end Script

end SpriteStage
