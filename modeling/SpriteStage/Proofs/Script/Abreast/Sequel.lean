import SpriteStage.Proofs.Script.Abreast.Whole
import SpriteStage.Proofs.Script.Statement

/-!
# Scripts one after the other

A script is read statement by statement until its end marker comes.  If other tokens come there instead, and a
new statement begins with them, the same statements are read before they are.

## Main definitions

* `Script.Parser.Repeats` says that part after part is read
* `Script.Pairing.Carries` says that what is read from one sequence of tokens is read from the other one

## Main results

* `Script.ofTokens_append` reads the tokens of two scripts one after the other
-/

namespace SpriteStage.Script

namespace Parser

variable {α β : Type} {p : Parser α} {q : Parser β} {f : α → Parser β} {as bs : List α} {s t u : Outlook}

/-! ## What was read before -/

theorem exists_of_bind_ok {b : β} (h : (p >>= f) s = .ok b u) : ∃ a t, p s = .ok a t ∧ f a t = .ok b u := by
  rw [bind_apply] at h
  split at h
  · exact ⟨_, _, ‹_›, h⟩
  · cases h
  · cases h

theorem map_apply (g : α → β) (p : Parser α) (s : Outlook) :
    (g <$> p) s = match p s with
      | .ok a t => .ok (g a) t
      | .stuck seen => .stuck seen
      | .objection o seen => .objection o seen := bind_apply p (fun a => pure (g a)) s

theorem exists_of_map_ok {g : α → β} {b : β} (h : (g <$> p) s = .ok b t) : ∃ a, p s = .ok a t ∧ g a = b := by
  obtain ⟨a, t', ha, hb⟩ := exists_of_bind_ok h
  cases hb
  exact ⟨a, ha, rfl⟩

/-- A part that may be left out is there, or it is not tried further. -/
theorem optional_cases {o : Option α} (h : optional p s = .ok o t) :
    (∃ a, o = some a ∧ p s = .ok a t) ∨ o = none ∧ ∃ seen, t = { s with seen := seen } := by
  rw [optional, orElse_apply] at h
  split at h
  · cases h
    exact .inr ⟨rfl, _, rfl⟩
  · obtain ⟨a, ha, rfl⟩ := exists_of_map_ok h
    exact .inl ⟨a, rfl, ha⟩

theorem exists_of_kind_ok {k : TokenKind} {a : Unit} (h : kind k s = .ok a t) :
    ∃ e rest, s.rest = e :: rest ∧ e.kind = k := by
  obtain ⟨e, t, he, -⟩ := exists_of_bind_ok h
  obtain ⟨e', t', hpeek, he⟩ := exists_of_bind_ok he
  rw [peek] at hpeek
  split at hpeek
  · cases hpeek
  rename_i e'' rest hrest
  dsimp only at hpeek
  split at hpeek
  · cases hpeek
  cases hpeek
  split at he
  · rename_i hkind
    exact ⟨_, rest, hrest, beq_iff_eq.1 hkind⟩
  · cases he

/-- What was found before is kept. -/
theorem suffix_of_growFrom {fuel : ℕ} {found all : List α}
    (h : growFrom (fun found => (· :: found) <$> p) fuel found s = .ok all t) : found <:+ all := by
  induction fuel generalizing found s with
  | zero =>
    cases h
    exact List.suffix_rfl
  | succ fuel ih =>
    rw [growFrom_succ_apply] at h
    split at h
    · obtain ⟨a, -, rfl⟩ := exists_of_map_ok ‹_›
      exact (List.suffix_cons a found).trans (ih h)
    · cases h
      exact List.suffix_rfl
    · cases h

/-! ## Part after part -/

/-- Part after part is read, each of which goes over a token. -/
inductive Repeats (p : Parser α) : List α → Outlook → Outlook → Prop
  | nil (s : Outlook) : Repeats p [] s s
  | cons {a : α} {as : List α} {s t u : Outlook} (part : p s = .ok a t) (lt : t.rest.length < s.rest.length)
    (more : Repeats p as t u) : Repeats p (a :: as) s u

namespace Repeats

theorem append (h : Repeats p as s t) (h' : Repeats p bs t u) : Repeats p (as ++ bs) s u := by
  induction h with
  | nil s => exact h'
  | cons part lt more ih => exact .cons part lt (ih h')

theorem length_le (h : Repeats p as s t) : as.length ≤ s.rest.length := by
  induction h with
  | nil s => exact Nat.zero_le _
  | cons part lt more ih =>
    rw [List.length_cons]
    omega

/-- Parts that are read up to where there is none are all that are found. -/
theorem growFrom {n : ℕ} (h : Repeats p as s t) (hstop : p t = .stuck n) {fuel : ℕ} (hfuel : as.length ≤ fuel)
    (found : List α) :
    ∃ seen, growFrom (fun found => (· :: found) <$> p) fuel found s =
      .ok (as.reverse ++ found) { t with seen := seen } := by
  induction h generalizing fuel found with
  | nil s =>
    cases fuel with
    | zero => exact ⟨s.seen, rfl⟩
    | succ fuel =>
      refine ⟨n, ?_⟩
      rw [growFrom_succ_apply, map_apply, hstop]
      rfl
  | @cons a as s t u part lt more ih =>
    obtain ⟨fuel, rfl⟩ : ∃ m, fuel = m + 1 := ⟨fuel - 1, by rw [List.length_cons] at hfuel; omega⟩
    obtain ⟨seen, hgrow⟩ := ih hstop (Nat.le_of_succ_le_succ hfuel) (a :: found)
    refine ⟨seen, ?_⟩
    rw [growFrom_succ_apply, map_apply, part, List.reverse_cons, List.append_assoc]
    exact hgrow

/-- One part or more are read up to where there is none. -/
theorem some' {n : ℕ} {a : α} (h : Repeats p (a :: as) s t) (hstop : p t = .stuck n) :
    ∃ seen, Parser.some' p s = .ok (a :: as) { t with seen := seen } := by
  cases h with
  | cons part lt more =>
    obtain ⟨seen, hgrow⟩ := more.growFrom hstop more.length_le []
    refine ⟨seen, ?_⟩
    rw [Parser.some', bind_apply, part]
    dsimp only
    rw [bind_apply, many, map_apply, grow, hgrow, List.append_nil]
    dsimp only
    rw [List.reverse_reverse]
    rfl

end Repeats

end Parser

namespace Pairing

variable {α β : Type} {g : Pairing} {J : ℕ → Prop} {p : Parser α} {q : Parser β} {Q : α → Prop}
  {R : α → β → Prop} {n : ℕ} {s s' t : Outlook}

variable (g) in
/-- What is read from the left tokens at certain places, and has a certain property, is read from the right ones
    as well, and then certain places are come to again. -/
def Carries (J : ℕ → Prop) (p : Parser α) (q : Parser β) (Q : α → Prop) (R : α → β → Prop) : Prop :=
  ∀ n s s' a t, g.Meets n s s' → J n → p s = .ok a t → Q a →
    ∃ m b t', q s' = .ok b t' ∧ n < m ∧ J m ∧ g.Meets m t t' ∧ R a b

theorem Meets.length_right (h : g.Meets n s s') :
    s'.rest.length + n = g.pairs.length + g.right.length := by
  have hle := h.le
  rw [h.right, List.length_append, List.length_map, List.length_drop]
  omega

/-- A single part goes over a token. -/
theorem Carries.exists_part {a : α} (h : g.Carries J p q Q R) (hs : g.Meets n s s') (hn : J n)
    (hp : p s = .ok a t) (ha : Q a) :
    ∃ m b t', q s' = .ok b t' ∧ t'.rest.length < s'.rest.length ∧ J m ∧ g.Meets m t t' ∧ R a b := by
  obtain ⟨m, b, t', hq, hlt, hm, ht, hab⟩ := h n s s' a t hs hn hp ha
  refine ⟨m, b, t', hq, ?_, hm, ht, hab⟩
  have := hs.length_right
  have := ht.length_right
  omega

/-- Part after part that is read from the left tokens is read from the right ones. -/
theorem Carries.repeats {fuel : ℕ} {found all : List α} (h : g.Carries J p q Q R)
    (hgrow : Parser.growFrom (fun found => (· :: found) <$> p) fuel found s = .ok all t) (hs : g.Meets n s s')
    (hn : J n) (hQ : ∀ a ∈ all, Q a) :
    ∃ as bs m t', all = as.reverse ++ found ∧ q.Repeats bs s' t' ∧ J m ∧ g.Meets m t t' ∧
      List.Forall₂ R as bs := by
  induction fuel generalizing n s s' found with
  | zero =>
    cases hgrow
    exact ⟨[], [], n, s', rfl, .nil s', hn, hs, .nil⟩
  | succ fuel ih =>
    rw [Parser.growFrom_succ_apply, Parser.map_apply] at hgrow
    cases hp : p s with
    | ok a u =>
      rw [hp] at hgrow
      dsimp only at hgrow
      have ha : Q a := hQ a ((Parser.suffix_of_growFrom hgrow).mem List.mem_cons_self)
      obtain ⟨m, b, u', hq, hlt, hm, hu, hab⟩ := h.exists_part hs hn hp ha
      obtain ⟨as, bs, k, t', rfl, hrepeats, hk, ht, hmore⟩ := ih hgrow hu hm
      exact ⟨a :: as, b :: bs, k, t', by simp, .cons hq hlt hrepeats, hk, ht, .cons hab hmore⟩
    | stuck seen =>
      rw [hp] at hgrow
      cases hgrow
      exact ⟨[], [], n, s', rfl, .nil s', hn, hs.seen _ _, .nil⟩
    | objection o seen =>
      rw [hp] at hgrow
      cases hgrow

end Pairing

/-! ## Statements -/

namespace Grammar

open SpriteStage.Script.Parser

variable {r r' : Rules} {block block' : Parser (List Stmt)} {g : Pairing} {J : ℕ → Prop} {s s' t : Outlook}
  {n : ℕ} {ss : List Stmt}

theorem exists_of_formed {p : Parser StmtForm} {x : Stmt} (h : formed p s = .ok x t) :
    ∃ form σ, x = .other form σ := by
  obtain ⟨start, s₁, -, h⟩ := exists_of_bind_ok h
  obtain ⟨f, s₂, hf, h⟩ := exists_of_bind_ok h
  obtain ⟨form, s₃, -, hform⟩ := exists_of_bind_ok hf
  obtain ⟨σ, s₄, -, h⟩ := exists_of_bind_ok h
  cases hform
  cases h
  exact ⟨form, σ, rfl⟩

/-- What has decorators is of a form that no program may use. -/
theorem exists_of_decorated {x : Stmt} (h : decorated r block s = .ok x t) : ∃ form σ, x = .other form σ := by
  obtain ⟨-, s₁, -, h⟩ := exists_of_bind_ok h
  obtain ⟨e, s₂, -, h⟩ := exists_of_bind_ok h
  split at h
  · exact exists_of_formed h
  split at h
  · exact exists_of_formed h
  · exact exists_of_formed h

theorem exists_of_statement_at {e : Token} {rest : List Token} (hs : s.rest = e :: rest)
    (he : e.isOperator "@" = true) (h : statement r block s = .ok ss t) : ∃ form σ, .other form σ ∈ ss := by
  obtain ⟨e', s₁, hpeek, h⟩ := exists_of_bind_ok h
  obtain rfl : e' = e := by
    rw [peek, hs] at hpeek
    dsimp only at hpeek
    split at hpeek <;> cases hpeek
    rfl
  have hword (w : String) : e'.isKeyword w = false := by
    rw [Token.isOperator, Bool.and_eq_true, beq_iff_eq] at he
    rw [Token.isKeyword, he.1]
    rfl
  rw [if_neg (by simp [hword]), if_pos he] at h
  obtain ⟨x, hx, rfl⟩ := exists_of_map_ok h
  obtain ⟨form, σ, rfl⟩ := exists_of_decorated hx
  exact ⟨form, σ, List.mem_singleton_self _⟩

/-- The end marker is before a parser. -/
theorem faces_finish {e : Token} (hs : s.rest = [e]) (he : e.kind = .finish) (hplain : s.diagnosing = false) :
    s.Faces [(.finish, e.chars)] := by
  refine ⟨hplain, by rw [hs, ← he]; rfl, fun t ht reason hkind => ?_⟩
  rw [hs] at ht
  rw [List.mem_singleton.1 ht, he] at hkind
  cases hkind

/-- No statement begins where the end marker comes. -/
theorem not_statement_of_finish {e : Token} (hs : s.rest = [e]) (he : e.kind = .finish)
    (hplain : s.diagnosing = false) : ∃ seen, statement r block s = .stuck seen :=
  have hfails : Parser.Fails (statement r block) [(.finish, e.chars)] := fails_statement (.inl (by simp))
  hfails s (faces_finish hs he hplain)

/-- **Statements outside blocks** are read abreast as long as the pairs go on, if none of them is of a form that
    no program may use. -/
theorem carries_statement (hr : g.SameRules 0 r r') (hblocks : Blocks g 0 block block') {e : Token}
    (hleft : g.left = [e]) (he : e.kind = .finish) :
    g.Carries (fun n => g.nesting n = 0) (statement r block) (statement r' block')
      (fun ss => ∀ x ∈ ss, ∀ form σ, x ≠ .other form σ) (List.Forall₂ (Stmt.Alike g.Spans)) := by
  intro n s s' ss t hs hn hstatement hnot
  rcases hs.le.lt_or_eq with hlt | rfl
  · -- A decorated definition is no plain statement, so the line does not begin with its sign.
    have hat : ∀ p, g.pairs[n]? = some p → p.1.isOperator "@" = false := by
      intro p hp
      by_contra hoperator
      obtain ⟨form, σ, hother⟩ :=
        exists_of_statement_at (hs.exists_rest hp).1 (by simpa using hoperator) hstatement
      exact hnot _ hother form σ rfl
    have hagree := abreast_statement hr hblocks (Nat.zero_le n) (.inr hat) hlt (.inr hn.ge) s s' hs
    rw [hstatement] at hagree
    generalize statement r' block' s' = reply at hagree ⊢
    cases hagree with
    | ok hmatch =>
      obtain ⟨m, hm, hpasses, halike⟩ := hmatch
      exact ⟨m, _, _, rfl, hpasses.le, hpasses.nesting.trans hn, hm, halike⟩
  · obtain ⟨seen, hstuck⟩ : ∃ seen, statement r block s = .stuck seen :=
      not_statement_of_finish (hs.rest_of_end.1.trans hleft) he hs.plain.1
    rw [hstuck] at hstatement
    cases hstatement

/-- Statements are read abreast where both sequences end with the pairs. -/
theorem carries_statement_of_open (hr : g.SameRules 0 r r') (hblocks : Blocks g 0 block block')
    (hopen : g.IsOpen) (Q : List Stmt → Prop) :
    g.Carries (fun _ => True) (statement r block) (statement r' block') Q
      (List.Forall₂ (Stmt.Alike g.Spans)) := by
  intro n s s' ss t hs _ hstatement _
  have hagree : g.Agree n (statement r block) (statement r' block') fun m ss ts =>
      n < m ∧ List.Forall₂ (Stmt.Alike g.Spans) ss ts := by
    rcases hs.le.lt_or_eq with hlt | rfl
    · exact (abreast_statement hr hblocks (Nat.zero_le n) (.inl (.inl hopen)) hlt (.inl hopen)).imp
        fun _ _ _ hV => ⟨hV.1.le, hV.2⟩
    · exact .peek_of_open hopen
  have hreply := hagree s s' hs
  rw [hstatement] at hreply
  generalize statement r' block' s' = reply at hreply ⊢
  cases hreply with
  | ok hmatch =>
    obtain ⟨m, hm, hlt, halike⟩ := hmatch
    exact ⟨m, _, _, rfl, hlt, trivial, hm, halike⟩

/-- The statements of a script are read from the right tokens as well, up to where the end marker comes on the
    left. -/
theorem exists_of_script {P : Stmt → Prop} {R : Stmt → Stmt → Prop} {fuel : ℕ}
    (h : g.Carries J (statement r (Grammar.block r fuel)) (statement r' block') (fun ss => ∀ x ∈ ss, P x)
      (List.Forall₂ R))
    (hscript : script r fuel s = .ok ss t) (hs : g.Meets n s s') (hn : J n) (hP : ∀ x ∈ ss, P x) :
    ∃ u bs m u' e rest, u.rest = e :: rest ∧ e.kind = .finish ∧ (statement r' block').Repeats bs s' u' ∧
      g.Meets m u u' ∧ J m ∧ List.Forall₂ R ss bs.flatten := by
  obtain ⟨o, u, ho, hscript⟩ := exists_of_bind_ok hscript
  obtain ⟨⟨⟩, u₁, hfinish, hss⟩ := exists_of_bind_ok hscript
  obtain ⟨e, rest, hrest, hkind⟩ := exists_of_kind_ok hfinish
  cases hss
  rcases optional_cases ho with ⟨found, rfl, hfound⟩ | ⟨rfl, seen, rfl⟩
  · -- The script has statements: the first one, and those that the repetition reads.
    obtain ⟨parts, hparts, rfl⟩ := exists_of_map_ok hfound
    obtain ⟨first, u₂, hfirst, hparts⟩ := exists_of_bind_ok hparts
    obtain ⟨more, u₃, hmore, hparts⟩ := exists_of_bind_ok hparts
    cases hparts
    obtain ⟨all, hall, rfl⟩ := exists_of_map_ok hmore
    rw [Option.getD_some, List.flatten_cons] at hP
    rw [List.forall_mem_append] at hP
    obtain ⟨m, b, u₂', hb, hlt, hm, hu₂, hfirst⟩ := h.exists_part hs hn hfirst hP.1
    obtain ⟨as, bs, k, u', rfl, hrepeats, hk, hu, hmore⟩ := h.repeats hall hu₂ hm fun part hpart x hx =>
      hP.2 x (List.mem_flatten.2 ⟨part, List.mem_reverse.2 hpart, hx⟩)
    refine ⟨u, b :: bs, k, u', e, rest, hrest, hkind, .cons hb hlt hrepeats, hu, hk, ?_⟩
    rw [List.append_nil, List.reverse_reverse, Option.getD_some, List.flatten_cons, List.flatten_cons]
    exact List.rel_append hfirst (List.rel_flatten hmore)
  · exact ⟨_, [], n, s', e, rest, hrest, hkind, .nil s', hs.seen _ _, hn, .nil⟩

/-- Statements up to the end marker are a script. -/
theorem script_of_repeats {fuel : ℕ} {bs : List (List Stmt)} {e : Token}
    (h : (statement r (Grammar.block r fuel)).Repeats bs s t) (ht : t.rest = [e]) (he : e.kind = .finish)
    (hplain : t.diagnosing = false) : ∃ u, script r fuel s = .ok bs.flatten u := by
  obtain ⟨n, hstop⟩ : ∃ n, statement r (Grammar.block r fuel) t = .stuck n := not_statement_of_finish ht he hplain
  -- The end marker is read after what was found.
  have hfinish (found : Option (List Stmt)) (seen : ℕ) :
      ∃ u, (do kind .finish; return found.getD []) { t with seen := seen } = .ok (found.getD []) u := by
    have hreads : Parser.Reads (kind .finish) [(.finish, e.chars)] [] fun _ => True := Reads.kind
    obtain ⟨⟨⟩, u, hkind, -⟩ := hreads { t with seen := seen } (faces_finish ht he hplain)
    refine ⟨u, ?_⟩
    rw [bind_apply]
    rw [hkind]
    rfl
  cases bs with
  | nil =>
    cases h
    obtain ⟨u, hu⟩ := hfinish none n
    refine ⟨u, ?_⟩
    rw [script, bind_apply, Parser.optional, orElse_apply, map_apply, statements, map_apply, Parser.some',
      bind_apply, hstop]
    exact hu
  | cons part bs =>
    obtain ⟨seen, hparts⟩ := h.some' hstop
    obtain ⟨u, hu⟩ := hfinish (some (part :: bs).flatten) seen
    refine ⟨u, ?_⟩
    rw [script, bind_apply, Parser.optional, orElse_apply, map_apply, statements, map_apply, hparts]
    exact hu

end Grammar

/-! ## Scripts -/

namespace Pairing

variable {g h : Pairing} {e : Token} {ss ts : List Stmt}

/-- Where the end marker comes on the left it comes on the right, and nothing follows. -/
theorem Meets.exists_last {n : ℕ} {s s' : Outlook} {rest : List Token} (hs : h.Meets n s s') (hopen : h.IsOpen)
    (hh : EndsOnce (h.pairs.map Prod.fst)) (hrest : s.rest = e :: rest) (he : e.kind = .finish) :
    ∃ e', s'.rest = [e'] ∧ e'.kind = .finish := by
  obtain ⟨us, t, hus, -, hplain⟩ := hh
  have hleft := hs.left
  rw [hopen.1, List.append_nil, List.map_drop, hus, hrest] at hleft
  -- The end marker is the last token of its text, so all others have been read.
  have hge : us.length ≤ n := by
    refine Nat.le_of_not_lt fun hlt => ?_
    rw [List.drop_append_of_le_length hlt.le, List.drop_eq_getElem_cons hlt] at hleft
    exact (hplain _ (List.getElem_mem hlt)).1 ((List.cons.inj hleft).1 ▸ he)
  have hlength := congrArg List.length hus
  have hdrop := congrArg List.length hleft
  rw [List.length_map, List.length_append, List.length_singleton] at hlength
  rw [List.length_cons, List.length_drop, List.length_append, List.length_singleton] at hdrop
  obtain ⟨p, hp⟩ : ∃ p, h.pairs.drop n = [p] := by
    rw [← List.length_eq_one_iff, List.length_drop]
    omega
  have hright := hs.right
  have hleft' := hs.left
  rw [hp, hopen.2] at hright
  rw [hp, hopen.1, hrest] at hleft'
  refine ⟨p.2, hright, ?_⟩
  have halike := h.alike p (List.mem_of_mem_drop (hp ▸ List.mem_singleton_self p))
  rw [← (Prod.mk.inj halike).1, ← (List.cons.inj hleft').1, he]

/-- **Scripts one after the other** are read one after the other: the left tokens of `g` are a script up to the
    end marker `e`, for which the right tokens of `h` come on the right. -/
theorem ofTokens_append (he : e.kind = .finish) (hleft : g.left = [e]) (hright : g.right = h.pairs.map Prod.snd)
    (hlevel : g.nesting 0 = 0) (hg : ∀ p ∈ g.pairs, p.1.IsPlain) (hopen : h.IsOpen)
    (hh : EndsOnce (h.pairs.map Prod.fst)) (hss : ofTokens (g.pairs.map Prod.fst ++ [e]) = .ok ss)
    (hts : ofTokens (h.pairs.map Prod.fst) = .ok ts) (hnot : ∀ x ∈ ss, ∀ form σ, x ≠ .other form σ) :
    ∃ us vs, ofTokens (g.pairs.map Prod.snd ++ h.pairs.map Prod.snd) = .ok (us ++ vs) ∧
      List.Forall₂ (Stmt.Alike g.Spans) ss us ∧ List.Forall₂ (Stmt.Alike h.Spans) ts vs := by
  obtain ⟨s₁, hscript⟩ := Script.exists_of_ofTokens hss
  obtain ⟨s₂, hscript'⟩ := Script.exists_of_ofTokens hts
  generalize hfuel : (g.pairs.map Prod.fst ++ [e]).length + 1 = i at hscript
  generalize hfuel' : (h.pairs.map Prod.fst).length + 1 = j at hscript'
  generalize hfuel'' : (g.pairs.map Prod.snd ++ h.pairs.map Prod.snd).length + 1 = k
  simp only [List.length_append, List.length_map, List.length_singleton] at hfuel hfuel' hfuel''
  -- The statements before the end marker.
  have hr : g.SameRules 0 (Grammar.rules i) (Grammar.rules k) := Grammar.sameRules (by omega) (by omega)
  have hblocks := Grammar.abreast_block hr (i := i) (j := k) (by omega) (by omega)
  have hmeets : g.Meets 0 { rest := g.pairs.map Prod.fst ++ [e] }
      { rest := g.pairs.map Prod.snd ++ h.pairs.map Prod.snd } :=
    ⟨Nat.zero_le _, by rw [hleft]; rfl, by rw [hright]; rfl, by rintro k ⟨⟩, rfl, rfl⟩
  obtain ⟨u, bs, m, u', e₁, rest, hrest, hkind, hrepeats, hu, -, hus⟩ :=
    Grammar.exists_of_script (Grammar.carries_statement hr hblocks hleft he) hscript hmeets hlevel hnot
  -- They go up to the end of the pairs, since none of these is an end.
  obtain rfl : m = g.pairs.length := by
    refine hu.le.antisymm (Nat.le_of_not_lt fun hlt => ?_)
    have hp := hu.exists_rest (List.getElem?_eq_getElem hlt)
    obtain rfl := (List.cons.inj (hp.1.symm.trans hrest)).1
    exact (hg _ (List.getElem_mem hlt)).1 hkind
  -- The statements after it.
  have hr' : h.SameRules 0 (Grammar.rules j) (Grammar.rules k) := Grammar.sameRules (by omega) (by omega)
  have hblocks' := Grammar.abreast_block hr' (i := j) (j := k) (by omega) (by omega)
  have hmeets' : h.Meets 0 { rest := h.pairs.map Prod.fst } u' :=
    ⟨Nat.zero_le _, by rw [hopen.1]; simp, by rw [hu.rest_of_end.2, hright, hopen.2]; simp, by rintro k ⟨⟩, rfl,
      hu.plain.2⟩
  obtain ⟨w, cs, m', w', e₂, rest', hrest', hkind', hrepeats', hw, -, hvs⟩ :=
    Grammar.exists_of_script (P := fun _ => True) (Grammar.carries_statement_of_open hr' hblocks' hopen _) hscript'
      hmeets' trivial fun _ _ => trivial
  obtain ⟨e', hlast, hkind'⟩ := hw.exists_last hopen hh hrest' hkind'
  obtain ⟨t, ht⟩ := Grammar.script_of_repeats (hrepeats.append hrepeats') hlast hkind' hw.plain.2
  refine ⟨bs.flatten, cs.flatten, ?_, hus, hvs⟩
  rw [ofTokens]
  simp only [List.length_append, List.length_map]
  rw [hfuel'', ht, List.flatten_append]

end Pairing

end SpriteStage.Script
