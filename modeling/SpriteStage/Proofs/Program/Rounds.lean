import SpriteStage.Proofs.Program.Descent
import SpriteStage.Proofs.Program.Escape
import SpriteStage.Proofs.Program.Normalization
import SpriteStage.Proofs.Run.Unrolling
import Mathlib.Data.Set.Card

/-!
# How often a loop over a range goes round

A loop over a range is compiled to a loop with a number.  That number is how many terms the range has: the
terms start at its first bound, go on in steps, and come strictly before its last bound in the direction of
the steps.  The executor then goes round as often.

## Main definitions

* `ComesBefore` compares two integers in the direction of a step

## Main results

* `lt_rangeLength_iff` says which terms a range has
* `loop_goes_round_its_range` says it of loops, and which bounds are refused
-/

namespace SpriteStage

open Script (Expr Stmt Span)

/-! ## Terms of a range -/

/-- In the direction of a step one integer comes strictly before another one. -/
def ComesBefore (step a b : ℤ) : Prop := if 0 < step then a < b else b < a

variable {start stop step : ℤ}

/-- The places of the terms of a range: the steps that do not lead up to its end. -/
def termsBefore (start stop step : ℤ) : Set ℕ := {n | ComesBefore step (start + n * step) stop}

/-- **The terms of a range are its first ones**, as many as it is long. -/
theorem lt_rangeLength_iff (hstep : step ≠ 0) (n : ℕ) :
    n < rangeLength start stop step ↔ ComesBefore step (start + n * step) stop := by
  -- Going up, a quotient tells how many steps fit in; going down, the signs are turned around.
  have hup {a b d : ℤ} (hd : 0 < d) :
      n < (if a < b then ((b - a - 1) / d + 1).toNat else 0) ↔ a + n * d < b := by
    have hsteps : 0 ≤ n * d := Int.mul_nonneg (Int.natCast_nonneg n) hd.le
    split
    · have hfits : (n : ℤ) ≤ (b - a - 1) / d ↔ n * d ≤ b - a - 1 := Int.le_ediv_iff_mul_le hd
      omega
    · omega
  rw [rangeLength, ComesBefore]
  by_cases hpos : 0 < step
  · rw [if_pos hpos, if_pos hpos]
    exact hup hpos
  · have hneg : 0 < -step := by omega
    have hdown := hup (a := -start) (b := -stop) hneg
    rw [Int.mul_neg, show -stop - -start - 1 = start - stop - 1 by omega] at hdown
    have horder : -start < -stop ↔ stop < start := Int.neg_lt_neg_iff
    simp only [horder] at hdown
    rw [if_neg hpos, if_neg hpos, hdown]
    omega

theorem termsBefore_eq_Iio (hstep : step ≠ 0) :
    termsBefore start stop step = Set.Iio (rangeLength start stop step) := by
  ext n
  exact (lt_rangeLength_iff hstep n).symm

/-- A range has no more than finitely many terms. -/
theorem finite_termsBefore (hstep : step ≠ 0) : (termsBefore start stop step).Finite := by
  rw [termsBefore_eq_Iio hstep]
  exact Set.finite_Iio _

/-- A range is as long as it has terms. -/
theorem rangeLength_eq_ncard (hstep : step ≠ 0) :
    rangeLength start stop step = (termsBefore start stop step).ncard := by
  rw [termsBefore_eq_Iio hstep, ← Finset.coe_Iio, Set.ncard_coe_finset, Nat.card_Iio]

/-! ## Loops over a range -/

/-- **The length of a range** is the number of its terms, unless that is no length.  There is none without
    one to three integers as bounds, and none with a step of zero. -/
theorem rangeOf_eq (span : Span) (vs : List Value) :
    rangeOf span vs =
      match (integers? vs).bind Script.rangeBounds? with
      | none => .error (.refused .rangeBounds span)
      | some (start, stop, step) =>
        if step = 0 then .error (.refused .rangeStep span)
        else if (termsBefore start stop step).ncard < 2 ^ 63 then
          .ok (termsBefore start stop step).ncard
        else .error (.operation .lengthRange) := by
  have hmax : Int64.maxValue.toInt = 2 ^ 63 - 1 := by decide
  have hlength {start stop step : ℤ} (hstep : step ≠ 0) :
      (if (rangeLength start stop step : ℤ) ≤ Int64.maxValue.toInt then
        .ok (rangeLength start stop step) else .error (.operation .lengthRange) : Refusable ℕ) =
      if (termsBefore start stop step).ncard < 2 ^ 63 then .ok (termsBefore start stop step).ncard
      else .error (.operation .lengthRange) := by
    rw [rangeLength_eq_ncard hstep, hmax]
    congr 1
    exact propext (by omega)
  unfold rangeOf
  dsimp only
  split
  case h_1 stop hints =>
    rw [hints]
    exact hlength one_ne_zero
  case h_2 start stop hints =>
    rw [hints]
    exact hlength one_ne_zero
  case h_3 start stop step hints =>
    rw [hints]
    split
    · rename_i hzero
      exact (if_pos hzero).symm
    · rename_i hstep
      exact (hlength hstep).trans (if_neg hstep).symm
  case h_4 hone htwo hthree =>
    rcases hints : integers? vs with _ | ns
    · rfl
    -- What has other than one to three bounds is no range.
    match ns, hints with
    | [], _ => rfl
    | [stop], hints => exact absurd hints (hone stop)
    | [start, stop], hints => exact absurd hints (htwo start stop)
    | [start, stop, step], hints => exact absurd hints (hthree start stop step)
    | _ :: _ :: _ :: _ :: _, _ => rfl

/-- Integers come of a list that is made of them. -/
theorem eq_map_int_of_integers? {vs : List Value} {ns : List ℤ} (h : integers? vs = some ns) :
    vs = ns.map .int := by
  fun_induction integers? vs generalizing ns with
  | case1 =>
    cases h
    rfl
  | case2 n rest ih =>
    obtain ⟨ms, hms, rfl⟩ := Option.map_eq_some_iff.1 h
    rw [List.map_cons, ← ih hms]
  | case3 => cases h

theorem integers?_eq_none {vs : List Value} (h : ∃ v ∈ vs, ∀ n : ℤ, v ≠ .int n) :
    integers? vs = none := by
  rw [Option.eq_none_iff_forall_ne_some]
  rintro ns hns
  obtain ⟨v, hv, hnot⟩ := h
  obtain ⟨n, rfl⟩ := forall_int_of_integers? hns v hv
  exact hnot n rfl

variable {scope : List String} {bounds : List Expr} {vs : List Value} {σ τ : Span}

/-- The rounds of a loop over a range with one to three bounds are the length of the range. -/
theorem rounds_range (hcount : bounds.length ∈ Set.Icc 1 3)
    (hvs : bounds.mapM (constant scope) = .ok vs) :
    rounds scope (.call (.name "range" σ) bounds [] τ) = rangeOf τ vs := by
  have hcount : ¬(bounds.isEmpty || decide (bounds.length > 3)) = true := by
    rw [Bool.or_eq_true, List.isEmpty_iff, decide_eq_true_iff, ← List.length_eq_zero_iff]
    rw [Set.mem_Icc] at hcount
    omega
  rw [rounds, if_neg (by simp), if_neg hcount, hvs]
  rfl

/-- What has rounds is a range with the bounds that give their number. -/
theorem exists_range_of_rounds {range : Expr} {n : ℕ} (h : rounds scope range = .ok n) :
    ∃ σ bounds τ vs, range = .call (.name "range" σ) bounds [] τ ∧
      bounds.mapM (constant scope) = .ok vs ∧ rangeOf τ vs = .ok n := by
  unfold rounds at h
  split at h
  case h_2 => cases h
  case h_1 σ bounds keywords τ =>
    split at h
    · cases h
    rename_i hkeywords
    obtain rfl : keywords = [] := by simpa using hkeywords
    split at h
    · cases h
    obtain ⟨vs, hvs, h⟩ := exists_of_bind_eq_ok h
    exact ⟨σ, bounds, τ, vs, rfl, hvs, h⟩

/-- A range that has a length has integers as bounds, and it is as long as it has terms. -/
theorem exists_terms_of_rangeOf {n : ℕ} (h : rangeOf τ vs = .ok n) :
    ∃ ns start stop step, vs = ns.map .int ∧ Script.rangeBounds? ns = some (start, stop, step) ∧
      step ≠ 0 ∧ (termsBefore start stop step).ncard = n := by
  rw [rangeOf_eq] at h
  split at h
  · cases h
  rename_i start stop step hbounds
  obtain ⟨ns, hints, hbounds⟩ := Option.bind_eq_some_iff.1 hbounds
  split at h
  · cases h
  rename_i hstep
  split at h
  · exact ⟨ns, start, stop, step, eq_map_int_of_integers? hints, hbounds, hstep, Except.ok.inj h⟩
  · cases h

/-- The head of a loop has the rounds of its range. -/
theorem rounds_of_compileHead {target range : Expr} {otherwise : List Stmt} {span : Span} {id : String}
    {n : ℕ} (h : compileHead scope target range otherwise span = .ok (id, n)) :
    rounds scope range = .ok n := by
  unfold compileHead at h
  split at h
  · split at h
    · obtain ⟨m, hm, hpair⟩ := exists_of_map_eq_ok h
      cases hpair
      exact hm
    · cases h
  · cases h

/-- **A loop goes round as often as its range has terms.**  If a loop compiles, in whatever loops it stands,
    then it goes over a range whose bounds are integers, with a step that is not zero; it becomes a loop
    whose number is how many terms come before the last bound, and the executor then does what the body does
    written as often.  A bound that is no integer is refused, and a step of zero is. -/
theorem loop_goes_round_its_range (handle : String) (scope : List String) (ws : List Warning)
    (target range : Expr) (body otherwise : List Stmt) (span : Span) :
    (∀ i ws', (compileStmt handle scope (.loop target range body otherwise span)).run ws = (.ok i, ws') →
      ∃ σ bounds τ ns start stop step n inside,
        range = .call (.name "range" σ) bounds [] τ ∧
        bounds.mapM (constant scope) = .ok (ns.map .int) ∧
        Script.rangeBounds? ns = some (start, stop, step) ∧ step ≠ 0 ∧
        (termsBefore start stop step).Finite ∧ (termsBefore start stop step).ncard = n ∧
        i = some (.loop (.int n) inside) ∧ repeatCount (.int n) = .ok n ∧
        ∀ config s, s.abandoned = false →
          Course.execute config (.loop (.int n) inside) s =
            Course.executeAll config (List.replicate n inside).flatten s) ∧
    ∀ id τ₁ σ bounds vs τ, target = .name id τ₁ → otherwise = [] →
      range = .call (.name "range" σ) bounds [] τ → bounds.length ∈ Set.Icc 1 3 →
      bounds.mapM (constant scope) = .ok vs →
        ((∃ v ∈ vs, ∀ n : ℤ, v ≠ .int n) →
          (compileStmt handle scope (.loop target range body otherwise span)).run ws =
            (.error (.refused .rangeBounds τ), ws)) ∧
        (∀ start stop : ℤ, vs = [.int start, .int stop, .int 0] →
          (compileStmt handle scope (.loop target range body otherwise span)).run ws =
            (.error (.refused .rangeStep τ), ws)) := by
  constructor
  · -- A loop that compiles has rounds, and these come from the bounds of a range.
    intro i ws' h
    obtain ⟨id, n, inside, vs, hhead, -, rfl, -⟩ := exists_of_compileStmt_loop_ok h
    obtain ⟨σ, bounds, τ, vs, hrange, hvs, hlength⟩ :=
      exists_range_of_rounds (rounds_of_compileHead hhead)
    obtain ⟨ns, start, stop, step, rfl, hbounds, hstep, hn⟩ := exists_terms_of_rangeOf hlength
    exact ⟨σ, bounds, τ, ns, start, stop, step, n, inside, hrange, hvs, hbounds, hstep,
      finite_termsBefore hstep, hn, rfl, repeatCount_natCast n, fun config s hs =>
        Course.execute_loop config (repeatCount_natCast n) inside hs⟩
  · -- The head of any other loop over a range is refused before the body is compiled.
    rintro id τ₁ σ bounds vs τ rfl rfl rfl hcount hvs
    have hhead : compileHead scope (.name id τ₁) (.call (.name "range" σ) bounds [] τ) [] span =
        (rangeOf τ vs).map (id, ·) := by
      rw [compileHead, if_pos List.isEmpty_nil, rounds_range hcount hvs]
    rw [run_compileStmt_loop, hhead]
    constructor
    · intro hnot
      rw [rangeOf_eq, integers?_eq_none hnot]
      rfl
    · rintro start stop rfl
      rfl

/-- Three rounds downwards, the fourth of which would be at the last bound, and two loops that are refused:
    one over a range with a truth value, and one with a step of zero. -/
theorem loop_goes_round_downwards :
    let σ : Span := ⟨⟨1, 0⟩, ⟨1, 1⟩⟩
    let int (n : ℕ) : Expr := .literal (.value (.int n)) σ
    let compiled (bounds : List Expr) := (compileStmt "runtime" ["b"]
      (.loop (.name "a" σ) (.call (.name "range" σ) bounds [] σ) [.pass σ] [] σ)).run []
    compiled [int 7, .binary (.arithmetic .sub) (int 1) (int 6) σ, .sign (.arithmetic .minus) (int 4) σ] =
        (.ok (some (.loop (.int 3) [])), []) ∧
      (termsBefore 7 (-5) (-4)).ncard = 3 ∧
      compiled [.literal (.value (.bool true)) σ] = (.error (.refused .rangeBounds σ), []) ∧
      compiled [int 1, int 5, int 0] = (.error (.refused .rangeStep σ), []) := by
  intro σ int compiled
  have hloops (bounds : List Expr) := loop_goes_round_its_range "runtime" ["b"] [] (.name "a" σ)
    (.call (.name "range" σ) bounds [] σ) [.pass σ] [] σ
  have hcompiled : compiled [int 7, .binary (.arithmetic .sub) (int 1) (int 6) σ,
      .sign (.arithmetic .minus) (int 4) σ] = (.ok (some (.loop (.int 3) [])), []) := rfl
  refine ⟨hcompiled, ?_, ?_, ?_⟩
  · obtain ⟨_, bounds, _, ns, start, stop, step, n, inside, hrange, hns, hbounds, -, -, hn, hi, -⟩ :=
      (hloops _).1 _ _ hcompiled
    cases hrange
    -- The bounds are constants, one of them a difference and one with a sign.
    obtain rfl : ns = [7, -5, -4] := by
      have hvalues : [Value.int 7, .int (-5), .int (-4)] = ns.map .int := Except.ok.inj hns
      exact (List.map_injective_iff.2 fun _ _ => Value.int.inj) hvalues.symm
    cases hbounds
    cases hi
    exact hn
  · refine ((hloops _).2 "a" σ σ _ [.bool true] σ rfl rfl rfl (by simp) rfl).1 ?_
    exact ⟨.bool true, List.mem_cons_self, nofun⟩
  · exact ((hloops _).2 "a" σ σ _ [.int 1, .int 5, .int 0] σ rfl rfl rfl (by simp) rfl).2 1 5 rfl

end SpriteStage
