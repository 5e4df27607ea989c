import SpriteStage.Proofs.Stage.Chronicle
import SpriteStage.Proofs.Number.Whole

/-!
# Turns by integers

Directions that are integers stay integers: the sum of a direction within one turn and an integer of at most
53 bits is exact, and so is its remainder.  What is left of many turns is what is left of their sum.

## Main definitions

* `Stage.turned` is how far a call turns the sprite

## Main results

* `Stage.normalize_of_integer` is the exactness of one turn
* `Stage.heading_after` is the direction after any calls
-/

namespace SpriteStage

open Float.Model (UnpackedFloat)

namespace Stage

variable {config : StageConfig} {s : Stage}

/-- Whether a call is no turn or one by an integer that is not too large. -/
def TurnsByInteger (call : Operation × Value) : Prop :=
  call.1 = .turn → ∃ k, call.2.number? = some (.int k) ∧ k.natAbs ≤ 2 ^ 52

/-- By how many degrees a call turns the sprite, as far as they are an integer. -/
def turned : Operation × Value → ℤ
  | (.turn, degrees) =>
    match degrees.number? with
    | some (.int k) => k
    | _ => 0
  | _ => 0

/-- An integer counts as a double when the sprite is turned by it. -/
theorem plus_widen {degrees : Value} {k : ℤ} (h : degrees.number? = some (.int k)) (x : Float) :
    plus x degrees.widen = .ok (x + Double.saturating k) := by
  cases degrees with
  | int n =>
    cases h
    rfl
  | bool b =>
    cases h
    cases b <;> rfl
  | float y => cases h
  | null | text _ | list _ | object _ => cases h

/-- **A direction that is an integer is brought within one turn exactly.** -/
theorem normalize_of_integer {d : Float} {n : ℤ} (hd : StandsFor d.toModel.unpack n) :
    normalize d = Double.saturating (n % 360) := by
  have hturn : (360 : Float) = Double.saturating 360 := rfl
  have hzero : (0 : Float) = Double.saturating 0 := rfl
  have hfull := Double.standsFor_saturating (n := 360) (by decide)
  have hrest := Double.standsFor_saturating (n := n % 360) (by omega)
  have hlow : ¬ Double.saturating (n % 360) < 0 := by
    rw [hzero, hrest.lt_iff (Double.standsFor_saturating (by decide))]
    exact_mod_cast (by omega : ¬ n % 360 < 0)
  have hhigh : ¬ Double.saturating (n % 360) ≥ 360 := by
    rw [ge_iff_le, hturn, hfull.le_iff hrest]
    exact_mod_cast (by omega : ¬ 360 ≤ n % 360)
  have hmod : Double.flooredMod d 360 = Double.saturating (n % 360) := by
    rw [hturn]
    exact Double.flooredMod_of_integers (c := 360) hd hfull (by decide) (by decide)
  rw [normalize]
  simp only [hmod, if_neg hlow, if_neg hhigh]

/-- A call turns a sprite from an integer to an integer. -/
theorem heading_perform {r : ℤ} (hr : 0 ≤ r ∧ r < 360) (hs : s.sprite.direction = Double.saturating r)
    {call : Operation × Value} (hcall : TurnsByInteger call) :
    (s.perform config call.1 call.2).2.sprite.direction = Double.saturating ((r + turned call) % 360) := by
  obtain ⟨op, argument⟩ := call
  rw [sprite_perform]
  by_cases hturn : op = .turn
  · subst hturn
    obtain ⟨k, hk, hsize⟩ := hcall rfl
    have hturned : turned (.turn, argument) = k := by
      rw [turned, hk]
    have hsum := Double.standsFor_add_integers (Double.standsFor_saturating (n := r) (by omega))
      (Double.standsFor_saturating (n := k) (by omega)) (by omega)
    rw [change, plus_widen hk, hs, hturned]
    exact normalize_of_integer hsum
  · have hnone : turned (op, argument) = 0 := by
      cases op with
      | turn => exact absurd rfl hturn
      | move | say | wait => rfl
    rw [hnone, add_zero, Int.emod_eq_of_lt hr.1 hr.2, ← hs]
    cases hchange : change config op argument s with
    | error e => rfl
    | ok t => exact (follows_change hchange "").direction hturn

theorem heading_of {calls : List (Operation × Value)} (hcalls : ∀ call ∈ calls, TurnsByInteger call) {r : ℤ}
    (hr : 0 ≤ r ∧ r < 360) (hs : s.sprite.direction = Double.saturating r) :
    (after config calls s).sprite.direction = Double.saturating ((r + (calls.map turned).sum) % 360) := by
  induction calls generalizing s r with
  | nil =>
    rw [List.map_nil, List.sum_nil, add_zero, Int.emod_eq_of_lt hr.1 hr.2]
    exact hs
  | cons call calls ih =>
    have hcall : (s.perform config call.1 call.2).2.sprite.direction = _ :=
      heading_perform hr hs (hcalls call (by simp))
    have hrest := ih (fun c hc => hcalls c (List.mem_cons_of_mem _ hc)) (by omega) hcall
    rw [List.map_cons, List.sum_cons, ← add_assoc, ← Int.emod_add_emod]
    exact hrest

/-- **Turns by integers never drift.**  Make any calls on a fresh stage, of which the turns are by integers
    of at most `2 ^ 52`.  The direction is then the integer that is left of the initial one and the sum of all
    turns, and it is equal after any other such calls with the same sum, up to full turns.  So neither the order of
    the turns nor their grouping counts, and turns that close restore the direction. -/
theorem heading_after (config : StageConfig) {calls : List (Operation × Value)}
    (hcalls : ∀ call ∈ calls, TurnsByInteger call) :
    let direction := (after config calls {}).sprite.direction
    let rest := (90 + (calls.map turned).sum) % 360
    direction = Double.saturating rest ∧ Double.toInt? direction = some rest ∧ 0 ≤ rest ∧ rest < 360 ∧
      ∀ others : List (Operation × Value), (∀ call ∈ others, TurnsByInteger call) →
        360 ∣ (others.map turned).sum - (calls.map turned).sum →
          (after config others {}).sprite.direction = direction := by
  intro direction rest
  have hfresh : ({} : Stage).sprite.direction = Double.saturating 90 := rfl
  have hdirection : direction = Double.saturating rest := heading_of hcalls (by decide) hfresh
  refine ⟨hdirection, ?_, by omega, by omega, fun others hothers hsum => ?_⟩
  · rw [hdirection]
    exact Double.toInt?_of_standsFor (Double.standsFor_saturating (by omega))
  · rw [hdirection, heading_of hothers (by decide) hfresh]
    congr 1
    omega

/-- Large turns to both sides and a truth value, with a move, a wait and something said in between. -/
theorem heading_after_large_turns :
    let calls : List (Operation × Value) := [(.turn, .int (2 ^ 52)), (.move, .int 3), (.turn, .int (2 ^ 52)),
      (.say, .text "round"), (.turn, .int (-725)), (.wait, .float 0.5), (.turn, .bool true)]
    let direction := (after {} calls {}).sprite.direction
    Double.toInt? direction = some 118 ∧
      (after {} (calls.reverse ++ [(.turn, .int 300), (.turn, .int 60)]) {}).sprite.direction = direction := by
  intro calls direction
  have hcalls : ∀ call ∈ calls, TurnsByInteger call := by
    simp [calls, TurnsByInteger, Value.number?]
  have hothers : ∀ call ∈ calls.reverse ++ [(.turn, .int 300), (.turn, .int 60)], TurnsByInteger call := by
    simp [calls, TurnsByInteger, Value.number?]
  obtain ⟨-, hdirection, -, -, hsame⟩ := heading_after {} hcalls
  exact ⟨hdirection, hsame _ hothers (by decide)⟩

end Stage

end SpriteStage
