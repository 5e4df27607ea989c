import SpriteStage.Proofs.Stage.Numbers
import SpriteStage.Proofs.Number.Places

/-!
# Negative zeros in reports and log lines

Directions are at least zero, and so is the length of every wait, so that neither is ever written as a negative
zero.  Coordinates may be: those that are less than zero by at most a half of the last place.

## Main results

* `Stage.negative_zero_iff` says where negative zeros are written
-/

namespace SpriteStage

namespace Double

/-- A double that is at least zero is no small negative one. -/
theorem not_isSmallNegative {x : Float} (hx : x.isNaN = true ∨ 0 ≤ x) (places : ℕ) :
    ¬ IsSmallNegative places x := by
  rintro ⟨q, hq, hneg, -⟩
  have hstands := StandsFor.of_rational hq
  rcases hx with hnan | hge
  · rw [unpack_of_isNaN hnan] at hstands
    cases hstands
  · have hzero : StandsFor (0 : Float).toModel.unpack 0 := .zero .positive
    exact absurd ((hzero.le_iff hstands).1 hge) (not_le.2 hneg)

end Double

namespace Stage

/-- The greater one of a double and zero. -/
theorem nonneg_maximum {y seconds : Float} {v : Value} (hv : Value.maximum (.float y) (.int 0) = .ok v)
    (h : v.real = .ok seconds) : seconds.isNaN = true ∨ 0 ≤ seconds := by
  have hholds : Value.holds .greater (.int 0) (.float y) = .ok (decide (y < 0)) := by
    have hcompare : Number.compare? (.int 0) (.float y) =
        (Number.compare? (.float y) (.int 0)).map Ordering.swap := rfl
    show Except.ok (Number.compare? (.int 0) (.float y) == some .gt) = _
    rw [hcompare, Number.compare?_zero, Number.compare?_float, Except.ok.injEq, Bool.eq_iff_iff, beq_iff_eq,
      decide_eq_true_eq, Double.lt_iff]
    rcases y.toModel.unpack.compare (0 : Float).toModel.unpack with _ | _ | _ | _ <;> simp
  rw [Value.maximum, hholds] at hv
  by_cases hless : y < 0
  · rw [decide_eq_true hless] at hv
    cases hv
    cases h
    exact .inr (by decide +kernel)
  · rw [decide_eq_false hless] at hv
    cases hv
    cases h
    cases hy : y.isNaN with
    | true => exact .inl rfl
    | false => exact .inr (Double.le_of_not_lt rfl hy hless)

/-- The length of a wait is not-a-number or at least zero. -/
theorem nonneg_duration {argument : Value} {seconds : Float} (h : duration argument = .ok seconds) :
    seconds.isNaN = true ∨ 0 ≤ seconds := by
  obtain ⟨v, hv, hreal⟩ := exists_of_bind_eq_ok h
  cases argument with
  | int n | float x => exact nonneg_maximum hv hreal
  | bool b =>
    cases b
    · cases h
      exact .inr (by decide +kernel)
    · cases h
      exact .inr (by decide +kernel)
  | null | text _ | list _ | object _ => cases h

/-- **Only small negative coordinates are written as negative zeros.**  With any number of places, a double is
    written as a minus sign before nothing but zeros exactly if it is less than zero by at most a half of the
    last place.  So the negative zero itself is not, and after any calls on a fresh stage neither is the
    direction in the report, nor the length in the line of a wait; the coordinates in the report are if they are
    less than zero by at most a twentieth. -/
theorem negative_zero_iff (places : ℕ) (x : Float) (config : StageConfig) (calls : List (Operation × Value)) :
    (isNegativeZero (Double.loggedFixed places x) = true ↔ Double.IsSmallNegative places x) ∧
      isNegativeZero (Double.loggedFixed places (-0.0)) = false ∧
      (let sprite := (after config calls {}).sprite
        ∃ x y direction, (after config calls {}).report = s!"x: {x}, y: {y}, " ++ s!"direction: {direction}°" ∧
          (isNegativeZero x = true ↔ Double.IsSmallNegative 1 sprite.x) ∧
            (isNegativeZero y = true ↔ Double.IsSmallNegative 1 sprite.y) ∧ isNegativeZero direction = false) ∧
      ∀ argument text, line .wait argument = .ok text →
        ∃ seconds, text = s!"Wait {seconds} second(s)" ∧ isNegativeZero seconds = false := by
  have hiff := Double.isNegativeZero_loggedFixed
  have hnone {x : Float} (places : ℕ) (hx : x.isNaN = true ∨ 0 ≤ x) :
      isNegativeZero (Double.loggedFixed places x) = false := by
    rw [← Bool.not_eq_true, hiff]
    exact Double.not_isSmallNegative hx places
  refine ⟨hiff places x, hnone places (.inr (by decide +kernel)), ?_, fun argument text h => ?_⟩
  · exact ⟨_, _, _, rfl, hiff 1 _, hiff 1 _, hnone 0 ((direction_after calls).imp_right And.left)⟩
  · obtain ⟨seconds, hseconds, htext⟩ := exists_of_bind_eq_ok h
    exact ⟨_, (Except.ok.inj htext).symm, hnone 1 (nonneg_duration hseconds)⟩

/-- A hundredth below zero is written as a negative zero with one place, though the negative zero itself is not. -/
theorem negative_zero_of_hundredth : isNegativeZero (Double.loggedFixed 1 (-0.01)) = true ∧
    Double.loggedFixed 1 (-0.01) = "-0.0" ∧ Double.loggedFixed 1 (-0.0) = "0.0" := by
  decide +kernel

end Stage

end SpriteStage
