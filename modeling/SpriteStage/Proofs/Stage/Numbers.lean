import SpriteStage.Proofs.Stage.Chronicle
import SpriteStage.Proofs.Stage.Bounds
import SpriteStage.Proofs.Number.Range

/-!
# Numbers never make an operation fail

Every number is taken by every operation, however large, infinite or not-a-number it is.  Integers become
doubles first, and truth values leave the range of a factor as it is.  The angle of the sprite never
becomes infinite, because its direction is always brought within one turn: the cosine and the sine of an
infinite angle would be errors.

## Main definitions

* `StageConfig.IsReal` holds of the configurations whose fields are numbers in the range of doubles
* `Operation.takes` says which arguments an operation takes

## Main results

* `Stage.isInf_radians_after` is the angle after any calls
* `Stage.numbers_never_fail` is the success of all operations
-/

namespace SpriteStage

open Float.Model (UnpackedFloat)

/-- A configuration whose fields are numbers in the range of doubles. -/
structure StageConfig.IsReal (config : StageConfig) : Prop where
  width : config.width.real.isOk = true
  height : config.height.real.isOk = true
  stepScale : config.stepScale.real.isOk = true
  waitScale : config.waitScale.real.isOk = true

/-- Whether an operation takes an argument: a number, or a text that is said.  An integer that is said must
    have a text. -/
def Operation.takes : Operation → Value → Bool
  | .say, .text _ => true
  | .say, v => v.number?.isSome && v.isShort
  | _, v => v.number?.isSome

/-! ## Real values -/

namespace Value

/-- A value in the range of doubles is a number, and as an integer it rounds to a double. -/
theorem exists_number_of_real {v : Value} (h : v.real.isOk = true) :
    (∃ x, v.number? = some (.float x)) ∨
      ∃ n, v.number? = some (.int n) ∧ (Double.ofInt? n).isSome = true := by
  rw [real] at h
  split at h
  · rename_i a ha
    cases a with
    | float x => exact .inl ⟨x, ha⟩
    | int n =>
      refine .inr ⟨n, ha, ?_⟩
      rw [Number.toFloat] at h
      split at h
      · rename_i x hx
        rw [hx]
        rfl
      · cases h
  · cases h

theorem isOk_real_int {n : ℤ} (h : (Double.ofInt? n).isSome = true) : (int n).real.isOk = true := by
  obtain ⟨x, hx⟩ := Option.isSome_iff_exists.1 h
  show (Number.toFloat (.int n)).isOk = true
  rw [Number.toFloat, hx]
  rfl

/-- What has been widened is in the range. -/
theorem isOk_real_widen {v : Value} {n : Number} (h : v.number? = some n) : v.widen.real.isOk = true := by
  cases v with
  | bool b => cases b <;> decide
  | int n | float x => rfl
  | null | text _ | list _ | object _ => cases h

theorem number?_widen {v : Value} {n : Number} (h : v.number? = some n) :
    ∃ m, v.widen.number? = some m := by
  cases v with
  | bool b | int k | float x => exact ⟨_, rfl⟩
  | null | text _ | list _ | object _ => cases h

theorem apply_of_number {op : BinaryOp} {l r : Value} {a b : Number} (hl : l.number? = some a)
    (hr : r.number? = some b) : apply op l r = (Number.apply op a b).map Number.toValue := by
  simp only [apply, hl, hr]

/-- A product with a truth value or a double is in the range if the other factor is. -/
theorem exists_mul {l r : Value} (hl : (∃ b, l = .bool b) ∨ ∃ x, l = .float x)
    (hr : r.real.isOk = true) : ∃ v, apply .mul l r = .ok v ∧ v.real.isOk = true := by
  rcases hl with ⟨b, rfl⟩ | ⟨x, rfl⟩
  · rcases exists_number_of_real hr with ⟨y, hy⟩ | ⟨n, hn, hrange⟩
    · obtain ⟨x, hx⟩ : ∃ x, Number.toFloat (.int (if b then 1 else 0)) = .ok x := by
        cases b <;> exact ⟨_, rfl⟩
      refine ⟨.float (x * y), ?_, rfl⟩
      rw [apply_of_number rfl hy]
      simp only [Number.apply, hx, bind, Except.bind]
      rfl
    · -- The integer is kept or becomes zero.
      refine ⟨.int ((if b then 1 else 0) * n), ?_, isOk_real_int ?_⟩
      · rw [apply_of_number rfl hn]
        rfl
      · cases b
        · simp only [Bool.false_eq_true, if_false, Int.zero_mul]
          decide
        · simpa using hrange
  · rcases exists_number_of_real hr with ⟨y, hy⟩ | ⟨n, hn, hrange⟩
    · refine ⟨.float (x * y), ?_, rfl⟩
      rw [apply_of_number rfl hy]
      rfl
    · obtain ⟨y, hy⟩ := Option.isSome_iff_exists.1 hrange
      refine ⟨.float (x * y), ?_, rfl⟩
      rw [apply_of_number rfl hn]
      simp only [Number.apply, Number.toFloat, hy, bind, Except.bind]
      rfl

end Value

namespace Stage

/-! ## Angles -/

/-- A direction within one turn is below a power of two. -/
theorem belowPower_of_lt {d : Float} (hge : 0 ≤ d) (hlt : d < 360) : BelowPower 9 d.toModel.unpack := by
  have hturn : (360 : Float).toModel.unpack = .finite .positive (360 * 2 ^ 44) (-44) (by decide) := rfl
  rw [Double.lt_iff, hturn] at hlt
  rcases Double.nonneg_iff.1 hge with ⟨s, h⟩ | h | ⟨m, e, hm, h⟩
  · rw [h]
    exact ⟨_, .zero⟩
  · rw [h] at hlt
    cases hlt
  · have hc := Canonical.of_unpack h
    rw [h] at hlt ⊢
    have hexponent : e ≤ -44 := by
      by_contra hgt
      have hcompare : UnpackedFloat.compare (.finite .positive m e hm)
          (.finite .positive (360 * 2 ^ 44) (-44) (by decide)) =
            some ((compare e (-44)).then (compare m (360 * 2 ^ 44))) := rfl
      rw [hcompare, compare_gt_iff_gt.2 (not_le.1 hgt)] at hlt
      cases hlt
    refine .of_le hc .positive ?_
    have hm' : (m : ℚ) ≤ 2 ^ 53 := by exact_mod_cast hc.lt.le
    calc (m * 2 ^ e : ℚ) ≤ 2 ^ 53 * 2 ^ (-44 : ℤ) :=
          mul_le_mul hm' (zpow_le_zpow_right₀ one_le_two hexponent) (by positivity) (by positivity)
      _ = 2 ^ (9 : ℤ) := by norm_num

/-- **The angle of a direction within one turn is not infinite**, nor is that of not-a-number. -/
theorem isInf_radians {d : Float} (h : d.isNaN = true ∨ 0 ≤ d ∧ d < 360) :
    (radians d).isInf = false := by
  rcases h with hnan | ⟨hge, hlt⟩
  · show UnpackedFloat.isInf (Float.Model.pack (.div .binary64 (Float.Model.pack (.mul .binary64
      (Float.Model.pack (.sub .binary64 d.toModel.unpack _)).unpack _)).unpack _)).unpack = false
    rw [Double.unpack_of_isNaN hnan]
    rfl
  · have hd := belowPower_of_lt hge hlt
    have h90 : BelowPower 9 (90 : Float).toModel.unpack := by
      have hc : Canonical (90 * 2 ^ 46) (-46) := by constructor <;> decide
      exact .of_le hc .positive (by norm_num)
    have hpi : BelowPower 2 pi.toModel.unpack := by
      have hc : Canonical 7074237752028440 (-51) := by constructor <;> decide
      exact .of_le hc .positive (by norm_num)
    have hdifference := hd.sub (by decide) (by decide) h90
    have hproduct := hdifference.mul (by decide) (by decide) hpi
    have hquotient := hproduct.div (m := 180 * 2 ^ 45) (e := -45) (by decide) (by decide) (by decide)
      (by norm_num) .positive
    show UnpackedFloat.isInf (Float.Model.pack (.div .binary64 (Float.Model.pack (.mul .binary64
      (Float.Model.pack (.sub .binary64 d.toModel.unpack _)).unpack _)).unpack _)).unpack = false
    rw [hdifference.unpack_pack, hproduct.unpack_pack]
    exact hquotient.isInf

variable {config : StageConfig} {op : Operation} {argument : Value} {s t : Stage}

/-- The direction of the sprite is within one turn after any calls, or not-a-number. -/
theorem direction_after (calls : List (Operation × Value)) :
    let d := (after config calls {}).sprite.direction
    d.isNaN = true ∨ 0 ≤ d ∧ d < 360 := by
  refine after_induction config
    (P := fun s => s.sprite.direction.isNaN = true ∨ 0 ≤ s.sprite.direction ∧ s.sprite.direction < 360)
    (.inr (by decide +kernel)) fun call _ s hs => ?_
  rw [sprite_perform]
  cases hchange : change config call.1 call.2 s with
  | error e => exact hs
  | ok t =>
    by_cases hturn : call.1 = .turn
    · rw [hturn] at hchange
      obtain ⟨d, -, rfl⟩ := exists_of_map_eq_ok hchange
      exact normalize_mem d
    · have hkept := (follows_change hchange "").direction hturn
      exact hkept ▸ hs

/-! ## The parts of an operation -/

/-- Half of an extent in the range. -/
theorem exists_half {extent : Value} (h : extent.real.isOk = true) : ∃ w, half extent = .ok w := by
  rcases Value.exists_number_of_real h with ⟨x, hx⟩ | ⟨n, hn, hrange⟩
  · exact ⟨x / 2, by rw [half, hx]⟩
  · obtain ⟨x, hx⟩ := Double.exists_ofRatio?_two hrange
    exact ⟨x, by simp only [half, hn, hx]⟩

theorem exists_times {v : Value} (h : v.real.isOk = true) (x : Float) : ∃ y, times x v = .ok y := by
  rcases Value.exists_number_of_real h with ⟨y, hy⟩ | ⟨n, hn, hrange⟩
  · exact ⟨x * y, by simp only [times, hy]; rfl⟩
  · obtain ⟨y, hy⟩ := Option.isSome_iff_exists.1 hrange
    exact ⟨x * y, by simp only [times, hn, Number.toFloat, hy]; rfl⟩

theorem exists_plus {v : Value} (h : v.real.isOk = true) (x : Float) : ∃ y, plus x v = .ok y := by
  rcases Value.exists_number_of_real h with ⟨y, hy⟩ | ⟨n, hn, hrange⟩
  · exact ⟨x + y, by simp only [plus, hy]; rfl⟩
  · obtain ⟨y, hy⟩ := Option.isSome_iff_exists.1 hrange
    exact ⟨x + y, by simp only [plus, hn, Number.toFloat, hy]; rfl⟩

/-- What is at least zero of a number is zero or the number. -/
theorem maximum_zero_cases {v : Value} {n : Number} (h : v.number? = some n) :
    v.maximum (.int 0) = .ok (.int 0) ∨ v.maximum (.int 0) = .ok v := by
  have hholds : Value.holds .greater (.int 0) v =
      .ok (Number.compare? (.int 0) n == some Value.Comparison.greater.ordering) := by
    cases v with
    | bool _ | int _ | float _ =>
      cases h
      rfl
    | null | text _ | list _ | object _ => cases h
  rw [Value.maximum, hholds]
  by_cases hless : (Number.compare? (.int 0) n == some Value.Comparison.greater.ordering) = true
  · exact .inl (by simp only [hless]; rfl)
  · exact .inr (by simp only [hless]; rfl)

/-- A number of seconds lasts for a double. -/
theorem exists_duration {n : Number} (h : argument.number? = some n) :
    ∃ seconds, duration argument = .ok seconds := by
  obtain ⟨m, hm⟩ := Value.number?_widen h
  rw [duration]
  rcases maximum_zero_cases hm with hmax | hmax <;> rw [hmax]
  · exact ⟨_, rfl⟩
  · have hreal := Value.isOk_real_widen h
    cases hseconds : argument.widen.real with
    | error e =>
      rw [hseconds] at hreal
      cases hreal
    | ok seconds => exact ⟨seconds, hseconds⟩

theorem exists_number_of_takes (h : op.takes argument = true) (hsay : op ≠ .say) :
    ∃ n, argument.number? = some n := by
  cases op with
  | say => exact absurd rfl hsay
  | move | turn | wait => exact Option.isSome_iff_exists.1 h

/-- An operation changes the stage if it takes the argument, as long as the sprite looks in a direction with
    an angle that is not infinite. -/
theorem exists_change (hconfig : config.IsReal) (h : op.takes argument = true)
    (hangle : (radians s.sprite.direction).isInf = false) : ∃ t, change config op argument s = .ok t := by
  cases op with
  | say => exact ⟨_, rfl⟩
  | move =>
    obtain ⟨n, hn⟩ := exists_number_of_takes h (by decide)
    obtain ⟨m, hm⟩ := Value.number?_widen hn
    obtain ⟨distance, hdistance, hreal⟩ := Value.exists_mul (Value.widen_cases hm) hconfig.stepScale
    obtain ⟨dx, hdx⟩ := exists_times hreal (radians s.sprite.direction).cos
    obtain ⟨dy, hdy⟩ := exists_times hreal (radians s.sprite.direction).sin
    obtain ⟨w, hw⟩ := exists_half hconfig.width
    obtain ⟨h', hh'⟩ := exists_half hconfig.height
    simp only [change, destination, cosine_of_not_isInf hangle, sine_of_not_isInf hangle, hdistance, hdx, hdy,
      hw, hh', bind, Except.bind, pure, Except.pure, Except.map, Except.ok.injEq, exists_eq']
  | turn =>
    obtain ⟨n, hn⟩ := exists_number_of_takes h (by decide)
    obtain ⟨d, hd⟩ := exists_plus (Value.isOk_real_widen hn) s.sprite.direction
    exact ⟨s.turnedTo (normalize d), by rw [change, hd]; rfl⟩
  | wait =>
    obtain ⟨n, hn⟩ := exists_number_of_takes h (by decide)
    obtain ⟨seconds, hseconds⟩ := exists_duration hn
    exact ⟨s, by rw [change, hseconds]; rfl⟩

/-- Nothing but `say` looks at the argument before it has been widened. -/
theorem change_widen (hsay : op ≠ .say) : change config op argument.widen s = change config op argument s := by
  have hwiden : argument.widen.widen = argument.widen := by cases argument <;> rfl
  cases op with
  | say => exact absurd rfl hsay
  | move | turn | wait => simp only [change, destination, duration, hwiden]

theorem line_widen (hsay : op ≠ .say) : line op argument.widen = line op argument := by
  have hwiden : argument.widen.widen = argument.widen := by cases argument <;> rfl
  cases op with
  | say => exact absurd rfl hsay
  | move | turn | wait => simp only [line, duration, hwiden]

/-- Its line can be written, whatever the length of an integer that is not said. -/
theorem exists_line_of_takes (h : op.takes argument = true) (ht : change config op argument s = .ok t) :
    ∃ text, line op argument = .ok text := by
  by_cases hsay : op = .say
  · have hshort : argument.isShort = true := by
      subst hsay
      cases argument with
      | int n => exact h
      | bool _ | float _ | text _ => rfl
      | null | list _ | object _ => cases h
    exact exists_line hshort ht
  · obtain ⟨n, hn⟩ := exists_number_of_takes h hsay
    obtain ⟨m, hm⟩ := Value.number?_widen hn
    -- What has been widened is no integer.
    have hshort : argument.widen.isShort = true := by
      rcases Value.widen_cases hm with ⟨b, hb⟩ | ⟨x, hx⟩
      · rw [hb]
        rfl
      · rw [hx]
        rfl
    obtain ⟨text, htext⟩ := exists_line hshort ((change_widen hsay).trans ht)
    exact ⟨text, (line_widen hsay).symm.trans htext⟩

/-- Its delay does not fail either: a wait of no length asks for none before anything is multiplied. -/
theorem exists_delay_of_takes (hconfig : config.IsReal) (h : op.takes argument = true) :
    ∃ d, delay config op argument = .ok d := by
  cases op with
  | move | turn | say => exact ⟨none, rfl⟩
  | wait =>
    obtain ⟨n, hn⟩ := exists_number_of_takes h (by decide)
    obtain ⟨m, hm⟩ := Value.number?_widen hn
    rw [delay]
    rcases maximum_zero_cases hm with hmax | hmax
    · rw [hmax]
      exact ⟨none, rfl⟩
    · obtain ⟨seconds, hseconds⟩ := exists_duration hn
      rw [duration, hmax] at hseconds
      obtain ⟨product, hproduct, hreal⟩ := Value.exists_mul (Value.widen_cases hm) hconfig.waitScale
      obtain ⟨k, hk⟩ : ∃ k, product.number? = some k := by
        rcases Value.exists_number_of_real hreal with ⟨x, hx⟩ | ⟨k, hk, -⟩
        · exact ⟨_, hx⟩
        · exact ⟨_, hk⟩
      have hholds := Value.holds_int hk .greater 0
      have hlength : argument.widen.real = .ok seconds := hseconds
      simp only [hmax, hlength, hproduct, hholds, bind, Except.bind, pure, Except.pure]
      split <;> exact ⟨_, rfl⟩

/-- **Numbers never make an operation fail.**  Let the fields of a configuration be numbers in the range of
    doubles, and make any calls of operations on a fresh stage, with any arguments and such that fail among
    them.  Then every number, however large, infinite or not-a-number, and every truth value is taken by a
    move, a turn and a wait; and everything that is a text, or such a number with a text, can be said.  The
    operation succeeds and does what it is meant to do.  The angle of a move, which must not be infinite, is
    not, and the integers that are written in place of doubles have texts.  Afterwards the report can be
    written. -/
theorem numbers_never_fail (hconfig : config.IsReal) (calls : List (Operation × Value))
    (h : op.takes argument = true) :
    let s := after config calls {}
    (radians s.sprite.direction).isInf = false ∧
      (∀ x n, Double.toInt? x = some n → integerText n = .ok (Double.logged x)) ∧
        ∃ d t, s.perform config op argument = (.ok d, t) ∧ Follows op argument s t ∧
          ∃ x y direction, Value.loggedFixed 1 (.float t.sprite.x) = .ok x ∧
            Value.loggedFixed 1 (.float t.sprite.y) = .ok y ∧
              Value.loggedFixed 0 (.float t.sprite.direction) = .ok direction ∧
                t.report = s!"x: {x}, y: {y}, " ++ s!"direction: {direction}°" := by
  intro s
  -- The direction stays within a turn, so that a move finds a sine and a cosine.
  have hangle : (radians s.sprite.direction).isInf = false := isInf_radians (direction_after calls)
  refine ⟨hangle, fun _ _ => Double.integerText_of_toInt?, ?_⟩
  obtain ⟨t, ht⟩ := exists_change hconfig h hangle
  obtain ⟨text, htext⟩ := exists_line_of_takes h ht
  obtain ⟨d, hd⟩ := exists_delay_of_takes hconfig h
  refine ⟨d, t.logging text, ?_, follows_change ht text, _, _, _, rfl, rfl, rfl, rfl⟩
  rw [perform_eq, ht]
  simp only [htext, hd]

/-- An integer past the range, infinite moves and turns, and a truth value, on a stage of integers. -/
theorem huge_numbers_never_fail :
    let config : StageConfig := { width := .int (-(10 ^ 308)), waitScale := .int 3 }
    let calls : List (Operation × Value) := [(.turn, .float (Double.infinity false)), (.move, .text "far"),
      (.say, .int (10 ^ 400))]
    let s := after config calls {}
    (∃ d t, s.perform config .move (.int (10 ^ 5000)) = (.ok d, t) ∧ Follows .move (.int (10 ^ 5000)) s t) ∧
      ∃ d t, s.perform config .wait (.bool true) = (.ok d, t) ∧ Follows .wait (.bool true) s t := by
  intro config calls s
  have hconfig : config.IsReal := ⟨by decide +kernel, by decide +kernel, by decide +kernel, by decide +kernel⟩
  have hmove : Operation.move.takes (.int (10 ^ 5000)) = true := rfl
  have hwait : Operation.wait.takes (.bool true) = true := rfl
  obtain ⟨-, -, d, t, ht, hfollows, -⟩ := numbers_never_fail hconfig calls hmove
  obtain ⟨-, -, d', t', ht', hfollows', -⟩ := numbers_never_fail hconfig calls hwait
  exact ⟨⟨d, t, ht, hfollows⟩, d', t', ht', hfollows'⟩

end Stage

end SpriteStage
