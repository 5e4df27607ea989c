import SpriteStage.Proofs.Stage.Change
import SpriteStage.Proofs.Number.Remainder

/-!
# The bounds of a stage

Whatever is done on a stage, with whatever arguments, its sprite stays within the edges and its direction
within one turn, as far as they are numbers: not-a-number passes through all the arithmetic.

## Main definitions

* `Value.isNonnegative` holds of the extents that a stage may have
* `WithinExtent` holds of the coordinates that such an extent admits
* `Sprite.Bounded` holds of sprites within the edges and within one turn

## Main results

* `Double.clamp_mem` and `Stage.normalize_mem` are the bounds of one move and of one turn
* `Stage.bounded_after` is the bound after any calls
-/

namespace SpriteStage

open Float.Model (UnpackedFloat)
open Float.Model.UnpackedFloat

/-! ## Extents -/

/-- Whether a value is a number that is at least zero. -/
def Value.isNonnegative (v : Value) : Bool :=
  v.number?.any fun n => (Number.compare? n (.int 0)).any (·.isGE)

namespace Double

/-- The quotient of two positive numbers is at least zero. -/
theorem nonneg_div {m₁ m₂ : ℕ} (e₁ e₂ : ℤ) (h₁ : 0 < m₁) (h₂ : 0 < m₂) :
    0 ≤ Float.ofModel (.pack (UnpackedFloat.div .binary64 (.finite .positive m₁ e₁ h₁)
      (.finite .positive m₂ e₂ h₂))) := by
  rw [UnpackedFloat.div]
  simp only [roundWithAccuracy]
  split
  · exact nonneg_iff.2 (.inl ⟨.positive, rfl⟩)
  · exact nonneg_pack _

theorem nonneg_half {x : Float} (hx : 0 ≤ x) : 0 ≤ x / 2 := by
  have htwo : (2 : Float).toModel.unpack = .finite .positive (2 ^ 52) (-51) (by decide) := rfl
  have hquotient : x / 2 = Float.ofModel (.pack (UnpackedFloat.div .binary64 x.toModel.unpack
      (2 : Float).toModel.unpack)) := rfl
  rw [hquotient, htwo]
  rcases nonneg_iff.1 hx with ⟨s, h⟩ | h | ⟨m, e, hm, h⟩ <;> rw [h]
  · exact nonneg_iff.2 (.inl ⟨s / .positive, by cases s <;> rfl⟩)
  · exact nonneg_iff.2 (.inr (.inl rfl))
  · exact nonneg_div _ _ _ _

end Double

namespace Stage

theorem nonneg_ofRatio {n : Int} (hn : 0 ≤ n) {w : Float} (h : Double.ofRatio? n 2 = some w) : 0 ≤ w := by
  rw [Double.ofRatio?, dif_neg (by decide)] at h
  split at h
  · cases h
    exact Double.nonneg_iff.2 (.inl ⟨.positive, rfl⟩)
  · rename_i hne
    have hsign : Exact.toSign (decide (n < 0) != decide ((2 : Int) < 0)) = .positive := by
      rw [decide_eq_false (not_lt.2 hn)]
      rfl
    simp only [hsign] at h
    split at h
    · cases h
      exact Double.nonneg_div _ _ _ _
    · cases h

/-- Half of an extent that is at least zero is at least zero. -/
theorem nonneg_half {extent : Value} (hextent : extent.isNonnegative = true) {w : Float}
    (h : half extent = .ok w) : 0 ≤ w := by
  rw [Value.isNonnegative] at hextent
  rw [half] at h
  cases hn : extent.number? with
  | none =>
    rw [hn] at h
    cases h
  | some n =>
    rw [hn] at h hextent
    cases n with
    | int n =>
      have hge : 0 ≤ n := Int.isGE_compare.1 hextent
      simp only at h
      split at h
      · cases h
        exact nonneg_ofRatio hge ‹_›
      · cases h
    | float x =>
      cases h
      exact Double.nonneg_half (Number.compare?_zero_isGE.1 hextent)

end Stage

namespace Double

/-- **A double brought between two opposite bounds is within them**, unless it is not-a-number. -/
theorem clamp_mem {w : Float} (hw : 0 ≤ w) (v : Float) :
    (clamp v (-w) w).isNaN = true ∨ -w ≤ clamp v (-w) w ∧ clamp v (-w) w ≤ w := by
  have hbound := isNaN_of_nonneg hw
  have hle := neg_le_self hw
  by_cases hv : v.isNaN = true
  · left
    obtain ⟨hlow, -⟩ := not_lt_of_isNaN (y := -w) hv
    obtain ⟨-, hhigh⟩ := not_lt_of_isNaN (y := w) hv
    rw [clamp, if_neg hlow, if_neg hhigh]
    exact hv
  · right
    rw [Bool.not_eq_true] at hv
    by_cases hlow : -w > v
    · rw [clamp, if_pos hlow, if_neg (not_lt_of_le hle)]
      exact ⟨le_self (isNaN_neg hbound), hle⟩
    · rw [clamp, if_neg hlow]
      by_cases hhigh : w < v
      · rw [if_pos hhigh]
        exact ⟨hle, le_self hbound⟩
      · rw [if_neg hhigh]
        exact ⟨le_of_not_lt (isNaN_neg hbound) hv hlow, le_of_not_lt hv hbound hhigh⟩

end Double

/-! ## Directions -/

/-- A direction brought within one turn is at least zero and less than a full turn, unless it is
    not-a-number. -/
theorem Stage.normalize_mem (direction : Float) :
    (normalize direction).isNaN = true ∨ 0 ≤ normalize direction ∧ normalize direction < 360 := by
  have hturn : (360 : Float).toModel.unpack = .finite .positive (360 * 2 ^ 44) (-44) (by decide) := rfl
  obtain ⟨d, hd⟩ : ∃ d, d = Double.flooredMod direction 360 := ⟨_, rfl⟩
  rw [normalize]
  simp only [← hd]
  rcases Double.flooredMod_mem hturn direction with hnan | ⟨hge, hle⟩
  · left
    rw [← hd] at hnan
    rw [if_neg (Double.not_lt_of_isNaN hnan).1, if_neg (Double.not_le_of_isNaN hnan).2]
    exact hnan
  · right
    rw [← hd] at hge hle
    rw [if_neg (Double.not_lt_of_le hge)]
    by_cases hfull : d ≥ 360
    · -- The remainder has been rounded up to the full turn.
      rw [if_pos hfull, Double.eq_of_le_of_le hturn hle hfull]
      decide +kernel
    · rw [if_neg hfull]
      exact ⟨hge, Double.lt_of_not_le (Double.isNaN_of_nonneg hge) rfl hfull⟩

/-! ## Sprites within bounds -/

/-- A coordinate that an extent of the stage admits: not-a-number, or one from minus a half of the extent
    to a half of it.  An extent that is too large to be halved lets no move succeed, so that the sprite
    stays at the origin. -/
def WithinExtent (extent : Value) (x : Float) : Prop :=
  match Stage.half extent with
  | .ok w => x.isNaN = true ∨ -w ≤ x ∧ x ≤ w
  | .error _ => x = 0

/-- A sprite within the edges of its stage whose direction is within one turn. -/
structure Sprite.Bounded (config : StageConfig) (sprite : Sprite) : Prop where
  direction : sprite.direction.isNaN = true ∨ 0 ≤ sprite.direction ∧ sprite.direction < 360
  x : WithinExtent config.width sprite.x
  y : WithinExtent config.height sprite.y
  trail : ∀ p ∈ sprite.trail, WithinExtent config.width p.x ∧ WithinExtent config.height p.y

/-- The origin lies within every extent. -/
theorem WithinExtent.zero {extent : Value} (h : extent.isNonnegative = true) : WithinExtent extent 0 := by
  rw [WithinExtent]
  cases hw : Stage.half extent with
  | error e => rfl
  | ok w =>
    have hnonneg := Stage.nonneg_half h hw
    exact .inr ⟨Double.neg_le_zero hnonneg, hnonneg⟩

/-- What is brought between the edges is within the extent. -/
theorem WithinExtent.clamp {extent : Value} (h : extent.isNonnegative = true) {w : Float}
    (hw : Stage.half extent = .ok w) (v : Float) : WithinExtent extent (Double.clamp v (-w) w) := by
  rw [WithinExtent, hw]
  exact Double.clamp_mem (Stage.nonneg_half h hw) v

namespace Sprite.Bounded

variable {config : StageConfig} {s t : Stage}

theorem fresh (hwidth : config.width.isNonnegative = true) (hheight : config.height.isNonnegative = true) :
    Sprite.Bounded config {} := by
  refine ⟨.inr (by decide +kernel), .zero hwidth, .zero hheight, fun p hp => ?_⟩
  obtain rfl := Array.mem_singleton.1 hp
  exact ⟨.zero hwidth, .zero hheight⟩

/-- The change of an operation keeps the bounds. -/
theorem change (hwidth : config.width.isNonnegative = true) (hheight : config.height.isNonnegative = true)
    {op : Operation} {argument : Value} (hs : s.sprite.Bounded config)
    (h : Stage.change config op argument s = .ok t) : t.sprite.Bounded config := by
  cases op with
  | move =>
    obtain ⟨position, hposition, rfl⟩ := exists_of_map_eq_ok h
    obtain ⟨distance, -, hrest⟩ := exists_of_bind_eq_ok hposition
    obtain ⟨cosine, -, hrest⟩ := exists_of_bind_eq_ok hrest
    obtain ⟨dx, -, hrest⟩ := exists_of_bind_eq_ok hrest
    obtain ⟨sine, -, hrest⟩ := exists_of_bind_eq_ok hrest
    obtain ⟨dy, -, hrest⟩ := exists_of_bind_eq_ok hrest
    obtain ⟨w, hw, hrest⟩ := exists_of_bind_eq_ok hrest
    obtain ⟨h', hh', hclamped⟩ := exists_of_bind_eq_ok hrest
    cases hclamped
    have hx := WithinExtent.clamp hwidth hw (s.sprite.x + dx)
    have hy := WithinExtent.clamp hheight hh' (s.sprite.y + dy)
    -- The new position is clamped, and it is the only new one in the trail.
    refine ⟨hs.direction, hx, hy, fun p hp => ?_⟩
    rcases Array.mem_push.1 hp with hp | rfl
    · exact hs.trail p hp
    · exact ⟨hx, hy⟩
  | turn =>
    obtain ⟨d, -, rfl⟩ := exists_of_map_eq_ok h
    exact ⟨Stage.normalize_mem d, hs.x, hs.y, hs.trail⟩
  | say =>
    cases h
    exact ⟨hs.direction, hs.x, hs.y, hs.trail⟩
  | wait =>
    obtain ⟨seconds, -, rfl⟩ := exists_of_map_eq_ok h
    exact hs

/-- So does a call, whether it fails or not. -/
theorem perform (hwidth : config.width.isNonnegative = true) (hheight : config.height.isNonnegative = true)
    (hs : s.sprite.Bounded config) (op : Operation) (argument : Value) :
    (s.perform config op argument).2.sprite.Bounded config := by
  rw [Stage.sprite_perform]
  cases hchange : Stage.change config op argument s with
  | error e => exact hs
  | ok t => exact hs.change hwidth hheight hchange

end Sprite.Bounded

/-- **The sprite keeps within the stage.**  On a stage whose width and height are numbers that are at least
    zero, make any calls of operations with any arguments, infinite ones, not-a-number and such that fail
    among them.  The direction is then not-a-number, or at least zero and less than a full turn; each
    coordinate of the sprite and of every point of its trail is not-a-number, or from minus a half of the
    extent of the stage to a half of it. -/
theorem Stage.bounded_after {config : StageConfig} (hwidth : config.width.isNonnegative = true)
    (hheight : config.height.isNonnegative = true) (calls : List (Operation × Value)) :
    (after config calls {}).sprite.Bounded config :=
  after_induction config (P := fun s => s.sprite.Bounded config) (.fresh hwidth hheight)
    fun call _ _ hs => hs.perform hwidth hheight call.1 call.2

/-- A tiny turn to the left of the direction zero, where the remainder is the full turn, and infinite moves
    on a stage without an edge above. -/
theorem Stage.bounded_after_tiny_turn :
    let config : StageConfig := { width := .bool true, height := .float (Double.infinity false) }
    let calls : List (Operation × Value) := [(.turn, .int (-90)), (.turn, .float (-1e-20)),
      (.move, .float (Double.infinity false)), (.move, .text "far"), (.move, .float Double.nan)]
    (Double.flooredMod (-1e-20) 360 == 360) = true ∧ (after config calls {}).sprite.trail.size = 3 ∧
      ((after config calls {}).sprite.direction == 0) = true ∧
        (after config calls {}).sprite.Bounded config := by
  intro config calls
  exact ⟨by decide +kernel, by decide +kernel, by decide +kernel,
    bounded_after (by decide +kernel) (by decide +kernel) calls⟩

end SpriteStage
