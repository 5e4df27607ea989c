import SpriteStage.Proofs.Stage.Numbers
import SpriteStage.Proofs.Number.Nearest

/-!
# The edges of a stage

A move that ends at an edge of the stage is repeated.  It goes by the same distance, so it gets at least as
far as before, and the sprite is brought back to the same edge.  This needs no more of the sums of doubles than
that they keep the order.

## Main definitions

* `Edge` is one of the two edges that bound a coordinate
* `Edge.Pressed` holds of a coordinate that a move takes to an edge or past it

## Main results

* `Edge.Pressed.step` keeps a coordinate at its edge through one move
* `Stage.edges_hold` keeps it there through any number of moves
-/

namespace SpriteStage

open Float.Model (UnpackedFloat)
open Float.Model.UnpackedFloat

/-- The two edges that bound a coordinate. -/
inductive Edge where
  | low
  | high

namespace Edge

/-- Where an edge is, on a stage that reaches `w` to both sides of the origin. -/
def coordinate (w : Float) : Edge → Float
  | low => -w
  | high => w

/-- Whether the second coordinate is at least as far towards an edge as the first one. -/
def Toward : Edge → Float → Float → Prop
  | low, x, y => y ≤ x
  | high, x, y => x ≤ y

/-- The sign of the numbers that are far beyond an edge. -/
def sign : Edge → Sign
  | low => .negative
  | high => .positive

variable {e : Edge} {w d v x y z : Float}

/-! ## The order towards an edge -/

theorem Toward.isNaN (h : e.Toward x y) : x.isNaN = false ∧ y.isNaN = false := by
  cases e with
  | low => exact (Double.isNaN_of_le h).symm
  | high => exact Double.isNaN_of_le h

theorem Toward.trans (h : e.Toward x y) (h' : e.Toward y z) : e.Toward x z := by
  cases e with
  | low => exact Double.le_trans h' h
  | high => exact Double.le_trans h h'

theorem toward_of_beq (e : Edge) (h : (x == y) = true) : e.Toward x y ∧ e.Toward y x := by
  obtain ⟨hle, hge⟩ := Double.beq_iff.1 h
  cases e with
  | low => exact ⟨hge, hle⟩
  | high => exact ⟨hle, hge⟩

theorem Toward.beq (h : e.Toward x y) (h' : e.Toward y x) : (x == y) = true := by
  cases e with
  | low => exact Double.beq_iff.2 ⟨h', h⟩
  | high => exact Double.beq_iff.2 ⟨h, h'⟩

theorem toward_origin (e : Edge) (hw : 0 ≤ w) : e.Toward 0 (e.coordinate w) := by
  cases e with
  | low => exact Double.neg_le_zero hw
  | high => exact hw

/-- Nothing is farther back than infinity. -/
theorem Toward.unpack_infinity (h : e.Toward x y) (hy : y.toModel.unpack = .infinity (-e.sign)) :
    x.toModel.unpack = .infinity (-e.sign) := by
  obtain ⟨a, ha⟩ := HasLevel.exists_of_isNaN h.isNaN.1
  cases e with
  | low =>
    have htop : HasLevel y.toModel.unpack ⊤ := by
      rw [hy]
      exact .top
    obtain rfl := top_le_iff.1 ((htop.le_iff ha).1 h)
    exact ha.eq_of_top
  | high =>
    have hbot : HasLevel y.toModel.unpack ⊥ := by
      rw [hy]
      exact .bot
    obtain rfl := le_bot_iff.1 ((ha.le_iff hbot).1 h)
    exact ha.eq_of_bot

/-- Adding the same keeps the order, if both sums are numbers. -/
theorem Toward.add (h : e.Toward x y) (hx : (x + d).isNaN = false) (hy : (y + d).isNaN = false) :
    e.Toward (x + d) (y + d) := by
  cases e with
  | low => exact Double.add_le_add_right h hy hx
  | high => exact Double.add_le_add_right h hx hy

/-- What is past an edge is brought back to it. -/
theorem clamp_of_toward (hw : 0 ≤ w) (h : e.Toward (e.coordinate w) v) :
    (Double.clamp v (-w) w == e.coordinate w) = true := by
  have hbound := Double.isNaN_of_nonneg hw
  cases e with
  | high =>
    have hle : w ≤ v := h
    rw [Double.clamp, if_neg (Double.not_lt_of_le (Double.le_trans (Double.neg_le_self hw) hle))]
    by_cases hpast : w < v
    · rw [if_pos hpast]
      exact Double.beq_self hbound
    · rw [if_neg hpast]
      exact Double.beq_iff.2 ⟨Double.le_of_not_lt h.isNaN.2 hbound hpast, hle⟩
  | low =>
    have hle : v ≤ -w := h
    rw [Double.clamp]
    by_cases hpast : -w > v
    · rw [if_pos hpast, if_neg (Double.not_lt_of_le (Double.neg_le_self hw))]
      exact Double.beq_self (Double.isNaN_neg hbound)
    · rw [if_neg hpast, if_neg (Double.not_lt_of_le (Double.le_trans hle (Double.neg_le_self hw)))]
      exact Double.beq_iff.2 ⟨hle, Double.le_of_not_lt (Double.isNaN_neg hbound) h.isNaN.2 hpast⟩

/-- What is brought to an edge has been at it or past it, or past the other edge where the two are the same. -/
theorem exists_toward_of_clamp (hw : 0 ≤ w) {f : Edge} (h : (Double.clamp v (-w) w == f.coordinate w) = true) :
    ∃ e : Edge, e.Toward (e.coordinate w) v ∧ (e.coordinate w == f.coordinate w) = true := by
  by_cases hlow : -w > v
  · rw [Double.clamp, if_pos hlow, if_neg (Double.not_lt_of_le (Double.neg_le_self hw))] at h
    exact ⟨.low, Double.le_of_lt hlow, h⟩
  · rw [Double.clamp, if_neg hlow] at h
    by_cases hhigh : w < v
    · rw [if_pos hhigh] at h
      exact ⟨.high, Double.le_of_lt hhigh, h⟩
    · rw [if_neg hhigh] at h
      exact ⟨f, (f.toward_of_beq h).2, Double.beq_self (f.toward_of_beq h).1.isNaN.2⟩

/-! ## Moves that get to an edge -/

/-- A coordinate that a move takes to an edge or past it. -/
structure Pressed (e : Edge) (w d x : Float) : Prop where
  within : e.Toward x (e.coordinate w)
  past : e.Toward (e.coordinate w) (x + d)

namespace Pressed

/-- The move can be made from further on as well. -/
theorem isNaN_add (hw : 0 ≤ w) (h : e.Pressed w d x) (hy : e.Toward x y) : (y + d).isNaN = false := by
  have hx := h.past.isNaN.2
  rw [← Bool.not_eq_true]
  intro hnan
  obtain ⟨s, hys, hds⟩ :=
    Double.exists_infinity_of_isNaN_add hy.isNaN.2 (Double.isNaN_of_isNaN_add hx).2 hnan
  by_cases hs : s = e.sign
  · -- The move goes on from the other side, where it would have been stuck before.
    subst hs
    have hxs := hy.unpack_infinity hys
    have hsum : UnpackedFloat.add .binary64 (.infinity (-e.sign)) (.infinity e.sign) = .notANumber := by
      cases e <;> rfl
    refine Double.unpack_ne_notANumber hx ?_
    show (Float.Model.pack (UnpackedFloat.add .binary64 x.toModel.unpack d.toModel.unpack)).unpack = _
    rw [hxs, hds, hsum]
    rfl
  · -- The move goes away from the edge without end.
    have hback : s = -e.sign := by
      cases e <;> cases s <;> first | rfl | exact absurd rfl hs
    have hsum := Double.unpack_add_infinity hds hx
    rw [hback] at hsum
    cases ((e.toward_origin hw).trans h.past).unpack_infinity hsum

/-- **A move that gets to an edge keeps the coordinate there, and so does the next one.** -/
theorem step (hw : 0 ≤ w) (h : e.Pressed w d x) :
    (Double.clamp (x + d) (-w) w == e.coordinate w) = true ∧ e.Pressed w d (Double.clamp (x + d) (-w) w) := by
  have hedge := clamp_of_toward hw h.past
  obtain ⟨hto, hfrom⟩ := e.toward_of_beq hedge
  have hon := h.within.trans hfrom
  refine ⟨hedge, hto, h.past.trans (hon.add h.past.isNaN.2 (h.isNaN_add hw hon))⟩

end Pressed

/-- A coordinate that keeps to a place at an edge, whichever edge the moves go to. -/
def Keeps (w d b x : Float) : Prop :=
  ∃ e : Edge, (e.coordinate w == b) = true ∧ (x == e.coordinate w) = true ∧ e.Pressed w d x

namespace Keeps

variable {b : Float}

theorem beq (h : Keeps w d b x) : (x == b) = true := by
  obtain ⟨e, hb, hx, -⟩ := h
  exact ((e.toward_of_beq hx).1.trans (e.toward_of_beq hb).1).beq
    ((e.toward_of_beq hb).2.trans (e.toward_of_beq hx).2)

theorem step (hw : 0 ≤ w) (h : Keeps w d b x) : Keeps w d b (Double.clamp (x + d) (-w) w) := by
  obtain ⟨e, hb, -, hpressed⟩ := h
  exact ⟨e, hb, hpressed.step hw⟩

/-- **A move that ends at an edge has pressed to one.** -/
theorem of_clamp (hw : 0 ≤ w) (hx : x.isNaN = true ∨ -w ≤ x ∧ x ≤ w) {f : Edge}
    (h : (Double.clamp (x + d) (-w) w == f.coordinate w) = true) :
    Keeps w d (f.coordinate w) (Double.clamp (x + d) (-w) w) := by
  obtain ⟨e, hpast, hb⟩ := exists_toward_of_clamp hw h
  have hnumber := (Double.isNaN_of_isNaN_add hpast.isNaN.2).1
  obtain ⟨hlow, hhigh⟩ := hx.resolve_left (by rw [hnumber]; decide)
  have hwithin : e.Toward x (e.coordinate w) := by
    cases e with
    | low => exact hlow
    | high => exact hhigh
  exact ⟨e, hb, Pressed.step hw ⟨hwithin, hpast⟩⟩

end Keeps

end Edge

/-! ## Repeated moves -/

namespace Stage

variable {config : StageConfig} {steps : Value} {s t : Stage}

/-- The coordinates of the edges that an extent of the stage has, if it can be halved. -/
def edges (extent : Value) : List Float :=
  match half extent with
  | .ok w => [-w, w]
  | .error _ => []

theorem mem_edges {extent : Value} {w b : Float} (hw : half extent = .ok w) :
    b ∈ edges extent ↔ ∃ e : Edge, b = e.coordinate w := by
  rw [edges, hw]
  constructor
  · intro h
    rcases List.mem_pair.1 h with rfl | rfl
    · exact ⟨.low, rfl⟩
    · exact ⟨.high, rfl⟩
  · rintro ⟨e, rfl⟩
    cases e with
    | low => exact List.mem_pair.2 (.inl rfl)
    | high => exact List.mem_pair.2 (.inr rfl)

/-- What the same move does in the same direction: it goes by the same distance. -/
structure MovesBy (config : StageConfig) (steps : Value) (direction dx dy w h : Float) : Prop where
  width : half config.width = .ok w
  height : half config.height = .ok h
  perform (u : Stage) (hu : u.sprite.direction = direction) : ∃ text, u.perform config .move steps =
    (.ok none, (u.movedTo ⟨Double.clamp (u.sprite.x + dx) (-w) w,
      Double.clamp (u.sprite.y + dy) (-h) h⟩).logging text)

/-- A move that succeeds succeeds from anywhere. -/
theorem exists_movesBy {d : Option Value} (hmove : s.perform config .move steps = (.ok d, t)) :
    ∃ dx dy w h, MovesBy config steps s.sprite.direction dx dy w h := by
  rw [perform_eq] at hmove
  cases hchange : change config .move steps s with
  | error e =>
    rw [hchange] at hmove
    cases hmove
  | ok s' =>
    rw [hchange] at hmove
    cases hline : line .move steps with
    | error e =>
      simp only [hline] at hmove
      cases hmove
    | ok text =>
      obtain ⟨position, hposition, -⟩ := exists_of_map_eq_ok hchange
      obtain ⟨distance, hdistance, hrest⟩ := exists_of_bind_eq_ok hposition
      obtain ⟨x, hcos, hrest⟩ := exists_of_bind_eq_ok hrest
      obtain ⟨dx, hdx, hrest⟩ := exists_of_bind_eq_ok hrest
      obtain ⟨y, hsin, hrest⟩ := exists_of_bind_eq_ok hrest
      obtain ⟨dy, hdy, hrest⟩ := exists_of_bind_eq_ok hrest
      obtain ⟨w, hw, hrest⟩ := exists_of_bind_eq_ok hrest
      obtain ⟨h, hh, -⟩ := exists_of_bind_eq_ok hrest
      -- The distances depend on the direction only, so any stage with that direction moves by them.
      refine ⟨dx, dy, w, h, hw, hh, fun u hu => ⟨text, ?_⟩⟩
      rw [perform_eq]
      simp only [change, destination, hdistance, hu, hcos, hdx, hsin, hdy, hw, hh, hline, delay, bind,
        Except.bind, pure, Except.pure, Except.map]

/-- What calls without a turn do when `n` of them are moves by the same distance. -/
structure Continues (w dx h dy : Float) (n : ℕ) (s t : Stage) : Prop where
  direction : t.sprite.direction = s.sprite.direction
  trail : t.sprite.trail.size = s.sprite.trail.size + n
  x (b : Float) : Edge.Keeps w dx b s.sprite.x → Edge.Keeps w dx b t.sprite.x
  y (b : Float) : Edge.Keeps h dy b s.sprite.y → Edge.Keeps h dy b t.sprite.y

namespace Continues

variable {w dx h dy : Float} {m n : ℕ} {u : Stage}

theorem refl (s : Stage) : Continues w dx h dy 0 s s :=
  ⟨rfl, rfl, fun _ h => h, fun _ h => h⟩

theorem trans (hst : Continues w dx h dy m s t) (htu : Continues w dx h dy n t u) :
    Continues w dx h dy (m + n) s u :=
  ⟨htu.direction.trans hst.direction, by rw [htu.trail, hst.trail, Nat.add_assoc],
    fun b hb => htu.x b (hst.x b hb), fun b hb => htu.y b (hst.y b hb)⟩

/-- One call, which may fail unless it is a move. -/
theorem perform (hw : 0 ≤ w) (hh : 0 ≤ h) {direction : Float}
    (hmoves : MovesBy config steps direction dx dy w h) (hs : s.sprite.direction = direction)
    {op : Operation} {argument : Value} (hturn : op ≠ .turn) (hsteps : op = .move → argument = steps) :
    Continues w dx h dy (if op = .move then 1 else 0) s (s.perform config op argument).2 := by
  by_cases hmove : op = .move
  · obtain ⟨text, htext⟩ := hmoves.perform s hs
    rw [if_pos hmove, hmove, hsteps hmove, htext]
    exact ⟨rfl, Array.size_push _, fun b hb => hb.step hw, fun b hb => hb.step hh⟩
  · rw [if_neg hmove]
    obtain ⟨hsprite, hdirection, htrail⟩ :
        ((s.perform config op argument).2.sprite.x = s.sprite.x ∧
          (s.perform config op argument).2.sprite.y = s.sprite.y) ∧
          (s.perform config op argument).2.sprite.direction = s.sprite.direction ∧
            (s.perform config op argument).2.sprite.trail = s.sprite.trail := by
      rw [sprite_perform]
      cases hchange : change config op argument s with
      | error e => exact ⟨⟨rfl, rfl⟩, rfl, rfl⟩
      | ok t =>
        have hfollows := follows_change hchange ""
        exact ⟨hfollows.position hmove, hfollows.direction hturn, hfollows.trail.trans (if_neg hmove)⟩
    exact ⟨hdirection, by rw [htrail]; rfl, fun b hb => by rwa [hsprite.1], fun b hb => by rwa [hsprite.2]⟩

/-- Any number of calls. -/
theorem after (hw : 0 ≤ w) (hh : 0 ≤ h) {direction : Float}
    (hmoves : MovesBy config steps direction dx dy w h) {calls : List (Operation × Value)}
    (hcalls : ∀ call ∈ calls, call.1 ≠ .turn ∧ (call.1 = .move → call.2 = steps))
    (hs : s.sprite.direction = direction) :
    Continues w dx h dy (calls.countP (·.1 = .move)) s (after config calls s) := by
  induction calls generalizing s with
  | nil => exact refl s
  | cons call calls ih =>
    obtain ⟨hturn, hsteps⟩ := hcalls call (by simp)
    have hcall := perform hw hh hmoves hs hturn hsteps
    have hrest := ih (fun c hc => hcalls c (List.mem_cons_of_mem _ hc)) (hcall.direction.trans hs)
    rw [List.countP_cons, Nat.add_comm]
    simp only [decide_eq_true_eq]
    exact hcall.trans hrest

end Continues

/-- **The edge of the stage is sticky.**  On a stage whose width and height are numbers that are at least
    zero, make any calls of operations and then a move that succeeds, by a finite or an infinite number of
    steps.  If a coordinate of the sprite then equals one of its edges, it equals the same edge after any
    number of moves by as many steps, whatever the other coordinate does and whatever the sprite says and waits
    for in between.  Each of these moves succeeds and adds one point to the trail. -/
theorem edges_hold (hwidth : config.width.isNonnegative = true) (hheight : config.height.isNonnegative = true)
    (calls : List (Operation × Value)) {d : Option Value}
    (hmove : (after config calls {}).perform config .move steps = (.ok d, t))
    {more : List (Operation × Value)}
    (hmore : ∀ call ∈ more, call.1 ≠ .turn ∧ (call.1 = .move → call.2 = steps)) :
    let u := after config more t
    (∀ b ∈ edges config.width, (t.sprite.x == b) = true → (u.sprite.x == b) = true) ∧
      (∀ b ∈ edges config.height, (t.sprite.y == b) = true → (u.sprite.y == b) = true) ∧
        u.sprite.trail.size = t.sprite.trail.size + more.countP (·.1 = .move) ∧
          (u.perform config .move steps).1 = .ok none := by
  intro u
  -- Before the first move the sprite is within its bounds, as it is after any calls.
  have hbounded : (after config calls {}).sprite.Bounded config :=
    after_induction config (P := fun s => s.sprite.Bounded config) (.fresh hwidth hheight)
      fun call _ _ hs => hs.perform hwidth hheight call.1 call.2
  generalize after config calls {} = s at hmove hbounded
  obtain ⟨dx, dy, w, h, hmoves⟩ := exists_movesBy hmove
  have hw := nonneg_half hwidth hmoves.width
  have hh := nonneg_half hheight hmoves.height
  obtain ⟨text, htext⟩ := hmoves.perform s rfl
  obtain ⟨-, rfl⟩ := Prod.mk.inj (hmove.symm.trans htext)
  -- Every later move goes by the same distances, so that it leads further the same way.
  have hcontinues := Continues.after hw hh hmoves hmore
    (s := (s.movedTo ⟨Double.clamp (s.sprite.x + dx) (-w) w, Double.clamp (s.sprite.y + dy) (-h) h⟩).logging text)
    rfl
  have hx := hbounded.x
  have hy := hbounded.y
  rw [WithinExtent, hmoves.width] at hx
  rw [WithinExtent, hmoves.height] at hy
  refine ⟨fun b hb hon => ?_, fun b hb hon => ?_, hcontinues.trail, ?_⟩
  · obtain ⟨e, rfl⟩ := (mem_edges hmoves.width).1 hb
    exact (hcontinues.x _ (.of_clamp hw hx hon)).beq
  · obtain ⟨e, rfl⟩ := (mem_edges hmoves.height).1 hb
    exact (hcontinues.y _ (.of_clamp hh hy hon)).beq
  · obtain ⟨text', htext'⟩ := hmoves.perform u hcontinues.direction
    exact congrArg Prod.fst htext'

/-- Endless moves on a stage without any width, the two edges of which are the two zeros, and with no end
    above. -/
theorem edges_hold_endless :
    let config : StageConfig := { width := .int 0, height := .float (Double.infinity false) }
    let calls : List (Operation × Value) := [(.turn, .int (-30)), (.move, .text "far")]
    let steps : Value := .float (Double.infinity false)
    let more : List (Operation × Value) := [(.move, steps), (.say, .text "here"), (.move, steps)]
    edges config.width = [-0.0, 0.0] ∧ edges config.height = [Double.infinity true, Double.infinity false] ∧
      ∃ t, (after config calls {}).perform config .move steps = (.ok none, t) ∧
        (∀ b ∈ edges config.height, (t.sprite.y == b) = true →
          ((after config more t).sprite.y == b) = true) ∧
            (after config more t).sprite.trail.size = t.sprite.trail.size + 2 := by
  intro config calls steps more
  have hmore : ∀ call ∈ more, call.1 ≠ .turn ∧ (call.1 = .move → call.2 = steps) := by
    simp [more]
  obtain ⟨t, ht⟩ : ∃ t, (after config calls {}).perform config .move steps = (.ok none, t) := by
    obtain ⟨d, hd, hnone⟩ := exists_of_any_toOption (p := Option.isNone)
      (x := ((after config calls {}).perform config .move steps).1) (by decide +kernel)
    obtain rfl := Option.isNone_iff_eq_none.1 hnone
    exact ⟨_, Prod.ext hd rfl⟩
  obtain ⟨-, hy, htrail, -⟩ := edges_hold (by decide +kernel) (by decide +kernel) calls ht hmore
  exact ⟨by rfl, by rfl, t, ht, hy, htrail⟩

end Stage

end SpriteStage
