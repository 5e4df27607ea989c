import SpriteStage.Proofs.Playground.Commitment

/-!
# What a playground may show

A playground shows nothing but what runs have ended with.  So a property of sprites that every run ends
with holds of the sprite of a playground, whatever happens to it.

## Main definitions

* `Playground.Shows` is the invariant: the sprite and what sleeping runs end with have a property
-/

namespace SpriteStage.Playground

/-- The sprite has a property, and so has all that sleeping runs may end with. -/
structure Shows (Good : Sprite → Prop) (Ends : RunResult → Prop) (p : Playground) : Prop where
  sprite : Good p.sprite
  flights : ∀ f ∈ p.flights, ∀ w, (f.resume w).Answers Ends

namespace Shows

variable {Good : Sprite → Prop} {Ends : RunResult → Prop} {p q : Playground}

theorem congr (h : Shows Good Ends p) (hsprite : q.sprite = p.sprite)
    (hflights : ∀ f ∈ q.flights, f ∈ p.flights) : Shows Good Ends q where
  sprite := hsprite ▸ h.sprite
  flights f hf := h.flights f (hflights f hf)

/-- A run that is carried on shows what it ends with, if it is the active one. -/
theorem advance (hends : ∀ r, Ends r → ∀ s ∈ r.outcome.sprite?, Good s) (h : Shows Good Ends p)
    {run : Run} {x : Resumption RunResult} (hx : x.Answers Ends) {progress : Progress}
    (hadvance : p.advance run x = (q, progress)) :
    Shows Good Ends q ∧ ∀ r ∈ progress.result?, Ends r := by
  cases x with
  | sleeping delay resume =>
    cases hadvance
    refine ⟨⟨h.sprite, ?_⟩, by simp [Progress.result?]⟩
    intro f hf
    rcases List.mem_cons.1 hf with rfl | hf
    · exact hx
    · exact h.flights f hf
  | done result =>
    cases hadvance
    have hresult : Ends result := hx
    refine ⟨?_, by simpa [Progress.result?] using hresult⟩
    rw [land]
    split
    · refine ⟨?_, h.flights⟩
      rw [commit]
      -- A failed run leaves the sprite.
      cases houtcome : result.outcome with
      | completed sprite log => exact hends result hresult sprite (by rw [houtcome]; rfl)
      | failed error => exact h.sprite
    · exact h

/-- Every event keeps what is shown good, if a run that it starts ends well; and if a run ends in it, it
    ends well. -/
theorem step (hends : ∀ r, Ends r → ∀ s ∈ r.outcome.sprite?, Good s) (hfresh : Good {})
    (h : Shows Good Ends p) {e : Event}
    (hstart : ∀ program, e = .start program → (p.engage program).2.course.Answers Ends) :
    Shows Good Ends (p.step e) ∧
      ∀ runId progress, p.outcome? e = some (runId, progress) → ∀ r ∈ progress.result?, Ends r := by
  have ht := p.transition e
  generalize p.step e = q, p.outcome? e = outcome at ht ⊢
  cases ht with
  | refused _ _ => exact ⟨h, by simp⟩
  | edited _ _ _ source output => exact ⟨h.congr rfl fun f hf => hf, by simp⟩
  | started hidle program hadvance =>
    have hengaged : Shows Good Ends (p.engage program).1 := h.congr rfl fun f hf => hf
    obtain ⟨hq, hprogress⟩ := hengaged.advance hends (hstart program rfl) hadvance
    refine ⟨hq, ?_⟩
    rintro runId progress ⟨⟩
    exact hprogress
  | woken f hf reason hadvance =>
    have hroused : Shows Good Ends (p.withoutFlight f.run.runId) :=
      h.congr rfl fun g hg => (List.mem_filter.1 hg).1
    have hx := h.flights f (p.mem_of_flight? hf).1 { reason := reason, abandoned := f.run.abandoned }
    obtain ⟨hq, hprogress⟩ := hroused.advance hends hx hadvance
    refine ⟨hq, ?_⟩
    rintro runId progress ⟨⟩
    exact hprogress
  | cancelled f hf => exact ⟨h.congr rfl fun g hg => (List.mem_filter.1 hg).1, by simp⟩
  | reset =>
    refine ⟨⟨hfresh, ?_⟩, by simp⟩
    intro f hf w
    obtain ⟨g, hg, rfl⟩ := List.mem_map.1 hf
    -- A run that is told of the reset does the same when it is woken.
    have hresume : (g.abandon p.active).resume = g.resume := by
      rw [Flight.abandon]
      split <;> rfl
    exact hresume ▸ h.flights g hg w

end Shows

end SpriteStage.Playground
