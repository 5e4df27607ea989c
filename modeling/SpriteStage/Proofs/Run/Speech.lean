import SpriteStage.Proofs.Failure
import SpriteStage.Stage.Operation

/-!
# What a sprite says

Only `say` changes what a sprite says, and no operation looks at it.  So an operation on a number does
the same to two stages that differ in the speech alone.

## Main definitions

* `Stage.withSpeech` is a stage whose sprite says something else
* `StageAction.IgnoresSpeech` holds of actions that neither look at the speech nor change it
-/

namespace SpriteStage

/-- A stage whose sprite says something else. -/
def Stage.withSpeech (s : Stage) (speech : Value) : Stage :=
  { s with sprite := { s.sprite with speech := speech } }

namespace StageAction

variable {α β : Type}

/-- Whatever the sprite says, an action does the same and leaves the speech. -/
def IgnoresSpeech (m : StageAction α) : Prop :=
  ∀ (s : Stage) (speech : Value),
    m.run (s.withSpeech speech) = ((m.run s).1, (m.run s).2.withSpeech speech)

variable {m : StageAction α} {f : α → StageAction β}

theorem IgnoresSpeech.pure (a : α) : IgnoresSpeech (Pure.pure a) := fun _ _ => rfl

theorem IgnoresSpeech.lift (x : Except OperationError α) :
    IgnoresSpeech (liftM x : StageAction α) := by
  intro s speech
  cases x <;> rfl

theorem IgnoresSpeech.bind (h : IgnoresSpeech m) (hf : ∀ a, IgnoresSpeech (f a)) :
    IgnoresSpeech (m >>= f) := by
  intro s speech
  rw [run_bind_apply, run_bind_apply, h s speech]
  rcases m.run s with ⟨e | a, t⟩
  · rfl
  · exact hf a t speech

theorem IgnoresSpeech.update {g : Stage → Stage}
    (hg : ∀ s speech, g (Stage.withSpeech s speech) = (g s).withSpeech speech) :
    IgnoresSpeech (modify g) := by
  intro s speech
  exact congrArg (Prod.mk _) (hg s speech)

/-- What is looked at is not the speech. -/
theorem IgnoresSpeech.get_bind {k : Stage → StageAction β} (hk : ∀ s, IgnoresSpeech (k s))
    (hblind : ∀ s speech, k (Stage.withSpeech s speech) = k s) : IgnoresSpeech (get >>= k) := by
  intro s speech
  have hrun : ∀ s : Stage, (get >>= k).run s = (k s).run s := fun s => rfl
  rw [hrun, hrun, hblind]
  exact hk s s speech

theorem ignoresSpeech_record (line : String) : IgnoresSpeech (Stage.record line) :=
  .update fun _ _ => rfl

theorem ignoresSpeech_place (config : StageConfig) (x y : Float) :
    IgnoresSpeech (Stage.place config x y) :=
  .bind (.lift _) fun _ => .bind (.lift _) fun _ => .update fun _ _ => rfl

theorem ignoresSpeech_move (config : StageConfig) (steps : Value) :
    IgnoresSpeech (Stage.move config steps) := by
  refine .bind (.lift _) fun distance => .get_bind (fun s => ?_) fun _ _ => rfl
  refine .bind (.lift _) fun cosine => .bind (.lift _) fun dx => ?_
  refine .bind (.lift _) fun sine => .bind (.lift _) fun dy => ?_
  refine .bind (ignoresSpeech_place config _ _) fun _ => ?_
  exact .bind (.lift _) fun line => ignoresSpeech_record _

theorem ignoresSpeech_turn (degrees : Value) : IgnoresSpeech (Stage.turn degrees) := by
  refine .get_bind (fun s => ?_) fun _ _ => rfl
  refine .bind (.lift _) fun direction => .bind (.update fun _ _ => rfl) fun _ => ?_
  refine .bind (.lift _) fun isRight => .bind (.lift _) fun magnitude => .bind (.lift _) fun line => ?_
  exact ignoresSpeech_record _

theorem ignoresSpeech_wait (config : StageConfig) (seconds : Value) :
    IgnoresSpeech (Stage.wait config seconds) := by
  refine .bind (.lift _) fun duration => .bind (.lift _) fun length =>
    .bind (ignoresSpeech_record _) fun _ => ?_
  split
  · exact .pure none
  · refine .bind (.lift _) fun delay => .bind (.lift _) fun isPositive => ?_
    exact .pure _

/-- Operations on numbers do not look at what the sprite says. -/
theorem ignoresSpeech_operate (config : StageConfig) {op : Operation} (h : op.isNumeric = true)
    (argument : Value) : IgnoresSpeech (Stage.operate config op argument) := by
  cases op with
  | move => exact .bind (ignoresSpeech_move config argument) fun _ => .pure none
  | turn => exact .bind (ignoresSpeech_turn argument) fun _ => .pure none
  | wait => exact ignoresSpeech_wait config argument
  | say => cases h

end StageAction

namespace Stage

variable (config : StageConfig)

/-- An operation on a number leaves the speech. -/
theorem speech_perform {op : Operation} (hop : op.isNumeric = true) (argument : Value) (s : Stage) :
    (s.perform config op argument).2.sprite.speech = s.sprite.speech :=
  congrArg (·.2.sprite.speech)
    (StageAction.ignoresSpeech_operate config hop argument s s.sprite.speech)

/-- What is said has been logged, or else the operation has failed. -/
theorem perform_say {message : Value} {delay : Option Value} {s t : Stage}
    (h : s.perform config .say message = (.ok delay, t)) :
    t.sprite.speech = message ∧ ∃ line, message.logged = .ok line := by
  have hrun : (operate config .say message).run s = (.ok delay, t) := h
  simp only [operate, say] at hrun
  cases hlogged : message.logged with
  | error e =>
    rw [hlogged] at hrun
    cases hrun
  | ok line =>
    rw [hlogged] at hrun
    cases hrun
    exact ⟨rfl, line, rfl⟩

end Stage

end SpriteStage
