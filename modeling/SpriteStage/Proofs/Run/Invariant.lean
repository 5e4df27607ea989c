import SpriteStage.Proofs.Playground.Ownership

/-!
# Invariants of runs

What every operation of a program keeps of a stage holds at the end of every run of the program,
however the sleeps of the run end and whenever it is abandoned.

## Main definitions

* `Program.calls` lists the operations of a program with their arguments, at every depth
* `Stage.KeptBy` says that the operations of a list keep a property of stages
-/

namespace SpriteStage

/-- A computation whose answers go on to answers with a property has such answers. -/
theorem Resumption.Answers.andThen {α β : Type} {P : α → Prop} {Q : β → Prop}
    {next : α → Resumption β} {x : Resumption α} (hx : x.Answers P)
    (hnext : ∀ a, P a → (next a).Answers Q) : (x.bind next).Answers Q := by
  induction x with
  | done a => exact hnext a hx
  | sleeping delay resume ih => exact fun w => ih w (hx w)

/-- What all answers have implies what they are asked for. -/
theorem Resumption.Answers.imp {α : Type} {P Q : α → Prop} {x : Resumption α} (hx : x.Answers P)
    (h : ∀ a, P a → Q a) : x.Answers Q := by
  induction x with
  | done a => exact h a hx
  | sleeping delay resume ih => exact fun w => ih w (hx w)

/-! ## The operations of a program -/

mutual

/-- The operations of an instruction with their arguments. -/
def Instruction.calls : Instruction → List (Operation × Value)
  | .call op argument => [(op, argument)]
  | .loop _ body | .group body => Program.calls body
  | .fail _ | .unsupported _ => []

/-- The operations of a program with their arguments, at every depth. -/
def Program.calls : List Instruction → List (Operation × Value)
  | [] => []
  | i :: rest => i.calls ++ Program.calls rest

end

/-- Operations that do not fail keep a property of stages. -/
def Stage.KeptBy (config : StageConfig) (Inv : Stage → Prop) (calls : List (Operation × Value)) :
    Prop :=
  ∀ op argument, (op, argument) ∈ calls → ∀ s delay t, Inv s →
    s.perform config op argument = (.ok delay, t) → Inv t

/-! ## Parts of runs -/

namespace Course

variable {config : StageConfig} {Inv : Stage → Prop}

/-- A part of a run ends with a stage that has a property, unless it stops. -/
def Ends (x : Course) (Inv : Stage → Prop) : Prop :=
  x.Answers fun outcome => ∀ s, outcome = .ok s → Inv s.stage

theorem Ends.done {s : Scene} (h : Inv s.stage) : Ends (.done (.ok s)) Inv := by
  rintro t ⟨⟩
  exact h

theorem Ends.stop (e : Stop) : Ends (.done (.error e)) Inv := by
  rintro s ⟨⟩

theorem Ends.andThen {x : Course} {next : Scene → Course} (hx : x.Ends Inv)
    (hnext : ∀ s, Inv s.stage → (next s).Ends Inv) : (x.andThen next).Ends Inv := by
  refine Resumption.Answers.andThen hx fun outcome houtcome => ?_
  cases outcome with
  | ok s => exact hnext s (houtcome s rfl)
  | error e => exact Ends.stop e

/-- An operation that keeps a property ends with it. -/
theorem ends_operate {op : Operation} {argument : Value}
    (hkept : Stage.KeptBy config Inv [(op, argument)]) {s : Scene} (hs : Inv s.stage) :
    (operate config op argument s).Ends Inv := by
  unfold operate
  rcases hperform : s.stage.perform config op argument with ⟨e | (_ | delay), t⟩
  · exact .stop _
  · exact .done (hkept op argument (by simp) _ _ _ hs hperform)
  · -- The stage stays what it is in the sleep.
    have ht : Inv t := hkept op argument (by simp) _ _ _ hs hperform
    intro w
    unfold wake
    cases w.reason with
    | elapsed => exact Ends.done ht
    | failed message => exact Ends.stop _

/-- Rounds that keep a property end with it. -/
theorem ends_iterate {round : Scene → Course} (hround : ∀ s, Inv s.stage → (round s).Ends Inv)
    (n : Nat) {s : Scene} (hs : Inv s.stage) : (iterate round n s).Ends Inv := by
  induction n generalizing s with
  | zero => exact .done hs
  | succ n ih =>
    rw [iterate_succ]
    exact (hround s hs).andThen fun t ht => ih ht

mutual

/-- An instruction whose operations keep a property ends with it. -/
theorem ends_execute :
    ∀ (i : Instruction), Stage.KeptBy config Inv i.calls → ∀ s : Scene, Inv s.stage →
      (execute config i s).Ends Inv
  | .call op argument, hkept, s, hs => by
    rw [execute]
    split
    · exact .stop _
    · exact ends_operate hkept hs
  | .loop times body, hkept, s, hs => by
    rw [execute]
    split
    · exact .stop _
    · cases repeatCount times with
      | error e => exact .stop _
      | ok n => exact ends_iterate (ends_executeAll body hkept) n hs
  | .group body, hkept, s, hs => by
    rw [execute]
    split
    · exact .stop _
    · exact ends_executeAll body hkept s hs
  | .fail message, _, s, _ => by
    rw [execute]
    exact .stop _
  | .unsupported typeName, _, s, _ => by
    rw [execute]
    exact .stop _

/-- A program whose operations keep a property ends with it. -/
theorem ends_executeAll :
    ∀ (p : List Instruction), Stage.KeptBy config Inv (Program.calls p) → ∀ s : Scene,
      Inv s.stage → (executeAll config p s).Ends Inv
  | [], _, s, hs => by
    rw [executeAll_nil]
    exact .done hs
  | i :: rest, hkept, s, hs => by
    rw [executeAll_cons]
    refine (ends_execute i ?_ s hs).andThen fun t ht => ends_executeAll rest ?_ t ht
    · exact fun op v hmem => hkept op v (List.mem_append_left _ hmem)
    · exact fun op v hmem => hkept op v (List.mem_append_right _ hmem)

end

end Course

/-- **What all operations of a program keep holds at the end of every run of it** that completes. -/
theorem Run.answers_of_keptBy {r : Run} {p : Program} (hp : r.program.1 = .ok p)
    {Inv : Stage → Prop} (hfresh : Inv {}) (hkept : Stage.KeptBy r.config Inv (Program.calls p)) :
    r.course.Answers fun result => ∀ sprite log, result.outcome = .completed sprite log →
      ∃ s : Stage, Inv s ∧ sprite = s.sprite ∧ log = s.history := by
  rw [course, hp]
  have hends := Course.ends_executeAll p hkept { abandoned := r.abandoned } hfresh
  refine Resumption.Answers.andThen hends fun outcome houtcome => ?_
  intro sprite log hcompleted
  cases outcome with
  | error e => cases hcompleted
  | ok s =>
    cases hcompleted
    exact ⟨s.stage, houtcome s rfl, rfl, rfl⟩

end SpriteStage
