import SpriteStage.Run.Run

/-!
# Programs as lists of moments

A program is a tree of loops and groups.  Here it is unrolled into the flat list of what happens in
it: each instruction is dispatched, and an operation is carried out or a failure strikes.  Playing
that list on a stage needs no nesting, and `completeFrom_executeAll` says that it is what executing
the tree does, however the sleeps end and whenever the run is abandoned.

## Main definitions

* `Moment` is a dispatch, an operation or a failure
* `Program.moments` unrolls a program
* `Moment.play` plays moments on the scene of a run
-/

namespace SpriteStage

/-! ## Answers of computations that sleep in turn -/

namespace Resumption

variable {α β : Type}

/-- A computation that goes on with another one has the delays of both; the sleeps of the second one
    are counted after those of the first. -/
theorem completeFrom_bind (wakes : Nat → Wake) (x : Resumption α) (next : α → Resumption β) (k : Nat) :
    (x.bind next).completeFrom wakes k =
      let first := x.completeFrom wakes k
      let second := (next first.2).completeFrom wakes (k + first.1.length)
      (first.1 ++ second.1, second.2) := by
  induction x generalizing k with
  | done a => simp [completeFrom]
  | sleeping delay resume ih =>
    simp only [bind_sleeping, completeFrom, ih]
    simp [Nat.add_assoc, Nat.add_comm 1]

/-- Changing the answer of a computation leaves its delays as they are. -/
theorem completeFrom_bind_done (wakes : Nat → Wake) (x : Resumption α) (f : α → β) (k : Nat) :
    (x.bind fun a => .done (f a)).completeFrom wakes k =
      ((x.completeFrom wakes k).1, f (x.completeFrom wakes k).2) := by
  simp [completeFrom_bind, completeFrom]

theorem complete_bind_done (w : Wake) (x : Resumption α) (f : α → β) :
    (x.bind fun a => .done (f a)).complete w = ((x.complete w).1, f (x.complete w).2) :=
  completeFrom_bind_done _ x f 0

end Resumption

/-! ## Unrolling -/

/-- What happens in a program: an instruction is dispatched, an operation is carried out, or a
    failure strikes. -/
inductive Moment where
  | dispatch (instruction : Instruction)
  | operation (op : Operation) (argument : Value)
  | failure (cause : Stop)

mutual

/-- The moments of an instruction.  A loop has those of its body as often as it goes round. -/
def Instruction.moments : Instruction → List Moment
  | .call op argument => [.dispatch (.call op argument), .operation op argument]
  | .loop times body =>
    .dispatch (.loop times body) ::
      match repeatCount times with
      | .ok n => (List.replicate n (Program.moments body)).flatten
      | .error e => [.failure (.operation e)]
  | .group body => .dispatch (.group body) :: Program.moments body
  | .fail message => [.dispatch (.fail message), .failure (.fault message)]
  | .unsupported typeName => [.dispatch (.unsupported typeName), .failure (.unsupported typeName)]

/-- The moments of a program, one instruction after the other. -/
def Program.moments : List Instruction → List Moment
  | [] => []
  | i :: rest => i.moments ++ Program.moments rest

end

/-! ## Playing moments -/

namespace Moment

/-- Plays moments on a scene: the delays that are slept for, and how it ends.  The sleeps end as
    `wakes` says, which counts them from `k` on.  A dispatch is where abandonment is noticed. -/
def play (config : StageConfig) (wakes : Nat → Wake) :
    Nat → List Moment → Scene → List Value × Except Stop Scene
  | _, [], s => ([], .ok s)
  | k, .dispatch _ :: rest, s =>
    if s.abandoned then ([], .error .abandoned) else play config wakes k rest s
  | _, .failure cause :: _, _ => ([], .error cause)
  | k, .operation op argument :: rest, s =>
    match s.stage.perform config op argument with
    | (.error e, _) => ([], .error (.operation e))
    | (.ok none, stage) => play config wakes k rest { s with stage := stage }
    | (.ok (some delay), stage) =>
      match (wakes k).reason with
      | .failed message name => ([delay], .error (.sleep message name))
      | .elapsed =>
        let later := play config wakes (k + 1) rest ⟨stage, (wakes k).abandoned⟩
        (delay :: later.1, later.2)

variable (config : StageConfig) (wakes : Nat → Wake)

/-- Playing two lists of moments is playing the second one after the first has come to its end. -/
theorem play_append (xs ys : List Moment) (k : Nat) (s : Scene) :
    play config wakes k (xs ++ ys) s =
      match play config wakes k xs s with
      | (delays, .ok t) =>
        let later := play config wakes (k + delays.length) ys t
        (delays ++ later.1, later.2)
      | (delays, .error e) => (delays, .error e) := by
  -- By induction on the first list; a sleep in it moves the count of the second one.
  induction xs generalizing k s with
  | nil => simp [play]
  | cons m xs ih =>
    cases m with
    | dispatch i =>
      simp only [List.cons_append, play]
      split
      · rfl
      · exact ih k s
    | failure cause => rfl
    | operation op argument =>
      simp only [List.cons_append, play]
      split
      · rfl
      · exact ih k _
      · split
        · rfl
        · rw [ih]
          cases h : play config wakes (k + 1) xs _ with
          | mk delays outcome =>
            cases outcome with
            | error e => rfl
            | ok t => simp [Nat.add_assoc, Nat.add_comm 1]

end Moment

/-! ## Executing is playing -/

namespace Course

variable (config : StageConfig) (wakes : Nat → Wake)

/-- A part that plays like `xs`, and then one that plays like `ys`, plays like both. -/
theorem completeFrom_andThen {x : Course} {next : Scene → Course} {xs ys : List Moment} {k : Nat}
    {s : Scene} (hx : x.completeFrom wakes k = Moment.play config wakes k xs s)
    (hnext : ∀ t j, (next t).completeFrom wakes j = Moment.play config wakes j ys t) :
    (x.andThen next).completeFrom wakes k = Moment.play config wakes k (xs ++ ys) s := by
  rw [andThen, Resumption.completeFrom_bind, Moment.play_append, hx]
  cases Moment.play config wakes k xs s with
  | mk delays outcome =>
    cases outcome with
    | error e => simp [Resumption.completeFrom]
    | ok t => simp [hnext]

theorem completeFrom_operate (op : Operation) (argument : Value) (s : Scene) (k : Nat) :
    (operate config op argument s).completeFrom wakes k =
      Moment.play config wakes k [.operation op argument] s := by
  unfold operate
  simp only [Moment.play]
  cases h : s.stage.perform config op argument with
  | mk outcome stage =>
    cases outcome with
    | error e => rfl
    | ok slept =>
      cases slept with
      | none => rfl
      | some delay =>
        simp only [Resumption.completeFrom, wake]
        cases (wakes k).reason <;> rfl

/-- Going rounds plays the moments of one round as often. -/
theorem completeFrom_iterate {round : Scene → Course} {xs : List Moment}
    (hround : ∀ s k, (round s).completeFrom wakes k = Moment.play config wakes k xs s) (n : Nat)
    (s : Scene) (k : Nat) :
    (iterate round n s).completeFrom wakes k =
      Moment.play config wakes k (List.replicate n xs).flatten s := by
  -- By induction on the rounds: one round goes before the others.
  induction n generalizing s k with
  | zero => rfl
  | succ n ih =>
    rw [iterate_succ, List.replicate_succ, List.flatten_cons]
    exact completeFrom_andThen config wakes (hround s k) ih

mutual

/-- Executing an instruction plays its moments. -/
theorem completeFrom_execute :
    ∀ (i : Instruction) (s : Scene) (k : Nat),
      (execute config i s).completeFrom wakes k = Moment.play config wakes k i.moments s
  | .call op argument, s, k => by
    rw [execute, Instruction.moments, Moment.play]
    split
    · rfl
    · exact completeFrom_operate config wakes op argument s k
  | .loop times body, s, k => by
    rw [execute, Instruction.moments, Moment.play]
    split
    · rfl
    · cases repeatCount times with
      | error e => rfl
      | ok n =>
        exact completeFrom_iterate config wakes (completeFrom_executeAll body) n s k
  | .group body, s, k => by
    rw [execute, Instruction.moments, Moment.play]
    split
    · rfl
    · exact completeFrom_executeAll body s k
  | .fail message, s, k => by
    rw [execute, Instruction.moments, Moment.play]
    cases s.abandoned <;> rfl
  | .unsupported typeName, s, k => by
    rw [execute, Instruction.moments, Moment.play]
    cases s.abandoned <;> rfl

/-- Executing instructions plays their moments. -/
theorem completeFrom_executeAll :
    ∀ (p : List Instruction) (s : Scene) (k : Nat),
      (executeAll config p s).completeFrom wakes k =
        Moment.play config wakes k (Program.moments p) s
  | [], s, k => by
    rw [executeAll_nil, Program.moments]
    rfl
  | i :: rest, s, k => by
    rw [executeAll_cons, Program.moments]
    exact completeFrom_andThen config wakes (completeFrom_execute i s k)
      (completeFrom_executeAll rest)

end

end Course

end SpriteStage
