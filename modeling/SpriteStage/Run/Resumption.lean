import SpriteStage.Value.Basic

/-!
# Computations that sleep

A `Resumption` either has an answer, or sleeps for a delay and goes on once it is woken.  How it was
woken, and whether it was abandoned meanwhile, is told to it in a `Wake`.  Computations are finite
trees, so that what a sleeping one does later is a value like any other.  One that is given up in
its sleep is just never woken.
-/

namespace SpriteStage

/-- The name of a kind of failure. -/
structure FailureName where
  text : String
  /-- Every kind has a name, so that a failure without a message can still be told. -/
  ne_empty : text ≠ ""
  deriving DecidableEq, Repr

/-- How a failure is called that is of no kind in particular. -/
def FailureName.runtime : FailureName := ⟨"RuntimeError", by decide⟩

/-- How a sleep ended. -/
inductive WakeReason where
  /-- The time was up. -/
  | elapsed
  /-- The sleep failed with a message, which may be empty. -/
  | failed (message : String) (name : FailureName := .runtime)
  deriving DecidableEq, Repr

/-- What a computation is told when it is woken. -/
structure Wake where
  reason : WakeReason := .elapsed
  /-- Whether the computation has been abandoned by now. -/
  abandoned : Bool := false
  deriving DecidableEq, Repr

/-- A computation that may sleep before it has an answer. -/
inductive Resumption (α : Type) where
  | done (answer : α)
  | sleeping (delay : Value) (resume : Wake → Resumption α)

namespace Resumption

variable {α β γ : Type}

/-- Goes on with the answer of a computation. -/
def bind : Resumption α → (α → Resumption β) → Resumption β
  | .done a, next => next a
  | .sleeping delay resume, next => .sleeping delay fun w => (resume w).bind next

instance : Monad Resumption where
  pure := .done
  bind := bind

@[simp] theorem bind_done (a : α) (next : α → Resumption β) : (done a).bind next = next a := rfl

@[simp] theorem bind_sleeping (delay : Value) (resume : Wake → Resumption α)
    (next : α → Resumption β) :
    (sleeping delay resume).bind next = .sleeping delay fun w => (resume w).bind next := rfl

/-- A computation that goes on with its own answer is that computation. -/
@[simp] theorem bind_pure (x : Resumption α) : x.bind .done = x := by
  induction x with
  | done a => rfl
  | sleeping delay resume ih => simp [ih]

/-- Going on twice is going on with what goes on. -/
theorem bind_assoc (x : Resumption α) (f : α → Resumption β) (g : β → Resumption γ) :
    (x.bind f).bind g = x.bind fun a => (f a).bind g := by
  induction x with
  | done a => rfl
  | sleeping delay resume ih => simp [ih]

/-- The delays and the answer of a computation whose sleeps end as `wakes` says, which counts them
    from `k` on. -/
def completeFrom (wakes : Nat → Wake) : Nat → Resumption α → List Value × α
  | _, .done a => ([], a)
  | k, .sleeping delay resume =>
    let (delays, a) := (resume (wakes k)).completeFrom wakes (k + 1)
    (delay :: delays, a)

/-- The delays and the answer of a computation all of whose sleeps end in the same way. -/
def complete (w : Wake) (x : Resumption α) : List Value × α := x.completeFrom (fun _ => w) 0

end Resumption

end SpriteStage
