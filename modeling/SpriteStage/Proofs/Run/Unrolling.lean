import SpriteStage.Run.Interpreter

/-!
# Loops written out

A list of instructions may be executed in two parts, and a loop does what its body does when it is written
as often as the loop goes round.

## Main results

* `Course.executeAll_append` executes lists one after the other
* `Course.execute_loop` writes a loop out
-/

namespace SpriteStage.Course

variable (config : StageConfig)

theorem andThen_assoc (x : Course) (f g : Scene → Course) :
    (x.andThen f).andThen g = x.andThen fun s => (f s).andThen g := by
  rw [andThen, andThen, andThen, Resumption.bind_assoc]
  congr 1
  funext outcome
  cases outcome <;> rfl

theorem done_andThen (s : Scene) (f : Scene → Course) : andThen (.done (.ok s)) f = f s := rfl

/-- **Executing two lists of instructions** in a row is executing both of them, one after the other. -/
theorem executeAll_append (p q : List Instruction) (s : Scene) :
    executeAll config (p ++ q) s = (executeAll config p s).andThen (executeAll config q) := by
  induction p generalizing s with
  | nil => rw [List.nil_append, executeAll_nil, done_andThen]
  | cons i p ih =>
    rw [List.cons_append, executeAll_cons, executeAll_cons, andThen_assoc]
    congr 1
    funext t
    exact ih t

/-- Going rounds is executing the body as often. -/
theorem iterate_executeAll (body : List Instruction) (n : Nat) (s : Scene) :
    iterate (executeAll config body) n s = executeAll config (List.replicate n body).flatten s := by
  induction n generalizing s with
  | zero => rw [iterate_zero, List.replicate_zero, List.flatten_nil, executeAll_nil]
  | succ n ih =>
    rw [iterate_succ, List.replicate_succ, List.flatten_cons, executeAll_append]
    congr 1
    funext t
    exact ih t

/-- **A loop** whose number of rounds is found does what its body does, written as often. -/
theorem execute_loop {times : Value} {n : Nat} (h : repeatCount times = .ok n) (body : List Instruction)
    {s : Scene} (hs : s.abandoned = false) :
    execute config (.loop times body) s = executeAll config (List.replicate n body).flatten s := by
  rw [execute, hs, h]
  exact iterate_executeAll config body n s

end SpriteStage.Course
