import Colloquy.Run

/-!
# Tasks

A task is a computation in steps, and between two of its steps other tasks may go on.  `Task.gather` runs tasks side
by side: all of them are started in order, and then a schedule says which one goes on.  The answers of all tasks are
the answer, and the first failure of a task is the failure; the tasks that are suspended by then go on by themselves.
-/

namespace Colloquy

/-- A computation in steps: it has ended, or its next step leaves a state and what there is to do from there. -/
inductive Task (σ α : Type) where
  | ended (outcome : Except Failure α)
  | suspended (next : Surroundings σ → State σ → Task σ α) (left : Surroundings σ → State σ → State σ)

namespace Task

variable {σ α β : Type}

/-! ### Single tasks -/

/-- A run without a break. -/
def ofRun (r : Run σ α) : Task σ α :=
  suspended (fun w s => ended (r.exec w s).1) fun w s => (r.exec w s).2

/-- Makes the next step of a task. -/
def step : Task σ α → Run σ (Task σ α)
  | ended outcome => return ended outcome
  | suspended next left => fun w s => (.ok (next w s), left w s)

/-- Runs a task to its end. -/
def finish : Task σ α → Run σ α
  | ended outcome => Run.ofExcept outcome
  | suspended next left => fun w s => finish (next w s) w (left w s)

/-- The failure that a task has ended with. -/
def failure? : Task σ α → Option Failure
  | ended (.error f) => some f
  | _ => none

/-- A task and a run that follows it, which belongs to its last step. -/
def andThen (k : Except Failure α → Run σ β) : Task σ α → Task σ β
  | ended outcome => ofRun (k outcome)
  | suspended next left => suspended
      (fun w s =>
        match next w s with
        | ended outcome => ended ((k outcome).exec w (left w s)).1
        | suspended .. => andThen k (next w s))
      fun w s =>
        match next w s with
        | ended outcome => ((k outcome).exec w (left w s)).2
        | suspended .. => left w s

/-! ### Tasks side by side -/

/-- Tasks that have been started, and the first failure that one of them has ended with. -/
structure Race (σ α : Type) where
  tasks : List (Task σ α)
  failed : Option Failure

/-- Starts tasks in their order. -/
def start (tasks : List (Task σ α)) : Run σ (Race σ α) := do
  let tasks ← tasks.mapM step
  return { tasks, failed := tasks.findSome? failure? }

/-- The task with an index goes on. -/
def Race.resume (r : Race σ α) (i : Nat) : Run σ (Race σ α) := do
  match r.tasks[i]? with
  | none => return r
  | some t => do
    let t ← t.step
    return { tasks := r.tasks.set i t, failed := r.failed.or t.failure? }

/-- Raises the first failure, or else runs all tasks to their ends. -/
def Race.finish (r : Race σ α) : Run σ (List α) :=
  match r.failed with
  | some f => throw f
  | none => r.tasks.mapM Task.finish

/-- Runs tasks side by side.  Those that the schedule leaves suspended go on in their order. -/
def gather (schedule : List Nat) (tasks : List (Task σ α)) : Run σ (List α) := do
  let started ← start tasks
  let race ← schedule.foldlM Race.resume started
  race.finish

end Task

end Colloquy
