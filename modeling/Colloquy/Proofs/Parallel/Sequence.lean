import Colloquy.Proofs.Task
import Colloquy.Template.Parallel

/-!
# Branches one after the other

Sources that answer without a break are asked one after the other: a parallel template runs all its branches
(`runBranches`) before the first failure among them is raised (`run_eq`).
-/

namespace Colloquy.Parallel

variable {σ : Type}

/-- The outcome of one branch. -/
def runBranch (s : Session) (index : Nat) (source : Source σ) : Run σ Session := do
  settle s index source (← Run.outcome (source.getContent s))

/-- The outcomes of all branches, from an index on; one that goes wrong does not keep the others from
running. -/
def runBranches (s : Session) : Nat → List (Source σ) → Run σ (List (Except Failure Session))
  | _, [] => return []
  | index, source :: rest => do
    let first ← Run.outcome (runBranch s index source)
    return first :: (← runBranches s (index + 1) rest)

theorem runBranches_eq (s : Session) (index : Nat) (srcs : List (Source σ)) :
    runBranches s index srcs = (srcs.mapIdx fun i source => runBranch s (index + i) source).mapM Run.outcome := by
  induction srcs generalizing index with
  | nil => rfl
  | cons source rest ih =>
    have hshift : (fun i (source : Source σ) => runBranch s (index + (i + 1)) source) =
        fun i source => runBranch s (index + 1 + i) source := by
      funext i source
      rw [Nat.add_right_comm, Nat.add_assoc]
    rw [runBranches, ih, List.mapIdx_cons, List.mapM_cons, hshift]
    rfl

/-- A parallel template runs its branches one after the other. -/
theorem run_eq (p : Parallel σ) (s : Session) : p.run s =
    if p.branches.isEmpty then pure s
    else (do
      let outcomes ← Run.ofExcept (Task.allAnswers (← runBranches (s.withEcho false none) 0 p.issueOrder))
      s.rejoin (← p.strategy.aggregate (s.withEcho false none) outcomes)) := by
  have htasks :
      p.issueOrder.mapIdx (branchTask (fun source s => .ofRun (source.getContent s)) (s.withEcho false none)) =
      (p.issueOrder.mapIdx fun i source => runBranch (s.withEcho false none) (0 + i) source).map Task.ofRun := by
    refine List.ext_getElem? fun i => ?_
    rw [List.getElem?_map, List.getElem?_mapIdx, List.getElem?_mapIdx, Option.map_map]
    refine congrArg (Option.map · p.issueOrder[i]?) (funext fun source => ?_)
    rw [branchTask, Task.andThen_ofRun, Function.comp_apply, Nat.zero_add]
    rfl
  rw [run, runBy]
  dsimp only
  rw [htasks, Task.gather_ofRun, runBranches_eq]
  simp only [bind_assoc]

end Colloquy.Parallel
