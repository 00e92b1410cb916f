import Colloquy.Source.Basic
import Colloquy.Value.Convert

/-!
# Overviews of sources

What can be told of a source without asking it for content: its kind and policy, the position in a list, the
options of a model and what is left of its budget.
-/

namespace Colloquy

variable {σ : Type}

/-- The number of attempts, the waits as doubles, and the number of patterns of a retry policy. -/
def RetryPolicy.overview (p : RetryPolicy σ) : Except Failure Value := do
  let waits ← [p.baseDelay, p.maxDelay, p.backoffFactor].mapM Value.toDouble
  let patterns := (p.patterns.map fun ps => Value.int ps.length).getD .null
  return .list (p.maxAttempts :: waits.map .float ++ [p.jitter, patterns])

/-- What is told of a kind of source in a state. -/
def Origin.overview (s : State σ) : Origin σ → Entries
  | .list items loop cell =>
    let index := s.cursors.get cell
    [("index", .int index), ("at_end", .bool (!loop && decide (items.length ≤ index))),
      ("loop", .bool loop)]
  | .model access =>
    [("options", access.options.toValue),
      ("limit", (access.budget.limit.map Value.int).getD .null),
      ("count", .int (s.spent.get access.budget.cell))]
  | _ => []

/-- What can be told of a source. -/
def Source.overview (src : Source σ) : Run σ Value := do
  let retry ← Run.ofExcept src.policy.retry.overview
  let origin := Origin.overview (← get) src.origin
  return .object ([("type", .str src.origin.kindName), ("repr", .str src.display),
    ("middlewares", .int src.policy.pipeline.size), ("retry", retry)] ++ origin)

end Colloquy
