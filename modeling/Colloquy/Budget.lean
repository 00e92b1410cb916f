import Colloquy.Run

/-!
# Call budgets

A budget counts model calls against a limit, if there is one.  All that share its cell draw from it.
-/

namespace Colloquy

/-- A count of calls in a cell, and the limit on it. -/
structure Budget where
  cell : Nat
  limit : Option Int := none
  deriving DecidableEq, Repr, Inhabited

namespace Budget

variable {σ : Type}

/-- A budget with a cell of its own. -/
def make (limit : Option Int) : Run σ Budget := do
  return { cell := ← Run.newCell, limit }

/-- The calls counted so far. -/
def count (b : Budget) : Run σ Nat := do
  return (← get).spent.get b.cell

/-- Whether a count leaves no further call. -/
def isSpent (b : Budget) (count : Nat) : Bool :=
  b.limit.any (· ≤ (count : Int))

/-- Counts a call, or fails if the limit is reached. -/
def acquire (b : Budget) : Run σ Nat := do
  let count ← b.count
  if b.isSpent count then
    let limit := b.limit.getD 0
    Run.log (.callLimitExceeded count limit)
    throw (.callLimit (count + 1) limit)
  modify fun s => { s with spent := s.spent.set b.cell (count + 1) }
  return count + 1

/-- Sets the count back. -/
def reset (b : Budget) : Run σ Unit :=
  modify fun s => { s with spent := s.spent.set b.cell 0 }

end Budget

end Colloquy
