import Colloquy.Middleware.Basic
import Colloquy.Number.Display

/-!
# Rate limiting

A token bucket in front of every request.  A request that finds no token waits until one has been gained.
-/

namespace Colloquy.Middleware

variable {σ : Type}

/-- The capacity of a bucket for which none is given: a second's worth of tokens, and at least one. -/
def defaultBurst (rate : Float) : Int :=
  max 1 ((Number.truncate? rate).getD 1)

/-- The rate and the capacity of a limiter, whose waits count on a thousandth of a token in a second at
least. -/
def rateOf (rate : Float) (burst : Option Int) : TokenRate Float where
  rate
  capacity := (Number.ofInt? (burst.getD (defaultBurst rate))).getD 0.0
  least := 0.001

/-- Takes a token from the bucket in a cell, after a wait if there is none. -/
def takeToken (name : String) (cell : Nat) (r : TokenRate Float) : Run σ Unit := do
  let s ← get
  let b := (s.buckets.get cell).refill r s.clock
  match b.take? with
  | some b => set { s with buckets := s.buckets.set cell b }
  | none => do
    -- The refill is kept, and its time is what the next one counts from.
    set { s with buckets := s.buckets.set cell b }
    let wait := b.shortfall r
    Run.log (.rateWaited name (Number.roundPlaces 3 wait))
    Run.sleep wait
    modify fun s =>
      { s with buckets := s.buckets.set cell ((s.buckets.get cell).settle r s.clock) }

/-- Limits the rate of requests by the bucket in a cell. -/
def rateLimit (cell : Nat) (r : TokenRate Float) (name : String := "rate_limit") : Middleware σ where
  kindName := "RateLimitMiddleware"
  name
  priority := -500
  before ctx := do
    takeToken name cell r
    return ctx
  gauge := do return some ("tokens", .float ((← get).buckets.get cell).tokens)

/-- A new cell with a full bucket. -/
def newBucket (r : TokenRate Float) : Run σ Nat := do
  let cell ← Run.newCell
  modify fun s => { s with buckets := s.buckets.set cell (.full r s.clock) }
  return cell

end Colloquy.Middleware
