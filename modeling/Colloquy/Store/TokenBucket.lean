/-!
# Token buckets

A bucket gains tokens at a steady rate up to its capacity, and every request takes one.  A request that
finds no whole token waits until one has been gained; should more time pass than that, the surplus counts,
and should the bucket still fall short, it is left empty and not in debt.  Tokens and times are any numbers
with the usual operations, so that the same bucket runs on doubles and is reasoned about on rationals.
-/

namespace Colloquy

/-- The rate at which tokens are gained, the capacity, and the least rate that waiting times are computed
with. -/
structure TokenRate (T : Type) where
  rate : T
  capacity : T
  least : T

/-- The tokens at hand and the time of the last refill. -/
structure TokenBucket (T : Type) where
  tokens : T
  refilled : T
  deriving Inhabited

namespace TokenBucket

variable {T : Type} [Add T] [Sub T] [Mul T] [Div T] [LT T] [DecidableLT T] [LE T] [DecidableLE T]
  [OfNat T 0] [OfNat T 1]

/-- A full bucket. -/
def full (r : TokenRate T) (now : T) : TokenBucket T := ⟨r.capacity, now⟩

/-- The bucket with the tokens gained since the last refill. -/
def refill (r : TokenRate T) (now : T) (b : TokenBucket T) : TokenBucket T :=
  let gained := b.tokens + (now - b.refilled) * r.rate
  ⟨if gained < r.capacity then gained else r.capacity, now⟩

/-- The bucket with a token less, if it holds a whole one. -/
def take? (b : TokenBucket T) : Option (TokenBucket T) :=
  if 1 ≤ b.tokens then some { b with tokens := b.tokens - 1 } else none

/-- The time in which what is missing from a whole token is gained. -/
def shortfall (r : TokenRate T) (b : TokenBucket T) : T :=
  (1 - b.tokens) / (if r.rate < r.least then r.least else r.rate)

/-- The bucket after a wait: refilled, and with a token less but not in debt. -/
def settle (r : TokenRate T) (now : T) (b : TokenBucket T) : TokenBucket T :=
  let b := b.refill r now
  let left := b.tokens - 1
  { b with tokens := if 0 < left then left else 0 }

end TokenBucket

end Colloquy
