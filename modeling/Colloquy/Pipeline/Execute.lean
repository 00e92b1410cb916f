import Colloquy.Number.Display
import Colloquy.Pipeline.Basic
import Colloquy.Retry.Policy

/-!
# Executing calls

`attempt` runs a call once between the hooks of a pipeline; `execute` repeats it as a retry policy says.  A
failure that a middleware mends is followed by another attempt at once, from the context that the middleware
made; one that is worth another attempt is followed by a wait; any other one ends the run, and so does the
last attempt.
-/

namespace Colloquy.Pipeline

variable {σ : Type}

/-! ### One attempt -/

/-- A call between the hooks before and after it.  A planted response is used in its place, and what the
hooks after it make of the response is dropped. -/
def attempt (p : Pipeline σ) (call : Context → Run σ Content) (ctx : Context) : Run σ Content := do
  let ctx ← p.before ctx
  let result ← if ctx.usesCache then pure (ctx.auxValue Context.cachedKey) else call ctx
  let _ ← p.after { ctx with result }
  return result

/-! ### Failed attempts -/

/-- What a failed attempt leads to. -/
structure Setback where
  /-- The failure that the next attempt is told of. -/
  cause : Failure
  /-- The failure that the run ends with if there is no next attempt. -/
  failure : Failure
  /-- The context that a middleware made to go on with. -/
  mended : Option Context

/-- Offers the failure of an attempt to the pipeline.  A hook that fails itself replaces the failure. -/
def setback (p : Pipeline σ) (ctx : Context) (f : Failure) : Run σ Setback := do
  match ← Run.outcome (p.onError ctx f) with
  | .ok mended => return { cause := f, failure := f, mended }
  | .error g => return { cause := f, failure := g, mended := none }

/-- Whether another attempt is due, apart from their number. -/
def Setback.isWorthRetrying (s : Setback) (policy : RetryPolicy σ) : Except Failure Bool :=
  match s.mended with
  | some _ => .ok true
  | none => policy.isRetryable s.failure

/-- The wait before another attempt: none after a mended failure.  Every wait that is spread has a chance of its
own. -/
def Setback.wait (s : Setback) (policy : RetryPolicy σ) (attempt : Nat) : Run σ Num := do
  match s.mended with
  | some _ => return .float 0.0
  | none => do
    let chance ← if policy.jitter.truthy then Run.draw else pure 0.0
    Run.ofArithmetic (policy.delayAfter chance attempt)

/-- The wait before another attempt if one is due, apart from their number; the failure otherwise. -/
def Setback.resume (s : Setback) (policy : RetryPolicy σ) (attempt : Nat) : Run σ Num := do
  if ← Run.ofExcept (s.isWorthRetrying policy) then s.wait policy attempt else throw s.failure

/-- Reports a setback and sleeps. -/
def Setback.pause (s : Setback) (policy : RetryPolicy σ) (attempt : Nat) (delay : Float) :
    Run σ Unit := do
  Run.log (.retrying attempt (Number.roundPlaces 3 delay) s.failure.text)
  policy.tell s.failure attempt delay
  Run.sleep delay

/-! ### All attempts -/

/-- Attempts a call, from the attempt with the given number on, and with at most `left` further ones. -/
def attempts (p : Pipeline σ) (call : Context → Run σ Content) (policy : RetryPolicy σ) :
    (left : Nat) → (number : Nat) → Context → Option Failure → Run σ Content
  | left, number, current, previous => do
    let ctx := { current with attempt := number, previous }
    match ← Run.outcome (p.attempt call ctx) with
    | .ok result => return result
    | .error f => do
      let s ← p.setback ctx f
      -- The wait is computed even after the last attempt, and may fail there.
      let wait ← s.resume policy number
      match left with
      | 0 => throw s.failure
      | left + 1 => do
        let delay ← Run.ofArithmetic wait.toFloat
        s.pause policy number delay
        attempts p call policy left (number + 1) (s.mended.getD current) (some s.cause)

/-- Runs a call through a pipeline, as often as the policy says. -/
def execute (p : Pipeline σ) (call : Context → Run σ Content) (ctx : Context)
    (policy : RetryPolicy σ) : Run σ Content := do
  let count ← Run.ofExcept policy.attempts
  attempts p call policy (count - 1) 1 ctx none

end Colloquy.Pipeline
