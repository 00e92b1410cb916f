import Colloquy.Pipeline.Execute

/-!
# Policies that act alike

All that a run learns from a retry policy are its answers to five questions.  Policies that answer these alike cannot
be told apart by any call (`Pipeline.execute_alike`), whatever the values are that they have been given.
-/

namespace Colloquy

variable {σ : Type}

/-- Policies that allow as many attempts, find the same failures worth one, spread their waits alike, wait as long and
tell the same of it. -/
structure RetryPolicy.Alike (policy other : RetryPolicy σ) : Prop where
  attempts : other.attempts = policy.attempts
  isRetryable : ∀ f, other.isRetryable f = policy.isRetryable f
  spread : other.jitter.truthy = policy.jitter.truthy
  delayAfter : ∀ chance attempt, other.delayAfter chance attempt = policy.delayAfter chance attempt
  tell : ∀ f attempt delay, other.tell f attempt delay = policy.tell f attempt delay

/-- Of the jitter, it only matters whether it counts as true. -/
theorem RetryPolicy.alike_jitter {policy : RetryPolicy σ} {jitter : Value}
    (h : jitter.truthy = policy.jitter.truthy) : policy.Alike { policy with jitter } := by
  refine ⟨rfl, fun _ => rfl, h, fun chance attempt => ?_, fun _ _ _ => rfl⟩
  rw [delayAfter, delayAfter, h]

namespace Pipeline

variable {policy other : RetryPolicy σ}

theorem resume_alike (h : policy.Alike other) (b : Setback) (attempt : Nat) :
    b.resume other attempt = b.resume policy attempt := by
  simp only [Setback.resume, Setback.isWorthRetrying, Setback.wait, h.isRetryable, h.spread, h.delayAfter]

theorem pause_alike (h : policy.Alike other) (b : Setback) (attempt : Nat) (delay : Float) :
    b.pause other attempt delay = b.pause policy attempt delay := by
  simp only [Setback.pause, h.tell]

theorem attempts_alike (h : policy.Alike other) (p : Pipeline σ) (call : Context → Run σ Content) (left : Nat) :
    p.attempts call other left = p.attempts call policy left := by
  induction left with
  | zero =>
    funext number current previous
    rw [attempts, attempts]
    simp only [resume_alike h]
  | succ left ih =>
    funext number current previous
    rw [attempts, attempts]
    simp only [resume_alike h, pause_alike h, ih]

/-- Policies that act alike cannot be told apart. -/
theorem execute_alike (h : policy.Alike other) (p : Pipeline σ) (call : Context → Run σ Content) (ctx : Context) :
    p.execute call ctx other = p.execute call ctx policy := by
  simp only [execute, h.attempts, attempts_alike h]

end Pipeline

end Colloquy
