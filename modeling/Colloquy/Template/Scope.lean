import Colloquy.Template.Basic

/-!
# Scopes

While templates run, default sources are in scope.  `declaring` brings further ones into scope for the time of
a body, so the innermost template that declares one wins, and puts back what was in scope before when the body
has ended or failed.
-/

namespace Colloquy

/-- A run with default sources in scope, which it may change.  What it has changed before a failure stays
changed. -/
abbrev Scoped (σ α : Type) :=
  ReaderT (Surroundings σ) (ExceptT Failure (StateT (Defaults σ) (StateM (State σ)))) α

namespace Scoped

variable {σ α : Type}

/-- A run that has nothing to do with what is in scope. -/
def lift (r : Run σ α) : Scoped σ α := fun w scope s =>
  let (x, s) := r.exec w s
  ((x, scope), s)

instance : MonadLift (Run σ) (Scoped σ) := ⟨lift⟩

/-- What is in scope. -/
def scope : Scoped σ (Defaults σ) := fun _ scope s => ((.ok scope, scope), s)

/-- Replaces what is in scope. -/
def enter (scope : Defaults σ) : Scoped σ Unit := fun _ _ s => ((.ok (), scope), s)

/-- Runs a body with further default sources in scope. -/
def declaring (own : Defaults σ) (body : Scoped σ α) : Scoped σ α := do
  let outer ← scope
  enter (own.within outer)
  try body finally enter outer

/-- Runs in surroundings, with default sources in scope, from a state. -/
def exec (r : Scoped σ α) (w : Surroundings σ) (scope : Defaults σ) (s : State σ) :
    Except Failure α × Defaults σ × State σ :=
  let ((x, scope), s) := r w scope s
  (x, scope, s)

/-- A run that starts with nothing in scope. -/
def run (r : Scoped σ α) : Run σ α := fun w s =>
  let ((x, _), s) := r w {} s
  (x, s)

/-! ### Executing -/

variable {β : Type} {w : Surroundings σ} {outer : Defaults σ} {s : State σ}

theorem ext {r r' : Scoped σ α} (h : ∀ w outer s, r.exec w outer s = r'.exec w outer s) :
    r = r' := by
  funext w outer s
  obtain ⟨hx, hrest⟩ := Prod.mk.inj (h w outer s)
  obtain ⟨hscope, hs⟩ := Prod.mk.inj hrest
  exact Prod.ext (Prod.ext hx hscope) hs

theorem exec_bind (r : Scoped σ α) (f : α → Scoped σ β) : (r >>= f).exec w outer s =
    match r.exec w outer s with
    | (.ok a, scope, s') => (f a).exec w scope s'
    | (.error e, scope, s') => (.error e, scope, s') := by
  simp only [exec, bind, ReaderT.bind, ExceptT.bind, ExceptT.bindCont, ExceptT.mk, StateT.bind]
  rcases r w outer s with ⟨⟨_ | _, _⟩, _⟩
  · rfl
  · rfl

/-- However a body ends, what was in scope before is in scope again. -/
theorem exec_declaring (own : Defaults σ) (body : Scoped σ α) :
    (declaring own body).exec w outer s =
      match body.exec w (own.within outer) s with
      | (x, _, s') => (x, outer, s') := by
  simp only [exec, declaring, bind, ReaderT.bind, ExceptT.bind, ExceptT.bindCont, ExceptT.mk,
    StateT.bind, scope, enter, tryFinally, tryFinally', Functor.map, ExceptT.map]
  rcases body w (own.within outer) s with ⟨⟨_ | _, _⟩, _⟩
  · rfl
  · rfl

end Scoped

end Colloquy
