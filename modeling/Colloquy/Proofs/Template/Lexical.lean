import Colloquy.Template.Execute

/-!
# Lexical scope

Templates bring default sources into scope and take them out again.  Seen from outside, a template only reads
the scope that it is run in: `run_eq_reading` says that running it is the same as `runIn`, which passes the
default sources down to its parts and never takes anything back.  So the scope after a run is that before it,
whether the run has ended or failed.
-/

namespace Colloquy

variable {σ α β : Type}

namespace Scoped

/-! ### Runs that only read -/

/-- A run that reads what is in scope and leaves it as it is. -/
def reading (f : Defaults σ → Run σ α) : Scoped σ α := fun w scope s =>
  let (x, s) := (f scope).exec w s
  ((x, scope), s)

theorem exec_reading (f : Defaults σ → Run σ α) (w : Surroundings σ) (outer : Defaults σ)
    (s : State σ) :
    (reading f).exec w outer s = (((f outer).exec w s).1, outer, ((f outer).exec w s).2) := rfl

theorem run_reading (f : Defaults σ → Run σ α) : (reading f).run = f {} := rfl

theorem pure_eq_reading (a : α) : (pure a : Scoped σ α) = reading fun _ => pure a := rfl

theorem lift_eq_reading (r : Run σ α) : (liftM r : Scoped σ α) = reading fun _ => r := rfl

theorem scope_eq_reading : (scope : Scoped σ (Defaults σ)) = reading pure := rfl

theorem bind_eq_reading {r : Scoped σ α} {k : α → Scoped σ β} {f : Defaults σ → Run σ α}
    {g : α → Defaults σ → Run σ β} (hr : r = reading f) (hk : ∀ a, k a = reading (g a)) :
    (r >>= k) = reading fun outer => f outer >>= fun a => g a outer := by
  refine ext fun w outer s => ?_
  rw [exec_bind, hr, exec_reading, exec_reading, Run.exec_bind]
  rcases (f outer).exec w s with ⟨_ | a, s'⟩
  · rfl
  · -- The first run has left the scope as it was, so the second one reads the same.
    show (k a).exec w outer s' = _
    rw [hk, exec_reading]

theorem ite_eq_reading {c : Prop} [Decidable c] {r r' : Scoped σ α} {f f' : Defaults σ → Run σ α}
    (hr : r = reading f) (hr' : r' = reading f') :
    (if c then r else r') = reading fun outer => if c then f outer else f' outer := by
  by_cases h : c
  · simp only [if_pos h, hr]
  · simp only [if_neg h, hr']

/-- A body that only reads sees its own declarations before those around it. -/
theorem declaring_reading (own : Defaults σ) (f : Defaults σ → Run σ α) :
    declaring own (reading f) = reading fun outer => f (own.within outer) := by
  refine ext fun w outer s => ?_
  rw [exec_declaring, exec_reading, exec_reading]

end Scoped

namespace Template

open Scoped

/-! ### Templates with their scope passed down -/

mutual

/-- Runs a template on a session, with the default sources around it. -/
def runIn : Template σ → Defaults σ → Session → Run σ Session
  | system source, _, s => runSystem source s
  | user source, outer, s => runUser (source.or outer.user) s
  | assistant source extract, outer, s => runAssistant (source.or outer.assistant) extract s
  | conditional condition positive negative, outer, s => do
    if ← holds condition s then runIn positive outer s else runOptionIn negative outer s
  | transform functions, _, s => applyAll functions s
  | sequence body defaults, outer, s => runAllIn body (defaults.within outer) s
  | loop body done rounds defaults, outer, s =>
    runLoop body done rounds (fun s => runAllIn body (defaults.within outer) s) s
  | subroutine body start squash defaults, outer, s =>
    runSubroutine start squash (fun s => runAllIn body (defaults.within outer) s) s
  | parallel p, _, s => p.run s
  | agent steps defaults, outer, s => runAllIn steps (defaults.within outer) s

/-- Runs templates one after the other, with the default sources around them. -/
def runAllIn : List (Template σ) → Defaults σ → Session → Run σ Session
  | [], _, s => return s
  | t :: rest, outer, s => do runAllIn rest outer (← runIn t outer s)

/-- Runs a template, if there is one, with the default sources around it. -/
def runOptionIn : Option (Template σ) → Defaults σ → Session → Run σ Session
  | none, _, s => return s
  | some t, outer, s => runIn t outer s

end

/-! ### The scope is only read -/

theorem repeatUntil_eq_reading (done : Predicate σ) {step : Session → Scoped σ Session}
    {stepIn : Session → Defaults σ → Run σ Session} (hstep : ∀ s, step s = reading (stepIn s))
    (limit : Int) (rounds : Nat) (s : Session) :
    repeatUntil done step limit rounds s =
      reading fun outer => repeatUntil done (fun s => stepIn s outer) limit rounds s := by
  -- The step may make any session, so the induction on the rounds is for all of them.
  induction rounds generalizing s with
  | zero =>
    refine bind_eq_reading (lift_eq_reading _) fun held => ?_
    refine ite_eq_reading ?_ (pure_eq_reading s)
    exact bind_eq_reading (lift_eq_reading _) fun _ => pure_eq_reading s
  | succ rounds ih =>
    refine bind_eq_reading (lift_eq_reading _) fun held => ?_
    refine ite_eq_reading (pure_eq_reading s) ?_
    exact bind_eq_reading (hstep s) ih

theorem runLoop_eq_reading (body : List (Template σ)) (done : Option (Predicate σ)) (rounds : Int)
    {step : Session → Scoped σ Session} {stepIn : Session → Defaults σ → Run σ Session}
    (hstep : ∀ s, step s = reading (stepIn s)) (s : Session) :
    runLoop body done rounds step s =
      reading fun outer => runLoop body done rounds (fun s => stepIn s outer) s := by
  refine ite_eq_reading (lift_eq_reading _) ?_
  cases done with
  | none => exact bind_eq_reading (lift_eq_reading _) fun _ => hstep s
  | some done => exact repeatUntil_eq_reading done hstep rounds rounds.toNat s

theorem runSubroutine_eq_reading (start : Option (Session → Run σ Session))
    (squash : Option (Squashing σ)) {step : Session → Scoped σ Session}
    {stepIn : Session → Defaults σ → Run σ Session} (hstep : ∀ s, step s = reading (stepIn s))
    (s : Session) :
    runSubroutine start squash step s =
      reading fun outer => runSubroutine start squash (fun s => stepIn s outer) s := by
  -- How the child starts and how it is folded back have nothing to do with the scope.
  refine bind_eq_reading (lift_eq_reading _) fun child => ?_
  exact bind_eq_reading (hstep _) fun child => lift_eq_reading _

mutual

/-- **The scope of a run.** Running a template only reads what is in scope: it is the same as to pass the
default sources down. -/
theorem run_eq_reading : ∀ (t : Template σ) (s : Session),
    t.run s = reading fun outer => t.runIn outer s
  | system source, s => lift_eq_reading (runSystem source s)
  | user source, s =>
    bind_eq_reading scope_eq_reading fun outer => lift_eq_reading (runUser (source.or outer.user) s)
  | assistant source extract, s =>
    bind_eq_reading scope_eq_reading fun outer =>
      lift_eq_reading (runAssistant (source.or outer.assistant) extract s)
  | conditional condition positive negative, s => by
    refine bind_eq_reading (lift_eq_reading (holds condition s)) fun held => ?_
    exact ite_eq_reading (run_eq_reading positive s) (runOption_eq_reading negative s)
  | transform functions, s => lift_eq_reading (applyAll functions s)
  | sequence body defaults, s => by
    rw [run, runAll_eq_reading body s, declaring_reading]
    rfl
  | loop body done rounds defaults, s => by
    rw [run, runLoop_eq_reading body done rounds (runAll_eq_reading body) s, declaring_reading]
    rfl
  | subroutine body start squash defaults, s => by
    rw [run, runSubroutine_eq_reading start squash (runAll_eq_reading body) s, declaring_reading]
    rfl
  | parallel p, s => lift_eq_reading (p.run s)
  | agent steps defaults, s => by
    rw [run, runAll_eq_reading steps s, declaring_reading]
    rfl

theorem runAll_eq_reading : ∀ (body : List (Template σ)) (s : Session),
    runAll body s = reading fun outer => runAllIn body outer s
  | [], s => pure_eq_reading s
  | t :: rest, s => bind_eq_reading (run_eq_reading t s) (runAll_eq_reading rest)

theorem runOption_eq_reading : ∀ (t : Option (Template σ)) (s : Session),
    runOption t s = reading fun outer => runOptionIn t outer s
  | none, s => pure_eq_reading s
  | some t, s => run_eq_reading t s

end

/-- Executing a template starts with nothing in scope. -/
theorem execute_eq_runIn (t : Template σ) (s : Option Session) :
    t.execute s = t.runIn {} (s.getD {}) := by
  rw [execute, run_eq_reading, run_reading]

end Template

end Colloquy
