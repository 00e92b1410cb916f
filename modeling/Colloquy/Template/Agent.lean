import Colloquy.Template.Execute

/-!
# Building programs step by step

An `Agent` is a sequence under construction.  Bodies of loops, branches and subroutines are built by functions
that are given a new agent with the same limit on rounds; such a function may answer an agent, or just build on the
one that it was given.
-/

namespace Colloquy

/-- A sequence under construction. -/
structure Agent (σ : Type) where
  steps : List (Template σ) := []
  defaults : Defaults σ := {}
  /-- The greatest number of rounds of loops for which none is given. -/
  maxRounds : Int := defaultRounds

namespace Agent

variable {σ : Type}

/-- What a function has made of an agent: the one that it was given, as it is afterwards, and its answer, if it
gives one. -/
structure Built (σ : Type) where
  given : Agent σ
  answer : Option (Agent σ)

/-- A function that builds on an agent. -/
abbrev Builder (σ : Type) := Agent σ → Run σ (Built σ)

/-- The agent with one more step. -/
def add (a : Agent σ) (t : Template σ) : Agent σ := { a with steps := a.steps ++ [t] }

/-- The sequence that was built. -/
def build (a : Agent σ) : Template σ := .sequence a.steps a.defaults

/-! ### Steps without a body -/

/-- Adds a message of the system. -/
def system (a : Agent σ) (content : ContentInput σ) : Run σ (Agent σ) := do
  return a.add (← Template.ofSystem content)

/-- Adds a message of the user. -/
def user (a : Agent σ) (content : ContentInput σ) : Run σ (Agent σ) := do
  return a.add (.user (← content.resolve))

/-- Adds a message of the assistant. -/
def assistant (a : Agent σ) (content : ContentInput σ) (extract : Extract) : Run σ (Agent σ) := do
  return a.add (.assistant (← content.resolve) extract)

/-- Adds functions on sessions. -/
def transform (a : Agent σ) (functions : List (Reshaping σ)) : Run σ (Agent σ) := do
  return a.add (← Run.ofExcept (Template.ofFunctions functions))

/-! ### Steps with bodies -/

/-- The sequence that a function builds on a new agent: on its answer, or on what it was given if it answers
nothing. -/
def body (a : Agent σ) (builder : Builder σ) : Run σ (Template σ) := do
  let built ← builder { maxRounds := a.maxRounds }
  return (built.answer.getD built.given).build

/-- Adds a loop. -/
def loop (a : Agent σ) (builder : Builder σ) (done : Option (Predicate σ))
    (rounds : Option Int) : Run σ (Agent σ) := do
  return a.add (.loop [← a.body builder] done (rounds.getD a.maxRounds) {})

/-- Adds a choice between two bodies. -/
def conditional (a : Agent σ) (condition : Predicate σ) (positive : Builder σ)
    (negative : Option (Builder σ)) : Run σ (Agent σ) := do
  let positive ← a.body positive
  match negative with
  | none => return a.add (.conditional condition positive none)
  | some builder => return a.add (.conditional condition positive (some (← a.body builder)))

/-- Adds a subroutine. -/
def subroutine (a : Agent σ) (builder : Builder σ) (start : Option (Session → Run σ Session))
    (squash : Option (Squashing σ)) : Run σ (Agent σ) := do
  return a.add (.subroutine [← a.body builder] start squash {})

/-- Adds a sequence. -/
def sequence (a : Agent σ) (builder : Builder σ) : Run σ (Agent σ) := do
  return a.add (← a.body builder)

/-- The agent as a template. -/
def toTemplate (a : Agent σ) : Template σ := .agent a.steps a.defaults

end Agent

end Colloquy
