import Colloquy.Backend.Basic
import Colloquy.Budget
import Colloquy.Interpolation
import Colloquy.Pipeline.Execute
import Colloquy.Validator.Judge

/-!
# Sources

A source produces content for a session: fixed text, the items of a list in order or at random, the answer of
a function, of a person or of a model.  Every source has a validator, a number of attempts at content that the
validator accepts, a pipeline and a retry policy.  What changes while sources are used is kept in cells of the
state, and copies of a source may share a cell or have their own.
-/

namespace Colloquy

/-! ### Origins -/

/-- A way of asking a person. -/
inductive Prompter (σ : Type) where
  /-- Answers from the list in a cell, and records every prompt. -/
  | scripted (cell : Nat)
  /-- Shows a prompt and reads a line. -/
  | console (ask : String → Run σ String)

/-- How a model is asked. -/
structure ModelAccess (σ : Type) where
  options : Options
  backend : Option (Backend σ) := none
  /-- The cell of the backend that the source makes for itself if it has none. -/
  attached : Nat
  /-- The budget that the source shares with its copies. -/
  budget : Budget

/-- Where content comes from. -/
inductive Origin (σ : Type) where
  | literal (template : Value)
  /-- The items one after the other; the cell holds the position. -/
  | list (items : List Content) (loop : Bool) (cell : Nat)
  /-- Items by chance; the cell holds the draws. -/
  | random (items : List Content) (cell : Nat)
  | callback (f : Session → Run σ Content)
  | prompt (prompt : Value) (default : Option String) (prompter : Prompter σ)
  | model (access : ModelAccess σ)

/-- The name of a kind of source. -/
def Origin.kindName {σ : Type} : Origin σ → String
  | literal _ => "LiteralSource"
  | list .. => "ListSource"
  | random .. => "RandomSource"
  | callback _ => "CallbackSource"
  | prompt .. => "CLISource"
  | model _ => "LlmSource"

/-! ### Sources -/

/-- What is the same for all kinds of sources. -/
structure Policy (σ : Type) where
  validator : Option (Validator σ) := none
  maxAttempts : Nat := 1
  maxAttempts_pos : 0 < maxAttempts := by first | exact Nat.one_pos | decide
  /-- Whether content that is rejected in every attempt is a failure. -/
  raiseOnFailure : Bool := true
  pipeline : Pipeline σ := {}
  retry : RetryPolicy σ := { maxAttempts := .int 1 }

/-- A producer of content. -/
structure Source (σ : Type) where
  origin : Origin σ
  policy : Policy σ

namespace Policy

variable {σ : Type}

/-- The policy with another number of attempts, which has to be positive. -/
def withMaxAttempts (p : Policy σ) (n : Int) : Except Failure (Policy σ) :=
  if h : n < 1 then
    .error (.configuration s!"max_attempts must be at least 1, got {n}" none)
  else .ok { p with maxAttempts := n.toNat, maxAttempts_pos := by omega }

/-- A policy with a checked number of attempts. -/
def make (validator : Option (Validator σ)) (maxAttempts : Int) (raiseOnFailure : Bool)
    (pipeline : Pipeline σ) (retry : RetryPolicy σ) : Except Failure (Policy σ) :=
  withMaxAttempts { validator, raiseOnFailure, pipeline, retry } maxAttempts

/-- The policy of a single attempt with a retry policy. -/
def ofRetry (retry : RetryPolicy σ) : Policy σ := { retry }

end Policy

namespace Source

variable {σ : Type}

/-- A source's kind and policy. -/
def display (s : Source σ) : String :=
  let p := s.policy
  s.origin.kindName ++ "(validator=" ++ (p.validator.map (·.display)).getD "None" ++
    ", max_attempts=" ++ toString p.maxAttempts ++ ", raise_on_failure=" ++
    (Value.bool p.raiseOnFailure).literal ++ ")"

/-! ### Building -/

/-- A source of fixed text with placeholders. -/
def literal (template : Value) (policy : Policy σ := {}) : Source σ :=
  ⟨.literal template, policy⟩

/-- A source of the items of a list, in order. -/
def list (items : List Content) (loop : Bool) (policy : Policy σ := {}) : Run σ (Source σ) := do
  if items.isEmpty then
    throw (.configuration "ListSource requires at least one item" none)
  return ⟨.list items loop (← Run.newCell), policy⟩

/-- A source of the items of a list, by chance. -/
def random (items : List Content) (seed : Option Int) (policy : Policy σ := {}) : Run σ (Source σ) := do
  if items.isEmpty then
    throw (.configuration "RandomSource requires at least one item" none)
  let cell ← Run.newCell
  let generator := seed.elim (.unseeded cell) .seeded
  modify fun s => { s with choices := s.choices.set cell { generator } }
  return ⟨.random items cell, policy⟩

/-- A source of a function's answers. -/
def callback (f : Session → Run σ Content) (policy : Policy σ := {}) : Source σ :=
  ⟨.callback f, policy⟩

/-- A source of a person's answers. -/
def prompt (text : Value) (default : Option String) (prompter : Prompter σ)
    (policy : Policy σ := {}) : Source σ :=
  ⟨.prompt text default prompter, policy⟩

/-- A source of a model's outputs. -/
def model (options : Options) (backend : Option (Backend σ)) (budget : Budget)
    (policy : Policy σ := { retry := {} }) : Run σ (Source σ) := do
  return ⟨.model { options, backend, attached := ← Run.newCell, budget }, policy⟩

end Source

/-- A prompter with a list of answers. -/
def Prompter.ofAnswers {σ : Type} (answers : List String) : Run σ (Prompter σ) := do
  let cell ← Run.newCell
  modify fun s => { s with answers := s.answers.set cell answers }
  return .scripted cell

/-! ### Content as it is given -/

/-- What is accepted in the place of a source. -/
inductive ContentInput (σ : Type) where
  | source (s : Source σ)
  | function (f : Session → Run σ Content)
  | value (v : Value)

namespace ContentInput

variable {σ : Type}

/-- The source that is meant: a text is fixed text, a list hands out its items, a function is called, and null
is none. -/
def resolve : ContentInput σ → Run σ (Option (Source σ))
  | source s => return some s
  | function f => return some (Source.callback f)
  | value .null => return none
  | value (.str s) => return some (Source.literal (.str s))
  | value (.list items) => do return some (← Source.list (items.map .plain) false)
  | value v =>
    throw (.configuration s!"Cannot use {v.kindName} as a content source" none)

end ContentInput

end Colloquy
