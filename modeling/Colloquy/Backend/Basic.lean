import Colloquy.Backend.Provider

/-!
# Backends

A backend turns a session and options into an output.  A scripted backend answers from a list, over and over
again, or computes its answers, and records what it was called with; a provider's backend asks a service.
-/

namespace Colloquy

/-- What a scripted backend answers. -/
inductive Response where
  | output (o : Output)
  | failure (f : Failure)
  /-- Any other value, of which the text counts. -/
  | value (v : Value)
  deriving Inhabited

/-- The output that a response amounts to. -/
def Response.toOutput : Response → Except Failure Output
  | .output o => .ok o
  | .failure f => .error f
  | .value v => .ok { content := .str v.text }

/-- A generator of outputs, with its state in a cell. -/
inductive Backend (σ : Type) where
  | scripted (cell : Nat) (responses : List Response)
  | computed (cell : Nat) (respond : Session → Options → Run σ Response)
  | provider (cell : Nat)

namespace Backend

variable {σ : Type}

/-- The cell with the state of a backend. -/
def cell : Backend σ → Nat
  | scripted cell _ | computed cell _ | provider cell => cell

/-! ### Building -/

/-- A backend that answers from a list over and over again. -/
def ofResponses (responses : List Response) : Run σ (Backend σ) := do
  if responses.isEmpty then
    throw (.configuration "ScriptedBackend needs responses or a callback" none)
  return scripted (← Run.newCell) responses

/-- A backend that computes its answers. -/
def ofFunction (respond : Session → Options → Run σ Response) : Run σ (Backend σ) := do
  return computed (← Run.newCell) respond

/-- A backend of the providers' services. -/
def ofProviders : Run σ (Backend σ) := do
  return provider (← Run.newCell)

/-! ### Answering -/

/-- Records a call. -/
def recordCall (cell : Nat) (s : Session) (o : Options) : Run σ Unit :=
  modify fun st => { st with asked := st.asked.set cell (st.asked.get cell ++ [(s, o)]) }

/-- The next of the responses in a cycle. -/
def nextResponse (cell : Nat) (responses : List Response) : Run σ Response := do
  let turn := (← get).turns.get cell
  modify fun st => { st with turns := st.turns.set cell (turn + 1) }
  return responses.getD (turn % responses.length) default

/-- Generates an output. -/
def generate (b : Backend σ) (s : Session) (o : Options) : Run σ Output := do
  match b with
  | scripted cell responses => do
    recordCall cell s o
    Run.ofExcept (Response.toOutput (← nextResponse cell responses))
  | computed cell respond => do
    recordCall cell s o
    Run.ofExcept (Response.toOutput (← respond s o))
  | provider cell => Provider.generate cell s o

/-- The calls that were recorded. -/
def recorded (b : Backend σ) : Run σ (List (Session × Options)) := do
  match b with
  | scripted cell _ | computed cell _ => return (← get).asked.get cell
  | provider _ => return []

/-- Starts the list of responses and the record of calls afresh. -/
def reset (b : Backend σ) : Run σ Unit := do
  match b with
  | scripted cell _ | computed cell _ =>
    modify fun st => { st with turns := st.turns.set cell 0, asked := st.asked.set cell [] }
  | provider _ => return

end Backend

end Colloquy
