import Colloquy.Template.Parallel

/-!
# Templates

A template is a node of a conversation's program: it takes a session and answers a new one.  Messages come
from sources; sequences, loops and subroutines hold further templates, and may declare default sources for
those of them that have none of their own.
-/

namespace Colloquy

/-! ### Callers' functions -/

/-- A question about a session; any answer counts as true or false. -/
abbrev Predicate (σ : Type) := Session → Run σ Value

/-- What a caller's function makes of a session: a session, as it should, or another value. -/
inductive Reshaped where
  | session (s : Session)
  | value (v : Value)

/-- A function on sessions. -/
abbrev Reshaping (σ : Type) := Session → Run σ Reshaped

/-- A function that folds the session of a subroutine back into that of its caller. -/
abbrev Squashing (σ : Type) := Session → Session → Run σ Reshaped

/-! ### Parts -/

/-- The sources of messages for which none is named. -/
structure Defaults (σ : Type) where
  user : Option (Source σ) := none
  assistant : Option (Source σ) := none

/-- The defaults inside a template: its own, and those around it for what it does not declare. -/
def Defaults.within {σ : Type} (own outer : Defaults σ) : Defaults σ where
  user := own.user.or outer.user
  assistant := own.assistant.or outer.assistant

/-- Which fields of a structured answer become vars. -/
inductive Extract where
  | nothing
  | everything
  /-- The named fields, under their own names. -/
  | fields (names : List String)
  /-- The named fields, each under the name of a var. -/
  | renamed (names : Assoc String)
  deriving Repr, Inhabited

/-- Whether anything is asked for. -/
def Extract.asks : Extract → Bool
  | nothing => false
  | everything => true
  | fields names => !names.isEmpty
  | renamed names => !names.isEmpty

/-- The vars that are taken from a structured answer. -/
def Extract.vars (data : Entries) : Extract → Entries
  | nothing => []
  | everything => data
  | fields names =>
    .ofPairs (names.filterMap fun name => (data.lookup name).map fun v => (name, v))
  | renamed names =>
    .ofPairs (names.filterMap fun (name, var) => (data.lookup name).map fun v => (var, v))

/-! ### Templates -/

/-- The greatest number of rounds of a loop for which none is given. -/
def defaultRounds : Int := 100

/-- A node of a conversation's program. -/
inductive Template (σ : Type) where
  | system (source : Source σ)
  | user (source : Option (Source σ))
  | assistant (source : Option (Source σ)) (extract : Extract)
  | conditional (condition : Predicate σ) (positive : Template σ)
      (negative : Option (Template σ))
  | transform (functions : List (Reshaping σ))
  | sequence (body : List (Template σ)) (defaults : Defaults σ)
  /-- Runs its body until a predicate holds, or once if there is none. -/
  | loop (body : List (Template σ)) (done : Option (Predicate σ)) (rounds : Int)
      (defaults : Defaults σ)
  /-- Runs its body on a session of its own. -/
  | subroutine (body : List (Template σ)) (start : Option (Session → Run σ Session))
      (squash : Option (Squashing σ)) (defaults : Defaults σ)
  | parallel (p : Parallel σ)
  /-- A sequence that was built step by step. -/
  | agent (steps : List (Template σ)) (defaults : Defaults σ)

namespace Template

variable {σ : Type}

/-- A system message from content as it is given. -/
def ofSystem (content : ContentInput σ) : Run σ (Template σ) := do
  match ← content.resolve with
  | some source => return system source
  | none => throw (.configuration "System template requires content or a source" none)

/-- One or more functions on sessions. -/
def ofFunctions (functions : List (Reshaping σ)) : Except Failure (Template σ) :=
  if functions.isEmpty then
    .error (.configuration "Transform needs at least one function" none)
  else .ok (transform functions)

/-- A template's kind and size. -/
def display : Template σ → String
  | system _ => "System()"
  | user _ => "User()"
  | assistant .. => "Assistant()"
  | conditional .. => "Conditional()"
  | transform _ => "Transform()"
  | sequence body _ => s!"Sequence({body.length} children)"
  | loop body .. => s!"Loop({body.length} children)"
  | subroutine body .. => s!"Subroutine({body.length} children)"
  | parallel _ => "Parallel()"
  | agent steps _ => s!"Agent({steps.length} steps)"

end Template

end Colloquy
