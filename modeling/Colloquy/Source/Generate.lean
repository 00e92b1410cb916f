import Colloquy.Session.Echo
import Colloquy.Source.Basic

/-!
# Generation

How each kind of source produces one piece of content for a session.  `feedback` is the instruction with which
the content before was rejected: a person is shown it, and a model finds it as a message of its session.
-/

namespace Colloquy.Source

variable {σ : Type}

/-! ### Texts -/

/-- Fills a template from the vars of a session. -/
def fill (things : Things) (template : Value) (s : Session) : Except Failure String :=
  match template with
  | .str t => .ok (interpolate things t s.vars)
  | v =>
    if v.truthy then .error (.fault .wrongType
      s!"expected string or bytes-like object, got '{v.kindName}'")
    else .ok ""

/-! ### Lists -/

/-- The item at the position of a cell, which is moved on.  Behind the last item a list that loops starts
again, and any other one is exhausted. -/
def nextItem (items : List Content) (loop : Bool) (cell : Nat) : Run σ Content := do
  let position := (← get).cursors.get cell
  let position ← if position < items.length then pure position
    else if loop then pure 0
    else throw (.generation s!"ListSource exhausted after {items.length} item(s)" (.bool false) none)
  modify fun s => { s with cursors := s.cursors.set cell (position + 1) }
  return items.getD position default

/-- An item by chance. -/
def drawItem (items : List Content) (cell : Nat) : Run σ Content := do
  let w ← read
  let draws := (← get).choices.get cell
  modify fun s => { s with choices := s.choices.set cell { draws with taken := draws.taken + 1 } }
  return items.getD (w.choose draws items.length % items.length) default

/-! ### People -/

/-- Asks a scripted prompter. -/
def askScripted (cell : Nat) (text : String) (default : Option String) : Run σ String := do
  modify fun s => { s with shown := s.shown.set cell (s.shown.get cell ++ [text]) }
  match (← get).answers.get cell, default with
  | [], some d => return d
  | [], none => throw (.configuration "ScriptedPrompter ran out of answers" none)
  | answer :: rest, default => do
    modify fun s => { s with answers := s.answers.set cell rest }
    return if answer = "" then default.getD answer else answer

/-- Shows a prompt and returns what the person enters, or the default if nothing is entered. -/
def ask (prompter : Prompter σ) (text : String) (default : Option String) : Run σ String := do
  match prompter with
  | .scripted cell => askScripted cell text default
  | .console read => do
    let answer ← read text
    return if Text.isBlankText answer then default.getD answer else answer

/-- Asks a person, with the feedback above the prompt. -/
def askPerson (prompt : Value) (default : Option String) (prompter : Prompter σ) (s : Session)
    (feedback : Option String) : Run σ Content := do
  let text ← Run.ofExcept (fill (← read).things prompt s)
  let text := match feedback.filter (· ≠ "") with
    | some hint => hint ++ "\n" ++ text
    | none => text
  return .plain (.str (← ask prompter text default))

/-! ### Models -/

/-- The backend of a source: its own, or one that is made for it the first time. -/
def backendOf (access : ModelAccess σ) : Run σ (Backend σ) := do
  match access.backend with
  | some b => return b
  | none => do
    match (← get).attached.get access.attached with
    | some cell => return .provider cell
    | none => do
      let cell ← Run.newCell
      modify fun s => { s with attached := s.attached.set access.attached (some cell) }
      return .provider cell

/-- A failure of a backend as a failure of generation; those of orchestration stay as they are. -/
def wrapFailure (f : Failure) : Failure :=
  if f.isOrchestration then f else .generation f.description (.bool false) (some f.kind)

/-- Asks a model, within the budget. -/
def askModel (access : ModelAccess σ) (s : Session) : Run σ Content := do
  let _ ← access.budget.acquire
  match ← Run.outcome (do (← backendOf access).generate s access.options) with
  | .error f => throw (wrapFailure f)
  | .ok out =>
    if out.role = .assistant then return .output out
    else throw (.generation s!"Backend returned a {out.role.word} message; expected assistant"
      (.bool false) none)

/-! ### All kinds -/

/-- Produces one piece of content. -/
def generate (origin : Origin σ) (s : Session) (feedback : Option String) : Run σ Content :=
  match origin with
  | .literal template => do return .plain (.str (← Run.ofExcept (fill (← read).things template s)))
  | .list items loop cell => nextItem items loop cell
  | .random items cell => drawItem items cell
  | .callback f => f s
  | .prompt prompt default prompter => askPerson prompt default prompter s feedback
  | .model access => askModel access s

/-- The session that the generator sees: a model finds the feedback as a further message, which is not
echoed. -/
def prepare (origin : Origin σ) (s : Session) (feedback : Option String) : Session :=
  match origin, feedback.filter (· ≠ "") with
  | .model _, some hint => (s.withEcho false none).append (.user hint)
  | _, _ => s

/-- The options that a request is made with. -/
def optionsOf : Origin σ → Option Options
  | .model access => some access.options
  | _ => none

/-- Notes what the structure of an output was read as.  An output that is shared changes wherever it is held. -/
def noteReading (out : Output) (parsed : Value) : Run σ Content := do
  match out.object with
  | none => return .output { out with parsed := some parsed }
  | some object => do
    modify fun s => { s with readings := s.readings.set object (some parsed) }
    return .output out

/-- What the source itself asks of content: the answer of a model has to have the structure that was asked
for.  Answers the verdict, if there is one, and the content with what the structure was read as. -/
def inspect (origin : Origin σ) (content : Content) : Run σ (Option Verdict × Content) := do
  match (optionsOf origin).bind (·.structured), content with
  | none, _ | _, .plain _ => return (none, content)
  | some spec, .output out =>
    match out.structured with
    | none =>
      return (some (.reject s!"Respond by calling {spec.name} with the required structure"), content)
    | some data =>
      match spec.model with
      | none => return (some .accept, content)
      | some model =>
        match model.read data with
        | .ok parsed => return (some .accept, ← noteReading out parsed)
        | .error issues => do
          Run.log (.structureInvalid spec.name issues.length)
          return (some (.reject
            s!"Structured output does not match {spec.name}: {Issue.summarize issues}"), content)

end Colloquy.Source
