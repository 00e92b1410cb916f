import Colloquy.Template.Scope

/-!
# Executing templates

`Template.execute` runs a template on a session.  Messages for which no source is named come from the default
sources in scope, which sequences, loops and subroutines declare for their bodies.
-/

namespace Colloquy

namespace Session

variable {σ : Type}

/-- Adds a message of a role with the text of content. -/
def appendText (s : Session) (role : Role) (content : Content) : Run σ Session := do
  let out ← Run.ofChecked "ModelOutput" content.toOutput
  let text ← Run.ofChecked "Message" (Checked.within "content" (Check.text out.content))
  s.add { role, content := text }

/-! ### Starting subroutines and folding them back -/

/-- Starts a subroutine with the session of its caller. -/
def inheritParent (parent : Session) : Run σ Session := return parent

/-- Keeps the messages that a subroutine has added to those of its caller, and its vars. -/
def appendNewMessages (parent child : Session) : Run σ Session := do
  let merged ← parent.addAll (child.messages.drop parent.messages.length)
  return merged.withVars child.vars

/-- Keeps all messages of a subroutine. -/
def appendChildMessages (parent child : Session) : Run σ Session :=
  parent.addAll child.messages

end Session

/-- Folds a subroutine back by a function that always makes a session. -/
def Squashing.of {σ : Type} (f : Session → Session → Run σ Session) : Squashing σ :=
  fun parent child => do return .session (← f parent child)

namespace Template

variable {σ : Type}

/-! ### Steps -/

/-- The session that a caller's function has made. -/
def reshaped : Reshaped → Run σ Session
  | .session s => return s
  | .value v => throw (.configuration
      s!"Transform function returned {v.kindName}, expected Session" none)

/-- Applies functions one after the other. -/
def applyAll : List (Reshaping σ) → Session → Run σ Session
  | [], s => return s
  | f :: rest, s => do applyAll rest (← reshaped (← f s))

/-- Adds the system's message. -/
def runSystem (source : Source σ) (s : Session) : Run σ Session := do
  s.appendText .system (← source.getContent s)

/-- Adds the user's message. -/
def runUser (source : Option (Source σ)) (s : Session) : Run σ Session := do
  match source with
  | none =>
    throw (.configuration "User template has no source and no default user source" none)
  | some source => s.appendText .user (← source.getContent s)

/-- Adds the assistant's message and takes vars from its structure. -/
def runAssistant (source : Option (Source σ)) (extract : Extract) (s : Session) :
    Run σ Session := do
  match source with
  | none =>
    throw (.configuration
      "Assistant template has no source and no default assistant source" none)
  | some source => do
    let content ← source.getContent s
    let out ← Run.ofChecked "ModelOutput" content.toOutput
    let s ← s.appendOutput content
    match out.structured with
    | some data => return if extract.asks then s.withVars (extract.vars data) else s
    | none => return s

/-- Whether a predicate holds. -/
def holds (p : Predicate σ) (s : Session) : Run σ Bool := do
  return (← p s).truthy

section

variable {m : Type → Type} [Monad m] [MonadLiftT (Run σ) m]

/-- Repeats a step until a predicate holds, but not more often than `rounds` says. -/
def repeatUntil (done : Predicate σ) (step : Session → m Session) (limit : Int) :
    (rounds : Nat) → Session → m Session
  | 0, s => do
    if !(← holds done s) then Run.log (σ := σ) (.loopExhausted limit)
    return s
  | rounds + 1, s => do
    if ← holds done s then return s
    repeatUntil done step limit rounds (← step s)

/-- Repeats the body of a loop, of which a step runs all; a loop without a predicate runs it once. -/
def runLoop (body : List (Template σ)) (done : Option (Predicate σ)) (rounds : Int)
    (step : Session → m Session) (s : Session) : m Session :=
  if body.isEmpty then liftM (throw (.emptyComposite "Loop") : Run σ Session)
  else
    match done with
    | none => do
      Run.log (σ := σ) .loopWithoutExit
      step s
    | some done => repeatUntil done step rounds rounds.toNat s

/-- The session that a subroutine starts with: an empty one if none is made. -/
def startChild (start : Option (Session → Run σ Session)) (parent : Session) : Run σ Session :=
  match start with
  | some f => f parent
  | none => pure {}

/-- Folds the session of a subroutine back into the caller's session, which echoes what it has got on
top. -/
def squashChild (squash : Option (Squashing σ)) (parent child : Session) : Run σ Session := do
  match squash with
  | none => return parent
  | some f => do
    match ← f parent child with
    | .value v =>
      throw (.fault .noAttribute s!"'{v.kindName}' object has no attribute 'echo'")
    | .session merged =>
      if merged.echo = parent.echo && merged.observer = parent.observer then return merged
      else parent.rejoin merged

/-- Runs a step on a session of its own. -/
def runSubroutine (start : Option (Session → Run σ Session)) (squash : Option (Squashing σ))
    (step : Session → m Session) (parent : Session) : m Session := do
  let child ← startChild start parent
  let child ← step (child.withEcho false none)
  squashChild squash parent child

end

/-! ### Templates -/

mutual

/-- Runs a template on a session. -/
def run : Template σ → Session → Scoped σ Session
  | system source, s => runSystem source s
  | user source, s => do runUser (source.or (← Scoped.scope).user) s
  | assistant source extract, s => do
    runAssistant (source.or (← Scoped.scope).assistant) extract s
  | conditional condition positive negative, s => do
    if ← holds condition s then run positive s else runOption negative s
  | transform functions, s => applyAll functions s
  | sequence body defaults, s => Scoped.declaring defaults (runAll body s)
  | loop body done rounds defaults, s =>
    Scoped.declaring defaults (runLoop body done rounds (fun s => runAll body s) s)
  | subroutine body start squash defaults, s =>
    Scoped.declaring defaults (runSubroutine start squash (fun s => runAll body s) s)
  | parallel p, s => p.run s
  | agent steps defaults, s => Scoped.declaring defaults (runAll steps s)

/-- Runs templates one after the other. -/
def runAll : List (Template σ) → Session → Scoped σ Session
  | [], s => return s
  | t :: rest, s => do runAll rest (← run t s)

/-- Runs a template, if there is one. -/
def runOption : Option (Template σ) → Session → Scoped σ Session
  | none, s => return s
  | some t, s => run t s

end

/-- Executes a template on a session, or on an empty one. -/
def execute (t : Template σ) (s : Option Session) : Run σ Session :=
  (t.run (s.getD {})).run

end Template

end Colloquy
