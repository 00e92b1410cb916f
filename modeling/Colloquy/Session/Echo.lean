import Colloquy.Message.Check
import Colloquy.Run

/-!
# Echoing

A session whose echo is on shows every message that is added to it to its observer, or to the log if it has
none; a failing observer is reported and otherwise ignored.  `rejoin` gives a session that was built from a
quiet copy its echo back and shows only what was added on top.
-/

namespace Colloquy.Session

variable {σ : Type}

/-- Shows a message to the observer, or to the log. -/
def announce (s : Session) (m : Message) : Run σ Unit := do
  match s.observer with
  | none => Run.log (.messageEchoed m)
  | some o =>
    let w ← read
    modify fun st => { st with deliveries := st.deliveries ++ [(o, m)] }
    match w.observe o m with
    | none => return
    | some f => Run.log (.observerFailed f.text)

/-- Adds a message and shows it if the echo is on. -/
def add (s : Session) (m : Message) : Run σ Session := do
  if s.echo then s.announce m
  return s.append m

/-- Adds messages one after the other. -/
def addAll (s : Session) : List Message → Run σ Session
  | [] => return s
  | m :: rest => do (← s.add m).addAll rest

/-- Whether the messages of a session begin with those given. -/
def startsWith : List Message → List Message → Bool
  | [], _ => true
  | _ :: _, [] => false
  | m :: front, n :: rest => Message.same n m && startsWith front rest

/-- Gives `merged`, which was built from a quiet copy of `parent`, the echo settings of `parent`, and
shows the messages that it has on top. -/
def rejoin (parent merged : Session) : Run σ Session := do
  let count := parent.messages.length
  let base := merged.withEcho parent.echo parent.observer
  -- What does not go on with the messages of the parent replaces them, and none of it is shown.
  if !startsWith parent.messages merged.messages then return base
  let added := merged.messages.drop count
  -- Nothing has changed, so the parent itself is the answer.
  if added.isEmpty && Value.same (.object merged.vars) (.object parent.vars) &&
      Value.same (.object merged.attrs) (.object parent.attrs) then
    return parent
  else ({ base with messages := parent.messages } : Session).addAll added

end Colloquy.Session
