import Colloquy.Failure
import Colloquy.Message.Check
import Colloquy.Session.Basic

/-!
# Reading and checking sessions

`Session.check` reads a session from an object, `Session.validate` asks whether its history can be sent to
a model, and `Session.same` compares sessions.
-/

namespace Colloquy.Session

/-- Reads a session.  No observer can be written down, so that field may only be null. -/
def check (v : Value) : Numbered (Checked Session) := do
  match v with
  | .object entries =>
    let messages : Checked (List Message) ← match Assoc.lookup "messages" entries with
      | none => pure (.ok [])
      | some (.list vs) => Checked.within "messages" <$> Numbered.items Message.check 0 vs
      | some v => pure ((Checked.misfit .notTuple v).within "messages")
    let vars := Check.field entries "vars" [] Check.mapping
    let attrs := Check.field entries "attrs" [] Check.mapping
    let echo := Check.field entries "echo" false Check.boolean
    let observer : Checked Unit := Check.field entries "observer" () fun
      | .null => .ok ()
      | v => .misfit .notCallable v
    let fields := messages.both (vars.both (attrs.both (echo.both observer)))
    return fields.map fun (messages, vars, attrs, echo, _) => { messages, vars, attrs, echo }
  | v => return .misfit (.notRecord "Session") v

/-- Why a history cannot be sent, if it cannot: it is empty, a message has neither text nor tool calls, or
a system message stands elsewhere than at its start. -/
def flaw? (s : Session) : Option String :=
  if s.messages.isEmpty then some "Session must contain at least one message"
  else
    match s.messages.findIdx? fun m => m.content == "" && m.calls.isEmpty with
    | some i => some s!"Message {i} has empty content"
    | none =>
      if 1 < (s.ofRole .system).length then some "Only one system message is allowed"
      else
        match s.messages.findIdx? (·.role = .system) with
        | some (_ + 1) => some "System message must be at the beginning"
        | _ => none

/-- Refuses a history that cannot be sent. -/
def validate (s : Session) : Except Failure Unit :=
  match s.flaw? with
  | some message => .error (.rejected message none 0)
  | none => .ok ()

/-- Equality of sessions, their contents compared as values. -/
def same (a b : Session) : Bool :=
  a.toValue.same b.toValue && a.observer == b.observer

end Colloquy.Session
