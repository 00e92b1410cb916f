import Colloquy.Message.Basic

/-!
# Sessions

A session is the state of a conversation: its messages in order, the vars that templates fill in, attributes,
and whether messages are echoed to an observer as they are added.  Sessions are values; each operation
answers a new one.
-/

namespace Colloquy

/-- The handle of an observer of messages. -/
structure Observer where
  handle : Nat
  deriving DecidableEq, Repr, Inhabited

/-- The state of a conversation. -/
structure Session where
  messages : List Message := []
  vars : Entries := []
  attrs : Entries := []
  echo : Bool := false
  observer : Option Observer := none
  deriving Inhabited

namespace Session

/-! ### Messages -/

/-- The session with a message at its end, without any echo. -/
def append (s : Session) (m : Message) : Session :=
  { s with messages := s.messages ++ [m] }

/-- The last message. -/
def last? (s : Session) : Option Message := s.messages.getLast?

/-- The text of the last message; empty if there is none. -/
def lastText (s : Session) : String := (s.last?.map (·.content)).getD ""

/-- The messages of a role. -/
def ofRole (s : Session) (role : Role) : List Message :=
  s.messages.filter (·.role = role)

/-! ### Vars and attributes -/

/-- The session with a var set. -/
def withVar (s : Session) (key : String) (value : Value) : Session :=
  { s with vars := s.vars.insert key value }

/-- The session with vars overlaid. -/
def withVars (s : Session) (vars : Entries) : Session :=
  { s with vars := s.vars.overlay vars }

/-- The session with an attribute set. -/
def withAttr (s : Session) (key : String) (value : Value) : Session :=
  { s with attrs := s.attrs.insert key value }

/-- The session with attributes overlaid. -/
def withAttrs (s : Session) (attrs : Entries) : Session :=
  { s with attrs := s.attrs.overlay attrs }

/-- The session with vars and attributes overlaid. -/
def withContext (s : Session) (vars attrs : Entries) : Session :=
  (s.withVars vars).withAttrs attrs

/-- The value of a var, or a default for a var that is not set. -/
def getVar (s : Session) (key : String) (default : Value) : Value :=
  (s.vars.lookup key).getD default

/-- The session with the echo switched, and with another observer if one is given. -/
def withEcho (s : Session) (echo : Bool) (observer : Option Observer) : Session :=
  { s with echo, observer := observer.or s.observer }

/-! ### Objects -/

/-- A session as an object.  The observer is no part of it. -/
def toValue (s : Session) : Value :=
  .object [
    ("messages", .list (s.messages.map Message.toValue)),
    ("vars", .object s.vars),
    ("attrs", .object s.attrs),
    ("echo", .bool s.echo)]

end Session

end Colloquy
