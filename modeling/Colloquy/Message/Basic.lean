import Colloquy.Failure

/-!
# Messages

A message has a role, a text and attributes.  Tool calls and structured content belong to messages of the
assistant: `Message.Admissible` states this rule, `system`, `user`, `assistant` and `toolResult` build
messages that keep it, and `toValue` writes a message as an object.
-/

namespace Colloquy

/-! ### Roles -/

/-- Who speaks. -/
inductive Role where
  | system
  | user
  | assistant
  | toolResult
  deriving DecidableEq, Repr, Inhabited

namespace Role

/-- The word for a role. -/
def word : Role → String
  | system => "system"
  | user => "user"
  | assistant => "assistant"
  | toolResult => "tool_result"

/-- All roles, in their order. -/
def all : List Role := [system, user, assistant, toolResult]

/-- The role that a word stands for. -/
def ofWord? (s : String) : Option Role :=
  all.find? (·.word == s)

theorem ofWord?_word (r : Role) : ofWord? r.word = some r := by
  cases r <;> decide

end Role

/-! ### Tools -/

/-- A tool invocation that the model asks for. -/
structure ToolCall where
  name : String
  arguments : Entries
  id : String
  deriving Inhabited

/-- What a tool answers: a value, or any other object of the callers' language, with its text and with what writing it
as JSON comes to. -/
inductive Payload where
  | value (v : Value)
  | other (text : String) (json : Except Failure String)
  deriving Inhabited

instance : Coe Value Payload := ⟨.value⟩

/-- What a tool answered to a call. -/
structure ToolResult where
  callId : String
  result : Payload
  deriving Inhabited

/-! ### Messages -/

/-- An entry of a conversation. -/
structure Message where
  role : Role
  content : String := ""
  attrs : Entries := []
  toolCalls : Option (List ToolCall) := none
  structured : Option Entries := none
  deriving Inhabited

namespace Message

/-- A message of the system. -/
def system (content : String) : Message := { role := .system, content }

/-- A message of the user. -/
def user (content : String) : Message := { role := .user, content }

/-- A message of the assistant. -/
def assistant (content : String) : Message := { role := .assistant, content }

/-- The answer of a tool to the call named by `callId`. -/
def toolResult (content callId : String) : Message :=
  { role := .toolResult, content, attrs := [("tool_call_id", .str callId)] }

/-- The calls of a message; none are the same as an empty list here. -/
def calls (m : Message) : List ToolCall := m.toolCalls.getD []

/-- Only the assistant calls tools and answers in a structure. -/
def Admissible (m : Message) : Prop :=
  m.role ≠ .assistant → m.calls = [] ∧ m.structured = none

/-- What breaks the rule of the roles, if anything does. -/
def breach? (m : Message) : Option String :=
  if m.role = .assistant then none
  else if !m.calls.isEmpty then some (m.role.word ++ " messages cannot carry tool calls")
  else if m.structured.isSome then
    some (m.role.word ++ " messages cannot carry structured content")
  else none

theorem breach?_eq_none_iff (m : Message) : m.breach? = none ↔ m.Admissible := by
  unfold breach? Admissible
  by_cases hr : m.role = .assistant
  · simp [hr]
  · cases hc : m.calls <;> cases hs : m.structured <;> simp [hr]

/-! ### Copies -/

/-- The message with another text. -/
def withContent (m : Message) (content : String) : Message := { m with content }

/-- The message with attributes overlaid. -/
def withAttrs (m : Message) (attrs : Entries) : Message :=
  { m with attrs := m.attrs.overlay attrs }

/-- The message with other structured content. -/
def withStructured (m : Message) (data : Entries) : Message := { m with structured := some data }

end Message

/-! ### Objects -/

/-- A tool call as an object. -/
def ToolCall.toValue (c : ToolCall) : Value :=
  .object [("name", .str c.name), ("arguments", .object c.arguments), ("id", .str c.id)]

/-- What a tool answers as a value; of another object the text. -/
def Payload.toValue : Payload → Value
  | value v => v
  | other text _ => .str text

/-- A tool result as an object. -/
def ToolResult.toValue (r : ToolResult) : Value :=
  .object [("tool_call_id", .str r.callId), ("result", r.result.toValue)]

/-- An object, or null for none. -/
def Value.ofEntries? : Option Entries → Value
  | none => .null
  | some entries => .object entries

/-- A message as an object. -/
def Message.toValue (m : Message) : Value :=
  .object [
    ("role", .str m.role.word),
    ("content", .str m.content),
    ("attrs", .object m.attrs),
    ("tool_calls", match m.toolCalls with
      | none => .null
      | some calls => .list (calls.map ToolCall.toValue)),
    ("structured_content", .ofEntries? m.structured)]

end Colloquy
