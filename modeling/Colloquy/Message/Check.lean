import Colloquy.Message.Basic
import Colloquy.Number.Arithmetic
import Colloquy.Schema.Check

/-!
# Reading messages

Messages, tool calls and tool results are read from objects.  A tool call without an id is given the next
fresh one, in the order in which calls are met and whether or not anything else is wrong; `Numbered` carries
the count of ids that have been given out.  `same` compares messages as values are compared.
-/

namespace Colloquy

/-! ### Fresh ids -/

/-- A computation that numbers tool calls. -/
abbrev Numbered (α : Type) := StateM Nat α

/-- The id with a number: twelve digits, filled up with zeros. -/
def freshId (n : Nat) : String :=
  let digits := toString n
  "call_" ++ String.ofList (List.replicate (12 - digits.length) '0') ++ digits

/-- The next fresh id. -/
def nextId : Numbered String := fun n => (freshId (n + 1), n + 1)

/-! ### Checks -/

/-- Reads a list item by item, numbering as it goes. -/
def Numbered.items {α : Type} (check : Value → Numbered (Checked α)) :
    Nat → List Value → Numbered (Checked (List α))
  | _, [] => return .ok []
  | i, v :: rest => do
    let first ← check v
    let others ← items check (i + 1) rest
    return (Checked.both (first.within (toString i)) others).map fun (a, as) => a :: as

/-- Reads a tool call. -/
def ToolCall.check (v : Value) : Numbered (Checked ToolCall) := do
  match v with
  | .object entries =>
    let name := Check.required entries "name" Check.text
    let arguments := Check.field entries "arguments" [] Check.mapping
    let id : Checked String ← match Assoc.lookup "id" entries with
      | none => Except.ok <$> nextId
      | some v => pure ((Check.text v).within "id")
    return (name.both (arguments.both id)).map fun (name, arguments, id) => { name, arguments, id }
  | v => return .misfit (.notRecord "ToolCall") v

/-- Reads a tool result. -/
def ToolResult.check : Check ToolResult
  | .object entries =>
    ((Check.required entries "tool_call_id" Check.text).both
      (Check.field entries "result" .null Check.any)).map
      fun (callId, result) => { callId, result := .value result }
  | v => .misfit (.notRecord "ToolResult") v

/-- Reads the word for a role. -/
def Role.check : Check Role :=
  Check.word Role.ofWord? (Role.all.map Role.word)

/-- Reads a message; one that breaks the rule of the roles is refused. -/
def Message.check (v : Value) : Numbered (Checked Message) := do
  match v with
  | .object entries =>
    let role := Check.required entries "role" Role.check
    let content := Check.field entries "content" "" Check.text
    let attrs := Check.field entries "attrs" [] Check.mapping
    let toolCalls : Checked (Option (List ToolCall)) ← match Assoc.lookup "tool_calls" entries with
      | none | some .null => pure (.ok none)
      | some (.list vs) => do
        pure (Checked.within "tool_calls" ((← Numbered.items ToolCall.check 0 vs).map some))
      | some v => pure ((Checked.misfit .notList v).within "tool_calls")
    let structured := Check.field entries "structured_content" none (Check.optional Check.mapping)
    let fields := role.both (content.both (attrs.both (toolCalls.both structured)))
    return fields.bind fun (role, content, attrs, toolCalls, structured) =>
      let m : Message := { role, content, attrs, toolCalls, structured }
      match m.breach? with
      | some message => Checked.misfit (.rule message) (.object entries)
      | none => .ok m
  | v => return .misfit (.notRecord "Message") v

/-! ### Equality -/

/-- Equality of tool calls, their arguments compared as values. -/
def ToolCall.same (a b : ToolCall) : Bool :=
  a.name == b.name && Value.same (.object a.arguments) (.object b.arguments) && a.id == b.id

/-- Equality of messages, their attributes and contents compared as values. -/
def Message.same (a b : Message) : Bool :=
  a.toValue.same b.toValue

end Colloquy
