import Colloquy.Failure
import Colloquy.Message.Check
import Colloquy.Store.Cells

/-!
# Outputs

What a source hands back: an `Output` with tool calls, structured content and metadata, or any other value,
normally a text.  `Content.text` is the part that validators and transformations see.
-/

namespace Colloquy

/-- A model's answer. -/
structure Output where
  /-- The text of the answer; a transformation may have put another value in its place. -/
  content : Value := .str ""
  role : Role := .assistant
  toolCalls : List ToolCall := []
  toolResults : List ToolResult := []
  structured : Option Entries := none
  metadata : Entries := []
  /-- What the structured content was read as, unless the output is shared and was read since. -/
  parsed : Option Value := none
  /-- The number of an output that may be held in several places at once; a copy of its own has none. -/
  object : Option Nat := none
  deriving Inhabited

/-- What the structured content of an output was read as, by the readings of shared outputs. -/
def Output.reading (o : Output) (readings : Cells (Option Value)) : Option Value :=
  match o.object with
  | none => o.parsed
  | some object => (readings.get object).or o.parsed

/-- A copy of an output that nobody shares. -/
def Output.copied (o : Output) (readings : Cells (Option Value)) : Output :=
  { o with parsed := o.reading readings, object := none }

/-- An output as an object. -/
def Output.toValue (o : Output) : Value :=
  .object [
    ("content", o.content), ("role", .str o.role.word),
    ("tool_calls", .list (o.toolCalls.map ToolCall.toValue)),
    ("tool_results", .list (o.toolResults.map ToolResult.toValue)),
    ("structured_output", .ofEntries? o.structured), ("metadata", .object o.metadata),
    ("parsed", o.parsed.getD .null)]

/-- What a source hands back. -/
inductive Content where
  | plain (value : Value)
  | output (o : Output)
  deriving Inhabited

namespace Content

/-- The text of content. -/
def text : Content → Value
  | plain v => v
  | output o => o.content

/-- The output that content amounts to. -/
def toOutput : Content → Checked Output
  | output o => .ok o
  | plain v => ((Check.text v).within "content").map fun s => { content := .str s }

end Content

/-- Reads an output from an object. -/
def Output.check (v : Value) : Numbered (Checked Output) := do
  match v with
  | .object entries =>
    let content := Check.field entries "content" "" Check.text
    let role := Check.field entries "role" .assistant Role.check
    let toolCalls : Checked (List ToolCall) ← match Assoc.lookup "tool_calls" entries with
      | none => pure (.ok [])
      | some (.list vs) => Checked.within "tool_calls" <$> Numbered.items ToolCall.check 0 vs
      | some v => pure ((Checked.misfit .notList v).within "tool_calls")
    let toolResults := Check.field entries "tool_results" [] (Check.list ToolResult.check)
    let structured := Check.field entries "structured_output" none (Check.optional Check.mapping)
    let metadata := Check.field entries "metadata" [] Check.mapping
    let parsed := Check.field entries "parsed" none fun v =>
      .ok (match v with | .null => none | v => some v)
    let fields := content.both (role.both (toolCalls.both (toolResults.both (structured.both
      (metadata.both parsed)))))
    return fields.map fun (content, role, toolCalls, toolResults, structured, metadata, parsed) =>
      { content := .str content, role, toolCalls, toolResults, structured, metadata, parsed }
  | v => return .misfit (.notRecord "ModelOutput") v

end Colloquy
