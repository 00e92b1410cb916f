import Colloquy.Backend.Anthropic
import Colloquy.Json.Printer

/-!
# OpenAI's chat completions

How a session and options are written as a request, and how a reply is read.  The results of tools are
messages of their own role, and the arguments of calls are JSON texts.
-/

namespace Colloquy.OpenAI

/-! ### Requests -/

/-- A tool call of a message. -/
def call (c : ToolCall) : Value :=
  .object [("id", .str c.id), ("type", .str "function"),
    ("function", .object [("name", .str c.name),
      ("arguments", .str (Json.render (.object c.arguments)))])]

/-- A message as an entry of the request. -/
def turn (m : Message) : Value :=
  match m.role with
  | .toolResult =>
    .object [("role", .str "tool"),
      ("tool_call_id", (m.attrs.lookup "tool_call_id").getD (.str "")),
      ("content", .str m.content)]
  | role =>
    if role = .assistant && !m.calls.isEmpty then
      .object [("role", .str "assistant"),
        ("content", if m.content = "" then .null else .str m.content),
        ("tool_calls", .list (m.calls.map call))]
    else .object [("role", .str role.word), ("content", .str m.content)]

/-- The messages of a session as entries of the request. -/
def turns (s : Session) : List Value := s.messages.map turn

/-- A function that the model may call. -/
def tool (details : Entries) : Value :=
  .object [("type", .str "function"), ("function", .object details)]

/-- The tools, and one more that stands for the structure. -/
def tools (o : Options) : List Value :=
  o.tools.map (fun t => tool [("name", .str t.name), ("description", .str t.description),
    ("parameters", .object t.parameters)]) ++
  (o.structured.map fun s => tool ([("name", .str s.name),
    ("description", .str "Respond with the requested structure."),
    ("parameters", .object s.jsonSchema)] ++
      (if s.mode = "strict" then [("strict", .bool true)] else []))).toList

/-- The choice of tools: the one that stands for the structure, or what the options say. -/
def choice (o : Options) : Entries :=
  match o.structured, o.toolChoice with
  | some s, _ =>
    [("tool_choice", .object [("type", .str "function"),
      ("function", .object [("name", .str s.name)])])]
  | none, some c => if o.tools.isEmpty then [] else [("tool_choice", .str c.word)]
  | none, none => []

/-- The request for a session; further options of the service replace its entries. -/
def request (s : Session) (o : Options) : Entries :=
  let base : Entries := [
      ("model", .str o.provider.model),
      ("temperature", o.temperature),
      ("messages", .list (turns s))] ++
    (if o.maxTokens.truthy then [("max_tokens", o.maxTokens)] else []) ++
    Anthropic.given "top_p" o.topP ++ choice o ++
    (if (tools o).isEmpty then [] else [("tools", .list (tools o))])
  base.overlay o.sdkOptions

/-! ### Replies -/

/-- What has been read of a reply so far. -/
structure Draft where
  calls : List ToolCall := []
  structured : Value := .null

/-- Reads one call of a reply, which may stand for the structure. -/
def Draft.take (wording : Wording) (o : Options) (draft : Draft) (call : Value) : Except Failure Draft := do
  let function ← Reply.field "function" call
  let arguments ← Reply.arguments function
  let isStructure ← match o.structured with
    | none => pure false
    | some s => do pure (Value.same (← Reply.field "name" function) (.str s.name))
  if isStructure then return { draft with structured := arguments }
  else
    let id ← Reply.field "id" call
    let name ← Reply.field "name" function
    let call ← Reply.toolCall wording name id arguments
    return { draft with calls := draft.calls ++ [call] }

/-- The output that a reply amounts to: that of its first choice. -/
def answer (wording : Wording) (o : Options) (reply : Value) : Except Failure Output := do
  let choices ← Reply.field "choices" reply
  match ← if choices.truthy then Reply.items choices else pure [] with
  | [] => .error (.generation "OpenAI returned no choices" (.bool false) none)
  | first :: _ => do
    let message ← Reply.field "message" first
    let calls ← Reply.field "tool_calls" message
    let draft ← (← if calls.truthy then Reply.items calls else pure []).foldlM (Draft.take wording o) {}
    let content ← Reply.field "content" message
    let finish ← Reply.field "finish_reason" first
    Reply.output wording (if content.truthy then content else .str "") draft.calls draft.structured [
      ("provider", .str "openai"),
      ("model", Reply.fieldOr "model" (.str o.provider.model) reply),
      ("finish_reason", finish)]

end Colloquy.OpenAI
