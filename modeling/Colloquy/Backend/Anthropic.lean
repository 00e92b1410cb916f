import Colloquy.Backend.Reply
import Colloquy.Options
import Colloquy.Session.Basic

/-!
# Anthropic's messages

How a session and options are written as a request, and how a reply is read.  System messages go into a field
of their own, and the results of tools are part of the user's turns.
-/

namespace Colloquy.Anthropic

/-! ### Requests -/

/-- A tool call of a message. -/
def call (c : ToolCall) : Value :=
  .object [("type", .str "tool_use"), ("id", .str c.id), ("name", .str c.name),
    ("input", .object c.arguments)]

/-- A message as an entry of the request; system messages have none. -/
def turn? (m : Message) : Option Value :=
  match m.role with
  | .system => none
  | .user => some (.object [("role", .str "user"), ("content", .str m.content)])
  | .assistant =>
    let text := if m.content = "" then []
      else [Value.object [("type", .str "text"), ("text", .str m.content)]]
    let blocks := text ++ m.calls.map call
    some (.object [("role", .str "assistant"),
      ("content", if blocks.isEmpty then .str m.content else .list blocks)])
  | .toolResult =>
    some (.object [("role", .str "user"), ("content", .list [.object [
      ("type", .str "tool_result"),
      ("tool_use_id", (m.attrs.lookup "tool_call_id").getD (.str "")),
      ("content", .str m.content)]])])

/-- The messages of a session as entries of the request. -/
def turns (s : Session) : List Value := s.messages.filterMap turn?

/-- The texts of the system messages, with empty lines between them. -/
def systemText (s : Session) : String :=
  "\n\n".intercalate ((s.ofRole .system).map (·.content))

/-- A tool that the model may call. -/
def tool (name description : String) (parameters : Entries) : Value :=
  .object [("name", .str name), ("description", .str description),
    ("input_schema", .object parameters)]

/-- The word for a choice of tools. -/
def choiceWord : ToolChoice → String
  | .auto => "auto"
  | .required => "any"
  | .none => "none"

/-- The choice of tools: the one that stands for the structure, or what the options say. -/
def choice (o : Options) : Entries :=
  match o.structured, o.toolChoice with
  | some s, _ => [("tool_choice", .object [("type", .str "tool"), ("name", .str s.name)])]
  | none, some c =>
    if o.tools.isEmpty then [] else [("tool_choice", .object [("type", .str (choiceWord c))])]
  | none, none => []

/-- The tools, and one more that stands for the structure. -/
def tools (o : Options) : List Value :=
  o.tools.map (fun t => tool t.name t.description t.parameters) ++
    (o.structured.map fun s =>
      tool s.name "Respond with the requested structure." s.jsonSchema).toList

/-- An entry for a value other than null. -/
def given (name : String) : Value → Entries
  | .null => []
  | v => [(name, v)]

/-- The request for a session; further options of the service replace its entries. -/
def request (s : Session) (o : Options) : Entries :=
  let system := systemText s
  let base : Entries := [
      ("model", .str o.provider.model),
      ("max_tokens", if o.maxTokens.truthy then o.maxTokens else .int 1024),
      ("temperature", o.temperature),
      ("messages", .list (turns s))] ++
    (if system = "" then [] else [("system", .str system)]) ++
    given "top_p" o.topP ++ given "top_k" o.topK ++ choice o ++
    (if (tools o).isEmpty then [] else [("tools", .list (tools o))])
  base.overlay o.sdkOptions

/-! ### Replies -/

/-- What has been read of a reply so far. -/
structure Draft where
  texts : List Value := []
  calls : List ToolCall := []
  structured : Value := .null

/-- Reads one block of a reply: a text, a call, or the structure; other blocks are passed over. -/
def Draft.take (wording : Wording) (o : Options) (draft : Draft) (block : Value) : Except Failure Draft := do
  match ← Reply.field "type" block with
  | .str "text" => do
    return { draft with texts := draft.texts ++ [← Reply.field "text" block] }
  | .str "tool_use" => do
    let structureName := o.structured.map fun s => Value.str s.name
    let name ← if structureName.isSome then Reply.field "name" block else pure .null
    if structureName.any (Value.same name) then
      return { draft with
        structured := .object (← Reply.entries (← Reply.field "input" block)) }
    else
      let id ← Reply.field "id" block
      let name ← Reply.field "name" block
      let input ← Reply.entries (← Reply.field "input" block)
      let call ← Reply.toolCall wording name id (.object input)
      return { draft with calls := draft.calls ++ [call] }
  | _ => return draft

/-- The output that a reply amounts to. -/
def answer (wording : Wording) (o : Options) (reply : Value) : Except Failure Output := do
  let blocks ← Reply.items (← Reply.field "content" reply)
  let draft ← blocks.foldlM (Draft.take wording o) {}
  let content ← Reply.joined draft.texts
  Reply.output wording (.str content) draft.calls draft.structured [
    ("provider", .str "anthropic"),
    ("model", Reply.fieldOr "model" (.str o.provider.model) reply),
    ("stop_reason", Reply.fieldOr "stop_reason" .null reply)]

end Colloquy.Anthropic
