import Colloquy.Backend.OpenAI
import Colloquy.Run

/-!
# Providers' services

Generates content by a provider's service: a client is made once for each access, the session and the options
are sent as a request, and the tool calls of the reply are answered by their handlers.
-/

namespace Colloquy.Provider

variable {σ : Type}

/-! ### Clients -/

/-- What the client for a provider is made for. -/
def keyOf (p : ProviderConfig) : ClientKey := ⟨p.kind, p.apiKey, p.baseUrl⟩

/-- Makes the client for a provider, unless the backend with this cell has one already. -/
def connect (cell : Nat) (p : ProviderConfig) : Run σ Unit := do
  let key := keyOf p
  if ((← get).clients.get cell).contains key then return
  if p.apiKey = "" then
    throw (.configuration s!"No API key configured for {p.kind.word}" none)
  let w ← read
  let refusal ← Run.onHost fun h =>
    let (refusal, h) := w.connect key h
    (.ok refusal, h)
  match refusal with
  | some reason =>
    throw (.configuration s!"{p.kind.word} SDK is not installed: {reason}" (some FaultKind.missingModule.name))
  | none => do
    Run.log (.clientCreated p.kind.word p.model)
    modify fun s => { s with clients := s.clients.set cell (s.clients.get cell ++ [key]) }

/-! ### Tools -/

/-- The handler of the last tool with a name that has one. -/
def handlerOf (tools : List ToolSpec) (name : String) : Option Handler :=
  (tools.filter (·.name = name)).foldl (fun found t => t.handler.or found) none

/-- The result of a handler; a failure is reported and becomes the result. -/
def callHandler (h : Handler) (c : ToolCall) : Run σ Value := do
  let w ← read
  match ← Run.outcome (Run.onHost (w.handle h c.arguments)) with
  | .ok v => return v
  | .error f => do
    Run.log (.handlerFailed c.name f.text)
    return .object [("error", .str f.text)]

/-- Answers those calls that have a handler. -/
def answerCalls (tools : List ToolSpec) : List ToolCall → Run σ (List ToolResult)
  | [] => return []
  | c :: rest => do
    match handlerOf tools c.name with
    | none => answerCalls tools rest
    | some h => do
      let result ← callHandler h c
      return { callId := c.id, result } :: (← answerCalls tools rest)

/-! ### Generation -/

/-- Sends a request to a provider's service. -/
def send (p : ProviderConfig) (request : Entries) : Run σ Value := do
  let w ← read
  Run.onHost (w.send (keyOf p) request)

/-- The output of a provider's service before its tool calls are answered. -/
def ask (s : Session) (o : Options) : Run σ Output := do
  match o.provider.kind with
  | .anthropic => do
    let reply ← send o.provider (Anthropic.request s o)
    Run.ofExcept (Anthropic.answer (← read).wording o reply)
  | .openai => do
    match o.topK with
    | .null => pure ()
    | topK => Run.log (.topKIgnored topK)
    let reply ← send o.provider (OpenAI.request s o)
    Run.ofExcept (OpenAI.answer (← read).wording o reply)

/-- The output of a provider's service, by the clients in a cell.  It may be kept and handed out again. -/
def generate (cell : Nat) (s : Session) (o : Options) : Run σ Output := do
  connect cell o.provider
  let out ← ask s o
  let toolResults ← answerCalls o.tools out.toolCalls
  return { out with toolResults, object := some (← Run.newObject) }

end Colloquy.Provider
