import Colloquy.Message.Basic
import Colloquy.Schema.Shape

/-!
# Generation options

What a backend is told besides the session: the provider, sampling numbers, tools, and the structure in
which to answer.  Sampling numbers are kept as they were given, since builders set them without a check.
A tool's handler and the model behind a structure are no part of what `toValue` writes.
-/

namespace Colloquy

/-! ### Providers -/

/-- The services that generate content. -/
inductive ProviderKind where
  | openai
  | anthropic
  deriving DecidableEq, Repr, Inhabited

namespace ProviderKind

/-- The word for a provider. -/
def word : ProviderKind → String
  | openai => "openai"
  | anthropic => "anthropic"

/-- All providers, in their order. -/
def all : List ProviderKind := [openai, anthropic]

/-- The provider that a word stands for. -/
def ofWord? (s : String) : Option ProviderKind :=
  all.find? (·.word == s)

end ProviderKind

/-- The model that a provider is asked for unless another is named. -/
def ProviderKind.defaultModel : ProviderKind → String
  | .openai => "gpt-4o-mini"
  | .anthropic => "claude-sonnet-4-20250514"

/-- A provider's model and the access to it. -/
structure ProviderConfig where
  kind : ProviderKind := .anthropic
  model : String := ProviderKind.anthropic.defaultModel
  apiKey : String := ""
  baseUrl : Option String := none
  deriving DecidableEq, Repr, Inhabited

/-- Reads the access to a provider. -/
def ProviderConfig.check : Check ProviderConfig
  | .object entries =>
    let kind := Check.field entries "type" .anthropic
      (Check.word ProviderKind.ofWord? (ProviderKind.all.map ProviderKind.word))
    let model := Check.field entries "model" ProviderKind.anthropic.defaultModel Check.text
    let apiKey := Check.field entries "api_key" "" Check.text
    let baseUrl := Check.field entries "base_url" none (Check.optional Check.text)
    (kind.both (model.both (apiKey.both baseUrl))).map fun (kind, model, apiKey, baseUrl) =>
      { kind, model, apiKey, baseUrl }
  | v => .misfit (.notRecord "ProviderConfig") v

/-- The access to a provider as an object. -/
def ProviderConfig.toValue (p : ProviderConfig) : Value :=
  .object [("type", .str p.kind.word), ("model", .str p.model), ("api_key", .str p.apiKey),
    ("base_url", .ofText? p.baseUrl)]

/-! ### Tools and structures -/

/-- The handle of a function that answers tool calls. -/
structure Handler where
  handle : Nat
  deriving DecidableEq, Repr, Inhabited

/-- A tool that the model may call.  Calls are answered by the handler, if there is one. -/
structure ToolSpec where
  name : String
  description : String := ""
  parameters : Entries := [("type", .str "object"), ("properties", .object [])]
  handler : Option Handler := none
  deriving Inhabited

/-- Reads a tool without its handler. -/
def ToolSpec.check : Check ToolSpec
  | .object entries =>
    let name := Check.required entries "name" Check.text
    let description := Check.field entries "description" "" Check.text
    let parameters := Check.field entries "parameters"
      [("type", .str "object"), ("properties", .object [])] Check.mapping
    (name.both (description.both parameters)).map fun (name, description, parameters) =>
      { name, description, parameters }
  | v => .misfit (.notRecord "ToolSpec") v

/-- A tool as an object. -/
def ToolSpec.toValue (t : ToolSpec) : Value :=
  .object [("name", .str t.name), ("description", .str t.description),
    ("parameters", .object t.parameters)]

/-- Whether the model may, must or must not call tools. -/
inductive ToolChoice where
  | auto
  | required
  | none
  deriving DecidableEq, Repr, Inhabited

namespace ToolChoice

/-- The word for a choice. -/
def word : ToolChoice → String
  | auto => "auto"
  | required => "required"
  | none => "none"

/-- All choices, in their order. -/
def all : List ToolChoice := [auto, required, none]

/-- The choice that a word stands for. -/
def ofWord? (s : String) : Option ToolChoice :=
  all.find? (·.word == s)

end ToolChoice

/-- What structures are read by: the reading of an object, or what is wrong with it, and the JSON schema. -/
structure DataModel where
  read : Entries → Checked Value
  document : Entries

/-- Records of a shape as what structures are read by. -/
def Shape.dataModel (shape : Shape) : DataModel where
  read entries := shape.read .value (.object entries)
  document := shape.document

/-- The structure in which the model has to answer, asked for as a call of a function. -/
structure StructureSpec where
  name : String := "structured_output"
  jsonSchema : Entries
  mode : String := "tool"
  /-- What answers are read by. -/
  model : Option DataModel := none
  deriving Inhabited

/-- Reads a structure that nothing is read by. -/
def StructureSpec.check : Check StructureSpec
  | .object entries =>
    let name := Check.field entries "name" "structured_output" Check.text
    let jsonSchema := Check.required entries "json_schema" Check.mapping
    let mode := Check.field entries "mode" "tool" Check.text
    (name.both (jsonSchema.both mode)).map fun (name, jsonSchema, mode) =>
      { name, jsonSchema, mode }
  | v => .misfit (.notRecord "StructuredOutputSpec") v

/-- A structure as an object. -/
def StructureSpec.toValue (s : StructureSpec) : Value :=
  .object [("name", .str s.name), ("json_schema", .object s.jsonSchema), ("mode", .str s.mode)]

/-! ### Options -/

/-- What a backend is told besides the session. -/
structure Options where
  provider : ProviderConfig := {}
  temperature : Value := .float 0.7
  maxTokens : Value := .int 1024
  topP : Value := .null
  topK : Value := .null
  tools : List ToolSpec := []
  toolChoice : Option ToolChoice := none
  structured : Option StructureSpec := none
  sdkOptions : Entries := []
  deriving Inhabited

namespace Options

/-- Reads the scalar options of an object over the given ones; provider, tools and structure are taken from
there. -/
def check (base : Options) : Check Options
  | .object entries =>
    let temperature := Check.field entries "temperature" base.temperature
      fun v => (Check.number v).map .float
    let maxTokens := Check.field entries "max_tokens" base.maxTokens fun v =>
      (Check.optional Check.integer v).map fun n? => (n?.map Value.int).getD .null
    let topP := Check.field entries "top_p" base.topP fun v =>
      (Check.optional Check.number v).map fun x? => (x?.map Value.float).getD .null
    let topK := Check.field entries "top_k" base.topK fun v =>
      (Check.optional Check.integer v).map fun n? => (n?.map Value.int).getD .null
    let toolChoice := Check.field entries "tool_choice" base.toolChoice
      (Check.optional (Check.word ToolChoice.ofWord? (ToolChoice.all.map ToolChoice.word)))
    let sdkOptions := Check.field entries "sdk_options" base.sdkOptions Check.mapping
    (temperature.both (maxTokens.both (topP.both (topK.both (toolChoice.both sdkOptions))))).map
      fun (temperature, maxTokens, topP, topK, toolChoice, sdkOptions) =>
        { base with temperature, maxTokens, topP, topK, toolChoice, sdkOptions }
  | v => .misfit (.notRecord "GenerationOptions") v

/-- Options as an object. -/
def toValue (o : Options) : Value :=
  .object [
    ("provider", o.provider.toValue),
    ("temperature", o.temperature),
    ("max_tokens", o.maxTokens),
    ("top_p", o.topP),
    ("top_k", o.topK),
    ("tools", .list (o.tools.map ToolSpec.toValue)),
    ("tool_choice", .ofText? (o.toolChoice.map ToolChoice.word)),
    ("structured_output", match o.structured with
      | none => .null
      | some s => s.toValue),
    ("sdk_options", .object o.sdkOptions)]

end Options

end Colloquy
