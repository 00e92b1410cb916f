import Colloquy.Document.Bindings
import Colloquy.Source.Build

/-!
# Sources as documents

A source is written as an object with the word for its kind, or as anything that counts as a source anyway.
The settings of a model's source are written as steps, each of which makes a copy of the source before it.
-/

namespace Colloquy.Document

variable {σ : Type}

/-! ### Policies -/

/-- What is the same for all kinds of sources, with a retry policy for documents that do not mention one. -/
def policy (b : Bindings σ) (retryByDefault : RetryPolicy σ) (v : Value) : Run σ (Policy σ) := do
  let validator ← Run.ofExcept (given v "validator" (validator b.judges))
  let pipeline ← pipeline b (v.field "middleware").items
  let retry ← Run.ofExcept (given v "retry" (retry b.notify b.retry))
  let attempts := (v.field? "max_attempts").elim 1 Value.integer
  Run.ofExcept (Policy.make validator attempts (v.flag "raise_on_failure" true) pipeline
    (retry.getD retryByDefault))

/-! ### Settings of models' sources -/

/-- The argument of a step, by its position or by its name. -/
def argument (step : Value) (position : Nat) (name : String) : Option Value :=
  ((step.field "args").items[position]?).or ((step.field "kwargs").field? name)

/-- The tool that a step describes: by a name and further arguments, or as an object. -/
def stepTool (b : Bindings σ) (step : Value) : Run σ ToolSpec :=
  match argument step 0 "tool" with
  | some (.str name) =>
    let fields := [("name", Value.str name),
        ("description", (argument step 1 "description").getD (.str ""))] ++
      ((argument step 2 "parameters").map fun p => ("parameters", p)).toList
    tool b.handler (.object fields)
  | v => tool b.handler (v.getD .null)

/-- A copy of a model's source with one more setting. -/
def setting (b : Bindings σ) (src : Source σ) (step : Value) : Run σ (Source σ) := do
  if (Source.optionsOf src.origin).isNone then
    throw (.fault .noAttribute s!"'{src.origin.kindName}' object has no such attribute")
  let first := (argument step 0 "value").getD .null
  let atProvider (kind : ProviderKind) : Run σ (Source σ) :=
    src.atProvider kind ((argument step 0 "model").bind Value.text?)
      ((argument step 1 "api_key").bind Value.text?)
  match step.word "method" with
  | "openai" => atProvider .openai
  | "anthropic" => atProvider .anthropic
  | "provider" =>
    let access ← provider first
    src.withProvider fun _ => access
  | "model" => src.withProvider fun p => { p with model := first.text }
  | "api_key" => src.withProvider fun p => { p with apiKey := first.text }
  | "temperature" => src.withOptions fun o => { o with temperature := first }
  | "max_tokens" => src.withOptions fun o => { o with maxTokens := first }
  | "top_p" => src.withOptions fun o => { o with topP := first }
  | "top_k" => src.withOptions fun o => { o with topK := first }
  | "tool_choice" =>
    let choice ← Run.ofExcept (ToolChoice.ofValue first)
    src.withOptions fun o => { o with toolChoice := some choice }
  | "max_calls" => src.withBudget first.integer?
  | "with_schema" =>
    src.withSchema (b.judges.shape first.text).dataModel
      ((argument step 1 "function_name").elim "structured_output" Value.text)
      ((argument step 2 "mode").elim "tool" Value.text)
  | "with_tool" => src.withTools [← stepTool b step]
  | "with_tools" => src.withTools (← first.items.mapM (tool b.handler))
  | "with_backend" => src.withBackend (← named b.backends first.text)
  | "structured" =>
    let spec ← structured first
    src.withOptions fun o => { o with structured := some spec }
  | method => throw (.fault .noAttribute s!"'LlmSource' object has no attribute '{method}'")

/-! ### Sources -/

/-- A model's source. -/
def modelSource (b : Bindings σ) (v : Value) : Run σ (Source σ) := do
  let shared ← given v "backend" fun name => named b.backends name.text
  let own ← given v "responses" b.backend
  let options ← given v "options" (options b.handler)
  let policy ← policy b b.retry v
  let src ← Source.model (options.getD {}) (shared.or own) (← Budget.make none) policy
  (v.field "build").items.foldlM (setting b) src

/-- What is written in the place of a source. -/
def content (b : Bindings σ) (v : Value) : Run σ (ContentInput σ) := do
  let policy := policy b { maxAttempts := .int 1 } v
  let items := (v.field "items").items.map Content.plain
  match v.word "s" with
  | "ref" => return .source (← named b.sources (v.word "name"))
  | "fn" => return .function (← b.function (v.field "fn"))
  | "literal" => return .source (.literal ((v.field? "content").getD (.str "")) (← policy))
  | "list" => return .source (← Source.list items (v.flag "loop") (← policy))
  | "random" =>
    return .source (← Source.random items (v.field "seed").integer? (← policy))
  | "callback" =>
    let f ← b.function (v.field "fn")
    return .source (.callback f (← policy))
  | "cli" =>
    let prompter ← b.prompter v
    let text := (v.field? "prompt").getD (.str "Your input: ")
    return .source (.prompt text (v.field "default").text? prompter (← policy))
  | "llm" => return .source (← modelSource b v)
  | _ => return .value v

/-- The source that is written, if it is one. -/
def source? (b : Bindings σ) (v : Value) : Run σ (Option (Source σ)) := do
  (← content b v).resolve

/-- The source that is written, where there has to be one. -/
def source (b : Bindings σ) (v : Value) : Run σ (Source σ) := do
  match ← source? b v with
  | some s => return s
  | none => throw (.fault .noAttribute "'NoneType' object has no attribute 'get_content'")

end Colloquy.Document
