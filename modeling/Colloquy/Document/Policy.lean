import Colloquy.Document.Rules
import Colloquy.Options
import Colloquy.Retry.Policy

/-!
# Policies and options as documents

Retry policies and generation options can be written as objects.  A retry policy is written as the changes to
another one.  The parts of options are read one by one, so that what is wrong with a part is reported as the
part's own issue.
-/

namespace Colloquy.Document

variable {σ : Type}

/-! ### Retry policies -/

/-- What descriptions of failures are searched for. -/
def retryPattern : Value → Except Failure RetryPattern
  | .str s => .ok (.part s)
  | .object es => .pattern <$> pattern "" (.object es)
  | v => .ok (.other v)

/-- The patterns of a document, or those given if it does not mention any. -/
def retryPatterns (given : Option (List RetryPattern)) (v : Value) :
    Except Failure (Option (List RetryPattern)) :=
  match v.field? "patterns" with
  | none => .ok given
  | some (.list ps) => some <$> ps.mapM retryPattern
  | some _ => .ok none

/-- A retry policy with the fields of a document changed; `notify` is what it may ask to be told by. -/
def retry (notify : Failure → Nat → Float → Run σ Unit) (base : RetryPolicy σ) (v : Value) :
    Except Failure (RetryPolicy σ) := do
  return {
    maxAttempts := (v.field? "max_attempts").getD base.maxAttempts
    baseDelay := (v.field? "base_delay").getD base.baseDelay
    maxDelay := (v.field? "max_delay").getD base.maxDelay
    backoffFactor := (v.field? "backoff_factor").getD base.backoffFactor
    jitter := (v.field? "jitter").getD base.jitter
    patterns := ← retryPatterns base.patterns v
    onRetry := if v.flag "on_retry" then some notify else base.onRetry }

/-! ### Options -/

/-- The access to a provider. -/
def provider (v : Value) : Run σ ProviderConfig :=
  Run.ofChecked "ProviderConfig" (ProviderConfig.check v)

/-- The structure to answer in, which nothing is read by. -/
def structured (v : Value) : Run σ StructureSpec :=
  Run.ofChecked "StructuredOutputSpec" (StructureSpec.check v)

/-- What is read from a field that is there and not null. -/
def given {m : Type → Type} [Monad m] {α : Type} (v : Value) (name : String) (read : Value → m α) :
    m (Option α) :=
  match v.field name with
  | .null => pure none
  | x => some <$> read x

/-- A tool with the handler that is found for the field that names it. -/
def tool (handler : Value → Run σ Handler) (v : Value) : Run σ ToolSpec := do
  let spec ← Run.ofChecked "ToolSpec" (ToolSpec.check v)
  return { spec with handler := ← given v "handler" handler }

/-- Options. -/
def options (handler : Value → Run σ Handler) (v : Value) : Run σ Options := do
  let access ← given v "provider" provider
  let tools ← (v.field "tools").items.mapM (tool handler)
  let structured ← given v "structured_output" structured
  let base : Options := { provider := access.getD {}, tools, structured }
  Run.ofChecked "GenerationOptions" (base.check (.object v.entries))

end Colloquy.Document
