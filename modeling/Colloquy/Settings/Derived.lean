import Colloquy.Settings.Basic
import Colloquy.Source.Basic
import Colloquy.Value.Access

/-!
# What settings are for

From settings come the access to a provider, a retry policy, the level of the log and the source of a model's
content.  What the settings hold is only checked here.
-/

namespace Colloquy.Settings

/-! ### Providers -/

/-- The provider that a value names. -/
def providerKind (v : Value) : Except Failure ProviderKind :=
  match v.text?.bind ProviderKind.ofWord? with
  | some kind => .ok kind
  | none => .error (.fault .badValue (v.literal ++ " is not a valid ProviderType"))

/-- A value that counts as true, and null otherwise. -/
def orNull (v : Value) : Value := if v.truthy then v else .null

/-- The access to the provider. -/
def provider (wording : Wording) (s : Settings) : Except Failure ProviderConfig := do
  let kind ← providerKind s.model.provider
  let entries := [("type", Value.str kind.word), ("model", s.model.model),
    ("api_key", s.model.apiKey), ("base_url", orNull s.model.baseUrl)]
  (ProviderConfig.check (.object entries)).mapError (.ofIssues wording "ProviderConfig")

/-! ### Retry policies -/

/-- The items of a value: of a list its items, of a text its characters, of an object its keys. -/
def itemsOf : Value → Except Failure (List Value)
  | .list items => .ok items
  | .str s => .ok (s.toList.map fun c => .str (String.singleton c))
  | .object entries => .ok ((Assoc.keys entries).map .str)
  | v => .error (.fault .wrongType s!"'{v.kindName}' object is not iterable")

/-- What a pattern searches for. -/
def patternOf : Value → RetryPattern
  | .str s => .part s
  | v => .other v

/-- The patterns that are set, or the usual ones. -/
def patterns (s : Settings) : Except Failure (List RetryPattern) :=
  match s.retry.patterns with
  | .null => .ok RetryPattern.passing
  | v => do return (← itemsOf v).map patternOf

/-- The retry policy. -/
def retryPolicy {σ : Type} (s : Settings) : Except Failure (RetryPolicy σ) := do
  return {
    maxAttempts := s.retry.maxAttempts
    baseDelay := s.retry.baseDelay
    maxDelay := s.retry.maxDelay
    backoffFactor := s.retry.backoffFactor
    jitter := s.retry.jitter
    patterns := some (← s.patterns) }

/-! ### Sources -/

/-- The options for the model. -/
def options (wording : Wording) (s : Settings) : Except Failure Options := do
  let base : Options := { provider := ← s.provider wording }
  let entries := [("temperature", s.model.temperature), ("max_tokens", s.model.maxTokens)]
  (base.check (.object entries)).mapError (.ofIssues wording "GenerationOptions")

/-- A source of the model's content. -/
def source {σ : Type} (s : Settings) (backend : Option (Backend σ) := none) :
    Run σ (Source σ) := do
  let options ← Run.ofExcept (s.options (← read).wording)
  let budget ← Budget.make s.callLimit
  let retry ← Run.ofExcept s.retryPolicy
  Source.model options backend budget (.ofRetry retry)

/-! ### Logs -/

/-- The names of levels and the levels that they stand for. -/
def levelNames : List (String × String) :=
  [("CRITICAL", "critical"), ("FATAL", "critical"), ("ERROR", "error"), ("WARN", "warning"),
    ("WARNING", "warning"), ("INFO", "info"), ("DEBUG", "debug"), ("NOTSET", "notset")]

/-- The least level that is logged: all of them while debugging. -/
def level (s : Settings) : Except Failure String :=
  if s.debug.truthy then .ok "debug"
  else
    match s.logLevel with
    | .str name =>
      match Assoc.lookup (Text.upper name) levelNames with
      | some level => .ok level
      | none => .error (.fault .missingKey (Text.lower ("Level " ++ Text.upper name)))
    | v => .error (.fault .noAttribute s!"'{v.kindName}' object has no attribute 'upper'")

end Colloquy.Settings
