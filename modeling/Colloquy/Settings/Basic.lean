import Colloquy.Options
import Colloquy.Settings.Environment
import Colloquy.Yaml.Document

/-!
# Settings

What can be set from outside: by a file, and by variables of the environment that override it.  Values are
kept as the file writes them, except for the two numbers of calls and rounds, which have to be integers.
`Settings.load` reads the file that is given or named by a variable, and `Settings.current` keeps what has been
read.
-/

namespace Colloquy

/-! ### Settings -/

/-- How a model is asked. -/
structure ModelSettings where
  provider : Value := .str ProviderKind.anthropic.word
  model : Value := .str ProviderKind.anthropic.defaultModel
  temperature : Value := .float 0.7
  maxTokens : Value := .int 1024
  apiKey : Value := .str ""
  baseUrl : Value := .str ""

/-- How failed attempts are repeated. -/
structure RetrySettings where
  maxAttempts : Value := .int 3
  baseDelay : Value := .float 1.0
  maxDelay : Value := .float 10.0
  backoffFactor : Value := .float 2.0
  jitter : Value := .bool true
  /-- What failures are searched for; null stands for the usual patterns. -/
  patterns : Value := .null

/-- All that can be set. -/
structure Settings where
  debug : Value := .bool false
  echo : Value := .bool false
  /-- The greatest number of model calls, which only counts while debugging. -/
  maxCalls : Int := 100
  /-- The greatest number of rounds of a loop. -/
  maxRounds : Int := 100
  logLevel : Value := .str "INFO"
  model : ModelSettings := {}
  retry : RetrySettings := {}

namespace Settings

/-- The limit on model calls, if there is one. -/
def callLimit (s : Settings) : Option Int :=
  if s.debug.truthy then some s.maxCalls else none

/-! ### Files -/

/-- The value of an entry, or a default for a missing one. -/
def entry (entries : Entries) (name : String) (default : Value) : Value :=
  (entries.lookup name).getD default

/-- The entries of an object; anything else has none to look up. -/
def entriesOf : Value → Except Failure Entries
  | .object entries => .ok entries
  | v => .error (.fault .noAttribute s!"'{v.kindName}' object has no attribute 'get'")

/-- Settings for a model. -/
def modelOf (entries : Entries) : ModelSettings :=
  let usual : ModelSettings := {}
  { provider := entry entries "provider" usual.provider
    model := entry entries "model" usual.model
    temperature := entry entries "temperature" usual.temperature
    maxTokens := entry entries "max_tokens" usual.maxTokens
    apiKey := entry entries "api_key" usual.apiKey
    baseUrl := entry entries "base_url" usual.baseUrl }

/-- Settings for repeated attempts. -/
def retryOf (entries : Entries) : RetrySettings :=
  let usual : RetrySettings := {}
  { maxAttempts := entry entries "max_attempts" usual.maxAttempts
    baseDelay := entry entries "base_delay" usual.baseDelay
    maxDelay := entry entries "max_delay" usual.maxDelay
    backoffFactor := entry entries "backoff_factor" usual.backoffFactor
    jitter := entry entries "jitter" usual.jitter
    patterns := entry entries "retryable_patterns" usual.patterns }

/-- A part of the settings that has entries of its own, or a default if it is missing. -/
def part {α : Type} (entries : Entries) (name : String) (default : α) (read : Entries → α) :
    Except Failure α :=
  match entries.lookup name with
  | none => .ok default
  | some v => read <$> entriesOf v

/-- The settings of entries. -/
def ofEntries (entries : Entries) : Except Failure Settings := do
  let usual : Settings := {}
  let maxCalls ← (entry entries "max_llm_calls" (.int usual.maxCalls)).toInteger
  let maxRounds ← (entry entries "loop_max_iterations" (.int usual.maxRounds)).toInteger
  let model ← part entries "llm" usual.model modelOf
  let retry ← part entries "retry" usual.retry retryOf
  return {
    debug := entry entries "debug" usual.debug
    echo := entry entries "echo" usual.echo
    maxCalls, maxRounds
    logLevel := entry entries "log_level" usual.logLevel
    model, retry }

/-- The settings of a document, whose texts may refer to the environment. -/
def ofDocument (env : Environment) (document : Value) : Except Failure Settings := do
  ofEntries (← entriesOf (env.fill (if document.truthy then document else .object [])))

/-- The settings of a file. -/
def ofText (env : Environment) (text : String) : Except Failure Settings := do
  ofDocument env (← Yaml.read text)

/-! ### Overrides -/

/-- The settings with those replaced that variables of the environment set. -/
def override (env : Environment) (s : Settings) : Except Failure Settings := do
  let maxCalls ← match (env.lookup "PROMPTWEAVE_MAX_LLM_CALLS").filter (· ≠ "") with
    | none => pure s.maxCalls
    | some text => Number.integerOf text
  return { s with
    debug := ((env.switch? "PROMPTWEAVE_DEBUG").map Value.bool).getD s.debug
    echo := ((env.switch? "PROMPTWEAVE_ECHO").map Value.bool).getD s.echo
    maxCalls }

/-! ### Loading -/

/-- The texts of the files that exist. -/
abbrev Files := String → Option String

/-- The file that is read unless another one is given. -/
def usualPath : String := "settings.yaml"

/-- The file to read: the one that is given, or the one that a variable names. -/
def path (env : Environment) (given : Option String) : String :=
  given.getD ((env.lookup "PROMPTWEAVE_CONFIG").getD usualPath)

/-- The settings of a file and of the environment.  There may be no such file. -/
def load (env : Environment) (files : Files) (given : Option String) :
    Except Failure Settings := do
  let s ← match files (path env given) with
    | none => pure {}
    | some text => ofText env text
  s.override env

/-- The settings that were loaded last, or else those of the usual file. -/
def current (env : Environment) (files : Files) : Option Settings → Except Failure Settings
  | some s => .ok s
  | none => load env files none

/-! ### Display -/

/-- Settings as an object. -/
def toValue (s : Settings) : Value :=
  .object [
    ("debug", s.debug), ("echo", s.echo), ("max_llm_calls", .int s.maxCalls),
    ("loop_max_iterations", .int s.maxRounds), ("log_level", s.logLevel),
    ("call_limit", (s.callLimit.map Value.int).getD .null),
    ("llm", .object [
      ("provider", s.model.provider), ("model", s.model.model),
      ("temperature", s.model.temperature), ("max_tokens", s.model.maxTokens),
      ("api_key", s.model.apiKey), ("base_url", s.model.baseUrl)]),
    ("retry", .object [
      ("max_attempts", s.retry.maxAttempts), ("base_delay", s.retry.baseDelay),
      ("max_delay", s.retry.maxDelay), ("backoff_factor", s.retry.backoffFactor),
      ("jitter", s.retry.jitter), ("retryable_patterns", s.retry.patterns)])]

end Settings

end Colloquy
