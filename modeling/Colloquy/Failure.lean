import Colloquy.Schema.Issue
import Colloquy.Text.Quoted
import Colloquy.Value.Basic

/-!
# Failures

Everything that can end a run: the failures that the library itself reports, and the faults that callers'
code and the world outside raise.  `Failure.kind` names the kind, `Failure.text` is the message, and
`Failure.description`, which retry patterns are matched against, is both.
-/

namespace Colloquy

/-! ### Faults from outside -/

/-- The kinds of faults that are not reported by the library. -/
inductive FaultKind where
  | timeout
  | connection
  | badValue
  | missingKey
  | outOfRange
  | runtime
  /-- A fault with a mark that says whether another attempt is worth while. -/
  | flagged (retryable : Value)
  | wrongType
  | noAttribute
  | overflow
  | divisionByZero
  | missingModule
  | notJson
  /-- A kind that callers have defined, by its name and with a mark of its own. -/
  | custom (name : String) (retryable : Value)
  deriving Inhabited

/-- The name of a kind. -/
def FaultKind.name : FaultKind → String
  | timeout => "TimeoutError"
  | connection => "ConnectionError"
  | badValue => "ValueError"
  | missingKey => "KeyError"
  | outOfRange => "IndexError"
  | runtime => "RuntimeError"
  | flagged _ => "FlaggedError"
  | wrongType => "TypeError"
  | noAttribute => "AttributeError"
  | overflow => "OverflowError"
  | divisionByZero => "ZeroDivisionError"
  | missingModule => "ModuleNotFoundError"
  | notJson => "JSONDecodeError"
  | custom name _ => name

/-! ### Failures -/

/-- Why building or running something failed. -/
inductive Failure where
  /-- The library was set up wrongly; `cause` names the kind of an underlying fault. -/
  | configuration (message : String) (cause : Option String)
  /-- The backend failed or answered something unusable. -/
  | generation (message : String) (retryable : Value) (cause : Option String)
  /-- Content was refused in every attempt. -/
  | rejected (message : String) (instruction : Option String) (attempts : Int)
  /-- The budget of model calls is used up. -/
  | callLimit (count limit : Int)
  /-- A template that needs children has none. -/
  | emptyComposite (template : String)
  /-- Any other failure of orchestration. -/
  | orchestration (message : String) (retryable : Value)
  /-- A value does not fit its record, in the wording of what checks it. -/
  | malformed (record : String) (issues : List Issue) (text : String)
  /-- A text is no pattern. -/
  | badPattern (message : String)
  /-- A settings file is no YAML. -/
  | badYaml
  | fault (kind : FaultKind) (message : String)
  deriving Inhabited

namespace Failure

/-- The failure that a value does not fit its record. -/
def ofIssues (wording : Wording) (record : String) (issues : List Issue) : Failure :=
  malformed record issues (wording record issues)

/-- The name of a failure's kind. -/
def kind : Failure → String
  | configuration .. => "ConfigurationError"
  | generation .. => "GenerationError"
  | rejected .. => "ValidationError"
  | callLimit .. => "CallLimitExceeded"
  | emptyComposite _ => "EmptyCompositeError"
  | orchestration .. => "PromptWeaveError"
  | malformed .. => "ValidationError"
  | badPattern _ => "error"
  | badYaml => "YAMLError"
  | fault kind _ => kind.name

/-- The message of a failure. -/
def text : Failure → String
  | configuration message _ => message
  | generation message _ _ => message
  | rejected message _ _ => message
  | callLimit count limit => s!"Model call limit exceeded: {count} calls (limit {limit})"
  | emptyComposite template => s!"{template} has no child templates"
  | orchestration message _ => message
  | malformed _ _ text => text
  | badPattern message => message
  | badYaml => ""
  | fault .missingKey key => Text.quoted key
  | fault _ message => message

/-- The kind and the message of a failure. -/
def description (f : Failure) : String :=
  f.kind ++ ": " ++ f.text

/-- Whether the failure is one that the library reports. -/
def isOrchestration : Failure → Bool
  | configuration .. | generation .. | rejected .. | callLimit .. | emptyComposite _
  | orchestration .. => true
  | _ => false

/-- The mark that says whether another attempt is worth while; null where there is none. -/
def retryable : Failure → Value
  | configuration .. | rejected .. | callLimit .. | emptyComposite _ => .bool false
  | generation _ retryable _ | orchestration _ retryable => retryable
  | fault (.flagged retryable) _ | fault (.custom _ retryable) _ => retryable
  | _ => .null

/-- The kind of the fault that the failure was raised from. -/
def cause? : Failure → Option String
  | configuration _ cause => cause
  | generation _ _ cause => cause
  | _ => none

end Failure

end Colloquy
