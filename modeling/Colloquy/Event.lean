import Colloquy.Message.Basic
import Colloquy.Number.Arithmetic

/-!
# Events

What a run reports about itself.  Each event has a level, a name and fields; `Event.level`, `Event.name` and
`Event.fields` are the form in which it is written to a log.
-/

namespace Colloquy

/-- How grave an event is. -/
inductive Level where
  | debug
  | info
  | warning
  | error
  deriving DecidableEq, Repr

/-- The word for a level. -/
def Level.word : Level → String
  | debug => "debug"
  | info => "info"
  | warning => "warning"
  | error => "error"

/-- Something that happened in a run. -/
inductive Event where
  | messageEchoed (m : Message)
  | observerFailed (error : String)
  | callLimitExceeded (count limit : Int)
  | requested (middleware : String) (attempt messages : Nat) (model : Option String)
  | responded (middleware : String) (attempt : Nat) (length : Nat)
  | attemptFailed (middleware : String) (attempt : Nat) (error : String)
  | rateWaited (middleware : String) (wait : Float)
  | contentInvalid (middleware : String) (instruction : Option String)
  | cacheHit (middleware : String)
  | cacheEvicted (middleware : String)
  | errorRecovered (middleware : String) (attempt : Nat) (error : String)
  | retrying (attempt : Nat) (delay : Float) (error : String)
  | revalidating (source : String) (attempt limit : Int) (instruction : Option String)
  | validationExhausted (source : String) (attempts : Int) (instruction : Option String)
  | structureInvalid (schema : String) (errors : Nat)
  | clientCreated (provider model : String)
  | topKIgnored (topK : Value)
  | handlerFailed (tool error : String)
  | bestSelected (score : Float) (candidates : Nat)
  | judgeUnusable (answer : String)
  | branchFailed (branch : Nat) (source error : String)
  | loopWithoutExit
  | loopExhausted (limit : Int)
  | patternExtracted (keys : List String)
  | markdownExtracted (keys : List String)
  deriving Inhabited

namespace Event

/-- How grave an event is. -/
def level : Event → Level
  | messageEchoed _ | requested .. | responded .. | errorRecovered .. | revalidating ..
  | structureInvalid .. | clientCreated .. => .info
  | observerFailed _ | contentInvalid .. | retrying .. | validationExhausted ..
  | handlerFailed .. | judgeUnusable _ | branchFailed .. | loopWithoutExit
  | loopExhausted _ => .warning
  | callLimitExceeded .. | attemptFailed .. => .error
  | rateWaited .. | cacheHit _ | cacheEvicted _ | topKIgnored _ | bestSelected ..
  | patternExtracted _ | markdownExtracted _ => .debug

/-- The name of an event. -/
def name : Event → String
  | messageEchoed _ => "session_message"
  | observerFailed _ => "session_observer_failed"
  | callLimitExceeded .. => "llm_call_limit_exceeded"
  | requested .. => "generation_request"
  | responded .. => "generation_response"
  | attemptFailed .. => "generation_error"
  | rateWaited .. => "rate_limit_wait"
  | contentInvalid .. => "middleware_validation_failed"
  | cacheHit _ => "cache_hit"
  | cacheEvicted _ => "cache_evicted_rejected"
  | errorRecovered .. => "middleware_recovered_error"
  | retrying .. => "generation_retry"
  | revalidating .. => "validation_retry"
  | validationExhausted .. => "validation_exhausted_returning_last"
  | structureInvalid .. => "structured_output_invalid"
  | clientCreated .. => "llm_client_initialized"
  | topKIgnored _ => "openai_top_k_ignored"
  | handlerFailed .. => "tool_handler_failed"
  | bestSelected .. => "parallel_best_selected"
  | judgeUnusable _ => "judge_answer_unusable"
  | branchFailed .. => "parallel_branch_failed"
  | loopWithoutExit => "loop_without_exit_condition"
  | loopExhausted _ => "loop_max_iterations_reached"
  | patternExtracted _ => "pattern_extracted"
  | markdownExtracted _ => "markdown_extracted"

/-- The fields of an event. -/
def fields : Event → Entries
  | messageEchoed m =>
    [("role", .str m.role.word), ("content", .str m.content), ("tool_calls", .int m.calls.length)]
  | observerFailed error => [("error", .str error)]
  | callLimitExceeded count limit => [("count", .int count), ("limit", .int limit)]
  | requested middleware attempt messages model =>
    [("middleware", .str middleware), ("attempt", .int attempt), ("messages", .int messages),
      ("model", .ofText? model)]
  | responded middleware attempt length =>
    [("middleware", .str middleware), ("attempt", .int attempt), ("content_length", .int length)]
  | attemptFailed middleware attempt error =>
    [("middleware", .str middleware), ("attempt", .int attempt), ("error", .str error)]
  | rateWaited middleware wait => [("middleware", .str middleware), ("wait", .float wait)]
  | contentInvalid middleware instruction =>
    [("middleware", .str middleware), ("instruction", .ofText? instruction)]
  | cacheHit middleware => [("middleware", .str middleware)]
  | cacheEvicted middleware => [("middleware", .str middleware)]
  | errorRecovered middleware attempt error =>
    [("middleware", .str middleware), ("attempt", .int attempt), ("error", .str error)]
  | retrying attempt delay error =>
    [("attempt", .int attempt), ("delay", .float delay), ("error", .str error)]
  | revalidating source attempt limit instruction =>
    [("source", .str source), ("attempt", .int attempt), ("max_attempts", .int limit),
      ("instruction", .ofText? instruction)]
  | validationExhausted source attempts instruction =>
    [("source", .str source), ("attempts", .int attempts), ("instruction", .ofText? instruction)]
  | structureInvalid schema errors => [("schema", .str schema), ("errors", .int errors)]
  | clientCreated provider model => [("provider", .str provider), ("model", .str model)]
  | topKIgnored topK => [("top_k", topK)]
  | handlerFailed tool error => [("tool", .str tool), ("error", .str error)]
  | bestSelected score candidates => [("score", .float score), ("candidates", .int candidates)]
  | judgeUnusable answer => [("answer", .str answer), ("fallback", .str "heuristic")]
  | branchFailed branch source error =>
    [("branch", .int branch), ("source", .str source), ("error", .str error)]
  | loopWithoutExit => [("action", .str "executing_once")]
  | loopExhausted limit => [("max_iterations", .int limit)]
  | patternExtracted keys => [("keys", .list (keys.map .str))]
  | markdownExtracted keys => [("keys", .list (keys.map .str))]

end Event

end Colloquy
