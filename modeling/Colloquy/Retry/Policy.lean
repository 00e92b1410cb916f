import Colloquy.Pattern.Basic
import Colloquy.Run
import Colloquy.Text.Find
import Colloquy.Value.Display

/-!
# Retry policies

A policy says how often an attempt is repeated, how long to wait in between, and which failures are worth
another attempt.  `delayAfter` is the wait: a power of the factor, capped and then spread by chance.
`isRetryable` decides on a failure: some kinds never are worth another attempt, a mark on the failure may say
so, and otherwise the patterns are searched in its description.  Numbers are kept as they were given, and
arithmetic on anything else is a fault.
-/

namespace Colloquy

/-! ### Patterns of passing failures -/

/-- What a failure's description is searched for. -/
inductive RetryPattern where
  | part (text : String)
  | pattern (p : Pattern)
  /-- Anything else, which cannot be searched for. -/
  | other (v : Value)

namespace RetryPattern

/-- Characters in any case. -/
def anyCase (text : String) : List Pattern.Node :=
  text.toList.map fun c => .one { items := [.char c], ignoreCase := true }

/-- A text in any case. -/
def caseless (text : String) : RetryPattern :=
  pattern (.ofTree text (.ofList (anyCase text)))

/-- The limit of a rate, as one word or two. -/
def rateLimit : RetryPattern :=
  let gap : Pattern.Node :=
    .repetition (.one { negated := true, items := [.char '\n'] }) 0 (some 1) .most
  pattern (.ofTree "rate.?limit" (.ofList (anyCase "rate" ++ [gap] ++ anyCase "limit")))

/-- The numbers with which gateways report that they are down. -/
def gatewayDown : RetryPattern :=
  let boundary : Pattern.Node := .edge (.wordBoundary false false)
  pattern (.ofTree "\\b50[234]\\b" (.ofList [boundary, .one { items := [.char '5'] },
    .one { items := [.char '0'] }, .one { items := [.range '2' '4'] }, boundary]))

/-- The patterns of failures that pass by themselves. -/
def passing : List RetryPattern :=
  [rateLimit, caseless "timeout", caseless "timed out", caseless "network", caseless "connection",
    gatewayDown, part "ECONNRESET", part "ETIMEDOUT"]

/-- A pattern as a value. -/
def toValue : RetryPattern → Value
  | part text => .str text
  | pattern p => .object [("re", .str p.source)]
  | other v => v

/-- Whether a pattern is found in a description. -/
def foundIn (description : String) : RetryPattern → Except Failure Bool
  | part text => .ok (Text.holds description text)
  | pattern p => .ok (p.matchesIn description)
  | other v => .error (.fault .wrongType
      ("'in <string>' requires string as left operand, not " ++ v.kindName))

/-- Whether one of the patterns is found in a description. -/
def anyFoundIn (description : String) : List RetryPattern → Except Failure Bool
  | [] => .ok false
  | p :: rest => do if ← p.foundIn description then return true else anyFoundIn description rest

end RetryPattern

/-! ### Policies -/

/-- How failed attempts are repeated. -/
structure RetryPolicy (σ : Type) where
  maxAttempts : Value := .int 3
  /-- The first wait in seconds. -/
  baseDelay : Value := .float 1.0
  /-- The longest wait in seconds. -/
  maxDelay : Value := .float 10.0
  backoffFactor : Value := .float 2.0
  jitter : Value := .bool true
  /-- What descriptions are searched for; with no list at all every failure is worth another attempt. -/
  patterns : Option (List RetryPattern) := some RetryPattern.passing
  /-- What is told of a failure, its attempt and the wait before each sleep. -/
  onRetry : Option (Failure → Nat → Float → Run σ Unit) := none

namespace RetryPolicy

variable {σ : Type}

/-- A policy as an object, without what it tells of failures. -/
def toValue (p : RetryPolicy σ) : Value :=
  .object [("max_attempts", p.maxAttempts), ("base_delay", p.baseDelay),
    ("max_delay", p.maxDelay), ("backoff_factor", p.backoffFactor), ("jitter", p.jitter),
    ("patterns", (p.patterns.map fun ps => .list (ps.map RetryPattern.toValue)).getD .null)]

/-! ### Attempts -/

/-- The least natural number that is no less than a number. -/
def ceiling : Num → Nat
  | .int n => n.toNat
  | .float x =>
    match Number.truncate? x with
    | some n => if (Num.int n).lt (.float x) then (n + 1).toNat else n.toNat
    | none => 0

/-- The number of attempts, which has to be positive. -/
def attempts (p : RetryPolicy σ) : Except Failure Nat :=
  match p.maxAttempts.num? with
  | none => .error (.fault .wrongType
      s!"'<=' not supported between instances of '{p.maxAttempts.kindName}' and 'int'")
  | some n =>
    if n.le (.int 0) then
      .error (.configuration s!"max_attempts must be at least 1, got {p.maxAttempts.text}" none)
    else .ok (ceiling n)

/-! ### Waits -/

/-- A wait spread by up to a quarter to either side, and never negative. -/
def spread (chance : Float) (delay : Num) : Except Number.Fault Num := do
  let delay ← delay.toFloat
  let quarter := delay * 0.25
  let moved := delay + (-quarter + (quarter - -quarter) * chance)
  return .float (if 0.0 < moved then moved else 0.0)

/-- The wait after an attempt: the power of the factor, capped, and spread if the policy says so. -/
def delayAfter (p : RetryPolicy σ) (chance : Float) (attempt : Int) : Except Number.Fault Num := do
  let base ← p.baseDelay.num
  let factor ← p.backoffFactor.num
  let power ← factor.pow (attempt - 1)
  let exponential ← base.mul power
  let delay := exponential.min (← p.maxDelay.num)
  if p.jitter.truthy then spread chance delay else return delay

/-- Tells the caller of a failure, its attempt and the wait, if it has asked for that. -/
def tell (p : RetryPolicy σ) (f : Failure) (attempt : Nat) (delay : Float) : Run σ Unit :=
  match p.onRetry with
  | some notify => notify f attempt delay
  | none => pure ()

/-! ### Failures -/

/-- Whether a failure is of a kind that no further attempt can mend. -/
def isFinal : Failure → Bool
  | .configuration .. | .callLimit .. | .rejected .. => true
  | _ => false

/-- Whether the mark on a failure asks for another attempt.  A failure of orchestration has a mark that
counts as true, any other one has true itself. -/
def isMarked (f : Failure) : Bool :=
  if f.isOrchestration && f.retryable.truthy then true
  else
    match f.retryable with
    | .bool b => b
    | _ => false

/-- Whether a failure is worth another attempt. -/
def isRetryable (p : RetryPolicy σ) (f : Failure) : Except Failure Bool :=
  if isFinal f then .ok false
  else if isMarked f then .ok true
  else
    match p.patterns with
    | none => .ok true
    | some patterns => RetryPattern.anyFoundIn f.description patterns

end RetryPolicy

end Colloquy
