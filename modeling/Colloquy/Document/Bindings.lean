import Colloquy.Document.Policy
import Colloquy.Middleware.Cache
import Colloquy.Middleware.Logging
import Colloquy.Middleware.RateLimit
import Colloquy.Middleware.Transform
import Colloquy.Template.Agent

/-!
# What documents refer to

A document cannot hold functions, and it may use a source or a backend that others use too.  `Bindings` says
what its references and its callers' own words mean; everything else is read by this library.  The words for
middleware are read here.
-/

namespace Colloquy.Document

/-- The meaning of what documents refer to. -/
structure Bindings (σ : Type) where
  judges : Judges σ
  sources : Assoc (Source σ) := []
  backends : Assoc (Backend σ) := []
  /-- The retry policy that documents change, and that a model's source has by default. -/
  retry : RetryPolicy σ := {}
  /-- What is told of a retry before it happens. -/
  notify : Failure → Nat → Float → Run σ Unit
  /-- The handler of a tool. -/
  handler : Value → Run σ Handler
  /-- A function on content. -/
  rewriting : Value → Content → Context → Run σ Content
  /-- What is told of content that a middleware finds invalid. -/
  report : Verdict → Context → Run σ Unit
  /-- The key function of a cache. -/
  cacheKey : Value → Middleware.KeyFunction σ
  /-- A middleware of the caller's own kind. -/
  middleware : Value → Run σ (Middleware σ)
  backend : Value → Run σ (Backend σ)
  prompter : Value → Run σ (Prompter σ)
  /-- A function that answers content. -/
  function : Value → Run σ (Session → Run σ Content)
  predicate : Value → Run σ (Predicate σ)
  reshaping : Value → Run σ (Reshaping σ)
  /-- The session that a subroutine starts from. -/
  start : Value → Run σ (Session → Run σ Session)
  squash : Value → Run σ (Squashing σ)
  scorer : Value → Option (Scorer σ)
  /-- A function on outcomes. -/
  custom : Value → List Session → Run σ Session

variable {σ : Type}

/-- What a name is bound to. -/
def named {α : Type} (things : Assoc α) (name : String) : Run σ α :=
  match Assoc.lookup name things with
  | some x => return x
  | none => throw (.fault .missingKey name)

/-! ### Middleware -/

/-- A double in a field, or a default for a missing one. -/
def double (v : Value) (name : String) (default : Float) : Run σ Float :=
  match v.field? name with
  | some x => Run.ofExcept x.toDouble
  | none => return default

/-- A middleware. -/
def middleware (b : Bindings σ) (v : Value) : Run σ (Middleware σ) := do
  let priority := (v.field "priority").integer
  match v.word "m" with
  | "transform" =>
    return .transforming (b.rewriting (v.field "fn")) (v.word "name" "transform") priority
  | "validation" =>
    let validator ← Run.ofExcept (validator b.judges (v.field "validator"))
    let report := if v.flag "report" true then some b.report else none
    return .reporting validator report (v.word "name" "validation") priority
  | "cache" =>
    let life ← double v "ttl" 60.0
    let key := (v.field? "key").elim Middleware.defaultKey b.cacheKey
    return .cache (← Run.newCell) life key (v.word "name" "cache")
  | "rate" =>
    let rate := Middleware.rateOf (← double v "rps" 1.0) (v.field "burst").integer?
    return .rateLimit (← Middleware.newBucket rate) rate (v.word "name" "rate_limit")
  | "logging" =>
    return .logging (v.word "name" "logging") (v.flag "log_requests" true)
      (v.flag "log_responses" true) (v.flag "log_errors" true)
  | _ => b.middleware v

/-- A pipeline of the middleware in a list, registered in its order. -/
def pipeline (b : Bindings σ) (vs : List Value) : Run σ (Pipeline σ) := do
  return (← vs.mapM (middleware b)).foldl Pipeline.use {}

end Colloquy.Document
