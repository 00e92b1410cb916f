import Colloquy.Digest.Sha256
import Colloquy.Json.Printer
import Colloquy.Middleware.Basic

/-!
# Caching responses

A response is used again for requests with the same key, for a limited time and until content that it has
led to is rejected.  The default key is the digest of the session, the options and the feedback, written as
JSON with sorted keys.
-/

namespace Colloquy

/-! ### Keys -/

/-- What a request is told apart by. -/
def Context.identity (ctx : Context) : Value :=
  .object [
    ("session", ctx.session.toValue),
    ("options", match ctx.options with
      | none => .null
      | some o => o.toValue),
    ("feedback", (ctx.auxValue Context.feedbackKey).text)]

/-- The digest of what a request is told apart by. -/
def Context.cacheKey (ctx : Context) : String :=
  Digest.hexDigest (Json.renderSorted ctx.identity)

namespace Middleware

variable {σ : Type}

/-! ### Hooks -/

/-- The function that finds the key of a request. -/
abbrev KeyFunction (σ : Type) := Context → Run σ String

/-- The default key. -/
def defaultKey : KeyFunction σ := fun ctx => return ctx.cacheKey

/-- Changes the responses in a cell. -/
def updateCache (cell : Nat) (f : TimedMap Float Content → TimedMap Float Content) : Run σ Unit :=
  modify fun s => { s with caches := s.caches.set cell (f (s.caches.get cell)) }

/-- Plants the response that is stored for a request, if it is fresh; a stale one is dropped. -/
def cachePlant (name : String) (cell : Nat) (life : Float) (key : KeyFunction σ) (ctx : Context) :
    Run σ Context := do
  let k ← key ctx
  let s ← get
  let found := TimedMap.find life s.clock k (s.caches.get cell)
  updateCache cell (TimedMap.afterFind life s.clock k)
  match found with
  | .fresh response => do
    Run.log (.cacheHit name)
    return ctx.plant response
  | .nothing | .stale => return ctx

/-- Stores a response that was not planted; null is no response. -/
def cacheStore (cell : Nat) (life : Float) (key : KeyFunction σ) (ctx : Context) :
    Run σ Context := do
  if !ctx.usesCache && !ctx.result.isNull then
    let now := (← get).clock
    -- Stale responses go first, also if no key is found afterwards.
    updateCache cell (TimedMap.prune life now)
    let k ← key ctx
    updateCache cell (Assoc.insert k (ctx.result, now))
  return ctx

/-- Drops the response that has led to rejected content. -/
def cacheEvict (name : String) (cell : Nat) (key : KeyFunction σ) (ctx : Context) : Run σ Unit := do
  let k ← key ctx
  let held := TimedMap.holds k ((← get).caches.get cell)
  updateCache cell (TimedMap.evict k)
  if held then Run.log (.cacheEvicted name)

/-- Uses responses again while they are younger than `life`, by the responses in a cell. -/
def cache (cell : Nat) (life : Float := 60.0) (key : KeyFunction σ := defaultKey)
    (name : String := "cache") : Middleware σ where
  kindName := "CacheMiddleware"
  name
  priority := -100
  before := cachePlant name cell life key
  after := cacheStore cell life key
  onRejected := cacheEvict name cell key
  gauge := do return some ("cache", .int ((← get).caches.get cell).length)

end Middleware

end Colloquy
