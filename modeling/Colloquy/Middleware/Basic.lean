import Colloquy.Run
import Colloquy.Value.Display

/-!
# Middleware

A middleware takes part in every request through its hooks: before the call, after the response, on a
failure, on the content that is handed on, and when that content is rejected.  The hooks are given a
`Context`, what is known of the request; its `aux` values are how middleware talk to each other.
-/

namespace Colloquy

/-! ### Contexts -/

/-- What is known of a request in one attempt. -/
structure Context where
  session : Session
  options : Option Options := none
  /-- The number of the attempt, from one. -/
  attempt : Nat := 1
  /-- The failure of the attempt before. -/
  previous : Option Failure := none
  aux : Assoc Content := []
  /-- The response, as far as there is one. -/
  result : Content := .plain .null
  deriving Inhabited

/-- Whether content counts as true; an output always does. -/
def Content.truthy : Content → Bool
  | plain v => v.truthy
  | output _ => true

/-- Whether content is null. -/
def Content.isNull : Content → Bool
  | plain .null => true
  | _ => false

/-- The text that is read out of content: nothing for null. -/
def Content.body : Content → Value
  | plain .null => .str ""
  | plain v => .str v.text
  | output o => o.content

namespace Context

/-- The key of the response that is used instead of a call. -/
def cachedKey : String := "cached_response"

/-- The key of the mark that a response is used instead of a call. -/
def useCacheKey : String := "use_cache"

/-- The key of the instruction with which the last content was rejected. -/
def feedbackKey : String := "feedback"

/-- The aux value under a key; null if there is none. -/
def auxValue (ctx : Context) (key : String) : Content :=
  (ctx.aux.lookup key).getD (.plain .null)

/-- Whether a response is used instead of a call. -/
def usesCache (ctx : Context) : Bool :=
  (ctx.auxValue useCacheKey).truthy

/-- The context with aux values overlaid. -/
def withAux (ctx : Context) (values : Assoc Content) : Context :=
  { ctx with aux := ctx.aux.overlay values }

/-- The context with a response planted for use instead of a call. -/
def plant (ctx : Context) (response : Content) : Context :=
  ctx.withAux [(cachedKey, response), (useCacheKey, .plain (.bool true))]

end Context

/-! ### Middleware -/

/-- The hooks of a middleware.  Those that are not given pass everything through. -/
structure Middleware (σ : Type) where
  kindName : String := "Middleware"
  name : String := "middleware"
  priority : Int := 0
  /-- Called before the call, on the context that the middleware before has made. -/
  before : Context → Run σ Context := pure
  /-- Called after the response. -/
  after : Context → Run σ Context := pure
  /-- Called on a failure.  A context means that the failure is mended and another attempt is due. -/
  onError : Context → Failure → Run σ (Option Context) := fun _ _ => pure none
  /-- Called on the content that is handed on. -/
  transform : Content → Context → Run σ Content := fun content _ => pure content
  /-- Called when the content that a request has led to is rejected. -/
  onRejected : Context → Run σ Unit := fun _ => pure ()
  /-- What the middleware shows of its own state, under a name. -/
  gauge : Run σ (Option (String × Value)) := pure none

namespace Middleware

/-- A middleware's kind, name and priority. -/
def display {σ : Type} (m : Middleware σ) : String :=
  m.kindName ++ "(name=" ++ Text.quoted m.name ++ ", priority=" ++ toString m.priority ++ ")"

end Middleware

end Colloquy
