import Colloquy.Middleware.Basic

/-!
# Logging

Reports every attempt, every response and every failure, and mends nothing.
-/

namespace Colloquy.Middleware

variable {σ : Type}

/-- Reports requests, responses and failures, as far as each is asked for. -/
def logging (name : String := "logging") (requests responses errors : Bool := true) :
    Middleware σ where
  kindName := "LoggingMiddleware"
  name
  priority := -1000
  before ctx := do
    if requests then
      Run.log (.requested name ctx.attempt ctx.session.messages.length
        (ctx.options.map (·.provider.model)))
    return ctx
  after ctx := do
    if responses then
      Run.log (.responded name ctx.attempt (ctx.result.body.size?.getD 0))
    return ctx
  onError ctx f := do
    if errors then Run.log (.attemptFailed name ctx.attempt f.text)
    return none

end Colloquy.Middleware
