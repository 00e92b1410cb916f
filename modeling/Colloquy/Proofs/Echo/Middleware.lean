import Colloquy.Proofs.Echo.Silence
import Colloquy.Proofs.Source.Middleware

/-!
# The library's middleware is silent

None of what logging, rate limiting and caching do shows a message.  Middleware that is made from a function of the
caller is silent if this function is.
-/

namespace Colloquy.Middleware

variable {σ : Type} {target : Option Observer}

open Run (keeps_iff_maintains booked_echoes)

/-- A middleware that maintains whatever was shown is silent. -/
theorem silent_of_maintains {m : Middleware σ}
    (h : ∀ ms, m.Maintains (·.echoes target = ms)) : m.Silent target where
  before ctx := keeps_iff_maintains.2 fun ms => (h ms).before ctx
  after ctx := keeps_iff_maintains.2 fun ms => (h ms).after ctx
  onError ctx f := keeps_iff_maintains.2 fun ms => (h ms).onError ctx f
  transform content ctx := keeps_iff_maintains.2 fun ms => (h ms).transform content ctx
  onRejected ctx := keeps_iff_maintains.2 fun ms => (h ms).onRejected ctx

theorem silent_logging (name : String) (requests responses errors : Bool) :
    (logging name requests responses errors : Middleware σ).Silent target :=
  silent_of_maintains fun ms => maintains_logging (booked_echoes ms) name requests responses errors

theorem silent_rateLimit (cell : Nat) (r : TokenRate Float) (name : String) :
    (rateLimit cell r name : Middleware σ).Silent target :=
  silent_of_maintains fun ms => maintains_rateLimit (booked_echoes ms) cell r name

theorem silent_cache {key : KeyFunction σ} (hkey : ∀ ctx, (key ctx).Silent target) (cell : Nat)
    (life : Float) (name : String) : (cache cell life key name).Silent target :=
  silent_of_maintains fun ms => maintains_cache (booked_echoes ms)
    (fun ctx => keeps_iff_maintains.1 (hkey ctx) ms) cell life name

theorem silent_transforming {f : Content → Context → Run σ Content}
    (hf : ∀ content ctx, (f content ctx).Silent target) (name : String) (priority : Int) :
    (transforming f name priority).Silent target :=
  silent_of_maintains fun ms => maintains_transforming
    (fun content ctx => keeps_iff_maintains.1 (hf content ctx) ms) name priority

theorem silent_reporting {validator : Validator σ}
    {onFailure : Option (Verdict → Context → Run σ Unit)}
    (hvalidator : Validator.AllSilent target validator.functions)
    (hreport : ∀ report ∈ onFailure, ∀ verdict ctx, (report verdict ctx).Silent target)
    (name : String) (priority : Int) :
    (reporting validator onFailure name priority).Silent target :=
  silent_of_maintains fun ms => maintains_reporting (booked_echoes ms) (hvalidator.maintain ms)
    (fun report hr verdict ctx => keeps_iff_maintains.1 (hreport report hr verdict ctx) ms)
    name priority

end Colloquy.Middleware
