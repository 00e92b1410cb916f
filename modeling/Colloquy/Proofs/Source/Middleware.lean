import Colloquy.Middleware.Cache
import Colloquy.Middleware.Logging
import Colloquy.Middleware.RateLimit
import Colloquy.Middleware.Transform
import Colloquy.Proofs.Source.Upkeep

/-!
# What the library's middleware maintains

What logging, rate limiting and caching report are events of their own, and what they keep stands in cells of
their own.  So they maintain every property that only depends on the books; middleware that is made from a
function of the caller does if this function does.
-/

namespace Colloquy.Middleware

variable {σ : Type} {P : State σ → Prop}

open Run

theorem keepsBooks_takeToken (name : String) (cell : Nat) (r : TokenRate Float) :
    (takeToken name cell r : Run σ Unit).KeepsBooks := by
  have hwait : ∀ wait : Float, (do
      Run.log (.rateWaited name (Number.roundPlaces 3 wait))
      Run.sleep wait
      modify fun s =>
        { s with buckets := s.buckets.set cell ((s.buckets.get cell).settle r s.clock) } :
      Run σ Unit).KeepsBooks := fun wait =>
    (keepsBooks_log rfl).bind fun _ => (keepsBooks_sleep wait).bind fun _ => .modify fun _ => rfl
  intro w st
  rw [takeToken, Run.exec_bind_ok _ Run.exec_get]
  dsimp only
  split
  · rfl
  · rw [Run.exec_bind_ok _ Run.exec_set]
    -- What is set is the state that was read, but for a bucket.
    exact hwait _ w _

theorem keepsBooks_updateCache (cell : Nat) (f : TimedMap Float Content → TimedMap Float Content) :
    (updateCache cell f : Run σ Unit).KeepsBooks :=
  .modify fun _ => rfl

theorem maintains_transforming {f : Content → Context → Run σ Content}
    (hf : ∀ content ctx, (f content ctx).Maintains P) (name : String) (priority : Int) :
    (transforming f name priority).Maintains P where
  before ctx := .pure ctx
  after ctx := .pure ctx
  onError _ _ := .pure none
  transform := hf
  onRejected _ := .pure ()

variable (hP : Booked P)
include hP

theorem maintains_logging (name : String) (requests responses errors : Bool) :
    (logging name requests responses errors : Middleware σ).Maintains P where
  before ctx := .ite (((keepsBooks_log rfl).maintains hP).bind fun _ => .pure ctx) (.pure ctx)
  after ctx := .ite (((keepsBooks_log rfl).maintains hP).bind fun _ => .pure ctx) (.pure ctx)
  onError _ _ := .ite (((keepsBooks_log rfl).maintains hP).bind fun _ => .pure none) (.pure none)
  transform content _ := .pure content
  onRejected _ := .pure ()

theorem maintains_rateLimit (cell : Nat) (r : TokenRate Float) (name : String) :
    (rateLimit cell r name : Middleware σ).Maintains P where
  before ctx := ((keepsBooks_takeToken name cell r).maintains hP).bind fun _ => .pure ctx
  after ctx := .pure ctx
  onError _ _ := .pure none
  transform content _ := .pure content
  onRejected _ := .pure ()

theorem maintains_cache {key : KeyFunction σ} (hkey : ∀ ctx, (key ctx).Maintains P) (cell : Nat)
    (life : Float) (name : String) : (cache cell life key name).Maintains P where
  before ctx := by
    refine (hkey ctx).bind fun k => Maintains.get.bind fun st => ?_
    refine ((keepsBooks_updateCache cell _).maintains hP).bind fun _ => ?_
    split
    · exact ((keepsBooks_log rfl).maintains hP).bind fun _ => .pure _
    · exact .pure ctx
    · exact .pure ctx
  after ctx := by
    refine .ite ?_ (.pure ctx)
    refine Maintains.get.bind fun st => ((keepsBooks_updateCache cell _).maintains hP).bind fun _ => ?_
    exact (hkey ctx).bind fun k => ((keepsBooks_updateCache cell _).maintains hP).bind fun _ => .pure ctx
  onError _ _ := .pure none
  transform content _ := .pure content
  onRejected ctx := by
    refine (hkey ctx).bind fun k => Maintains.get.bind fun st => ?_
    refine ((keepsBooks_updateCache cell _).maintains hP).bind fun _ => ?_
    exact .ite ((keepsBooks_log rfl).maintains hP) (.pure ())

theorem maintains_reporting {validator : Validator σ}
    {onFailure : Option (Verdict → Context → Run σ Unit)}
    (hvalidator : Validator.AllMaintain P validator.functions)
    (hreport : ∀ report ∈ onFailure, ∀ verdict ctx, (report verdict ctx).Maintains P)
    (name : String) (priority : Int) :
    (reporting validator onFailure name priority).Maintains P where
  before ctx := .pure ctx
  after ctx := .pure ctx
  onError _ _ := .pure none
  transform content ctx := by
    refine (validator.maintains_judge hvalidator _ _).bind fun verdict => ?_
    refine .ite (((keepsBooks_log rfl).maintains hP).bind fun _ => ?_) (.pure content)
    cases onFailure with
    | none => exact .pure content
    | some report => exact (hreport report rfl verdict ctx).bind fun _ => .pure content
  onRejected _ := .pure ()

end Colloquy.Middleware
