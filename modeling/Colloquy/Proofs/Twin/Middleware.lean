import Colloquy.Middleware.Cache
import Colloquy.Middleware.Logging
import Colloquy.Middleware.RateLimit
import Colloquy.Middleware.Transform
import Colloquy.Proofs.Twin.Source

/-!
# The library's middleware and twins

Logging and rate limiting do not look at the settings of sessions, and middleware that is made from a function of
the caller is blind if this function is.  A cache is as blind as its key (`blind_cache`).  The default key is the
digest of the whole session but for its observer: so it is blind to observers (`blind_defaultKey`), but requests
of sessions that only differ in their echo have different keys.
-/

namespace Colloquy.Middleware

variable {σ : Type} {d : Leeway}

open Run

theorem blind_takeToken (name : String) (cell : Nat) (r : TokenRate Float) :
    (takeToken name cell r : Run σ Unit).Blind d := by
  have hwait : ∀ wait : Float, (do
      Run.log (.rateWaited name (Number.roundPlaces 3 wait))
      Run.sleep wait
      modify fun s =>
        { s with buckets := s.buckets.set cell ((s.buckets.get cell).settle r s.clock) } :
      Run σ Unit).Blind d := fun wait =>
    (Blind.log _).bind fun _ => (Blind.sleep wait).bind fun _ => Blind.modify fun _ _ _ _ => rfl
  intro w st st' hst
  have hbucket : (st'.buckets.get cell).refill r st'.clock = (st.buckets.get cell).refill r st.clock := by
    cases hst
    rfl
  -- What is set is the state that was read, but for the bucket.
  have hset : ∀ b, State.Twin d { st with buckets := st.buckets.set cell b }
      { st' with buckets := st'.buckets.set cell b } := fun b =>
    hst.step (g := fun s => { s with buckets := s.buckets.set cell b }) fun _ _ _ _ => rfl
  rw [takeToken, Run.exec_bind_ok _ Run.exec_get, Run.exec_bind_ok _ Run.exec_get]
  dsimp only
  rw [hbucket]
  split
  · exact ⟨.ok rfl, hset _⟩
  · rw [Run.exec_bind_ok _ Run.exec_set, Run.exec_bind_ok _ Run.exec_set]
    exact hwait _ w _ _ (hset _)

theorem blind_updateCache (cell : Nat) (f : TimedMap Float Content → TimedMap Float Content) :
    (updateCache cell f : Run σ Unit).Blind d :=
  Blind.modify fun _ _ _ _ => rfl

/-- A key that is the same for twins. -/
def KeyFunction.Blind (d : Leeway) (key : KeyFunction σ) : Prop :=
  ∀ ctx ctx', ctx.Twin d ctx' → Run.Twin d Eq (key ctx) (key ctx')

/-- The default key does not depend on the observer. -/
theorem blind_defaultKey : KeyFunction.Blind (σ := σ) .observer defaultKey := by
  intro ctx ctx' hctx
  have hkey : ctx'.cacheKey = ctx.cacheKey := by
    cases hctx with
    | intro h =>
      unfold Context.cacheKey Context.identity Session.toValue
      rw [h.messages, h.vars, h.attrs, h.echo rfl]
      rfl
  exact .pure hkey.symm

theorem blind_logging (name : String) (requests responses errors : Bool) :
    (logging name requests responses errors : Middleware σ).Blind d where
  before ctx ctx' hctx := by
    have hreport : ctx'.attempt = ctx.attempt ∧
        ctx'.session.messages.length = ctx.session.messages.length ∧ ctx'.options = ctx.options := by
      cases hctx with
      | intro h => exact ⟨rfl, congrArg List.length h.messages, rfl⟩
    simp only [logging, hreport]
    exact .ite Iff.rfl ((Blind.log _).bind fun _ => .pure hctx) (.pure hctx)
  after ctx ctx' hctx := by
    have hreport : ctx'.attempt = ctx.attempt ∧ ctx'.result = ctx.result := by
      cases hctx
      exact ⟨rfl, rfl⟩
    simp only [logging, hreport]
    exact .ite Iff.rfl ((Blind.log _).bind fun _ => .pure hctx) (.pure hctx)
  onError ctx ctx' f hctx := by
    simp only [logging, hctx.attempt]
    exact .ite Iff.rfl ((Blind.log _).bind fun _ => .pure .none) (.pure .none)
  transform _ _ _ _ := .pure rfl
  onRejected _ _ _ := .pure rfl

theorem blind_rateLimit (cell : Nat) (r : TokenRate Float) (name : String) :
    (rateLimit cell r name : Middleware σ).Blind d where
  before _ _ hctx := (blind_takeToken name cell r).bind fun _ => .pure hctx
  after _ _ hctx := .pure hctx
  onError _ _ _ _ := .pure .none
  transform _ _ _ _ := .pure rfl
  onRejected _ _ _ := .pure rfl

theorem blind_transforming {f : Content → Context → Run σ Content}
    (hf : ∀ content ctx ctx', ctx.Twin d ctx' → Run.Twin d Eq (f content ctx) (f content ctx'))
    (name : String) (priority : Int) : (transforming f name priority).Blind d where
  before _ _ hctx := .pure hctx
  after _ _ hctx := .pure hctx
  onError _ _ _ _ := .pure .none
  transform := hf
  onRejected _ _ _ := .pure rfl

theorem blind_reporting {validator : Validator σ}
    {onFailure : Option (Verdict → Context → Run σ Unit)}
    (hvalidator : Validator.AllBlind d validator.functions)
    (hreport : ∀ report ∈ onFailure, ∀ verdict ctx ctx', ctx.Twin d ctx' →
      Run.Twin d Eq (report verdict ctx) (report verdict ctx'))
    (name : String) (priority : Int) : (reporting validator onFailure name priority).Blind d where
  before _ _ hctx := .pure hctx
  after _ _ hctx := .pure hctx
  onError _ _ _ _ := .pure .none
  transform content ctx ctx' hctx := by
    refine (Validator.twin_judge hctx.session validator hvalidator _).bind
      fun verdict _ hverdict => ?_
    cases hverdict
    refine .ite Iff.rfl ((Blind.log _).bind fun _ => ?_) (.pure rfl)
    cases onFailure with
    | none => exact .pure rfl
    | some report =>
      exact (hreport report rfl verdict ctx ctx' hctx).bind fun _ _ _ => .pure rfl
  onRejected _ _ _ := .pure rfl

/-- A cache whose key is the same for twins is the same for them. -/
theorem blind_cache {key : KeyFunction σ} (hkey : key.Blind d) (cell : Nat) (life : Float)
    (name : String) : (cache cell life key name).Blind d where
  before ctx ctx' hctx := by
    refine (hkey ctx ctx' hctx).bind fun k _ hk => ?_
    cases hk
    refine .get_bind (fun _ _ _ _ => rfl) fun st => (blind_updateCache cell _).bind fun _ => ?_
    split
    · exact (Blind.log _).bind fun _ => .pure (hctx.plant _)
    · exact .pure hctx
    · exact .pure hctx
  after ctx ctx' hctx := by
    have hstore : Run.Twin d (Context.Twin d) (do
        let now := (← get).clock
        updateCache cell (TimedMap.prune life now)
        let k ← key ctx
        updateCache cell (Assoc.insert k (ctx.result, now))
        return ctx : Run σ Context) (do
        let now := (← get).clock
        updateCache cell (TimedMap.prune life now)
        let k ← key ctx'
        updateCache cell (Assoc.insert k (ctx.result, now))
        return ctx') := by
      refine .get_bind (fun _ _ _ _ => rfl) fun st => (blind_updateCache cell _).bind fun _ => ?_
      refine (hkey ctx ctx' hctx).bind fun k _ hk => ?_
      cases hk
      exact (blind_updateCache cell _).bind fun _ => .pure hctx
    simp only [cache, cacheStore, hctx.usesCache, hctx.result]
    exact .ite Iff.rfl hstore (.pure hctx)
  onError _ _ _ _ := .pure .none
  transform _ _ _ _ := .pure rfl
  onRejected ctx ctx' hctx := by
    refine (hkey ctx ctx' hctx).bind fun k _ hk => ?_
    cases hk
    refine .get_bind (fun _ _ _ _ => rfl) fun st => (blind_updateCache cell _).bind fun _ => ?_
    exact .ite Iff.rfl (Blind.log _) (.pure rfl)

end Colloquy.Middleware
