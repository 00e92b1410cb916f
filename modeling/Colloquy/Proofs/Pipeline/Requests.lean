import Colloquy.Proofs.Run.Records
import Colloquy.Proofs.Source.Upkeep

/-!
# The calls of a pipeline

A pipeline repeats its call, and its middleware may make other contexts in between.  If they leave the session in a
context alone (`KeepsSessions`), all attempts are about the session that the first one is about.  So if the call for
this session is recorded as one request, the record of a whole run has copies of this request and nothing else, at
most one for each attempt: `KeepsSessions.records_execute`.
-/

namespace Colloquy

variable {σ : Type} {cell : Nat}

open Run

theorem Run.booked_record (cell : Nat) (record : List (Session × Options)) :
    Booked (σ := σ) (·.asked.get cell = record) := by
  intro s s' h hs
  have hasked : s'.asked = s.asked := congrArg (fun books => books.1.2) h
  rw [hasked]
  exact hs

/-- A middleware that leaves the calls recorded in a cell as they are. -/
def Middleware.KeepsRecord (cell : Nat) (m : Middleware σ) : Prop :=
  ∀ record, m.Maintains (·.asked.get cell = record)

namespace Pipeline

/-- No middleware changes the session in a context, neither before the call nor when it mends a failure. -/
structure KeepsSessions (p : Pipeline σ) : Prop where
  before : ∀ m ∈ p.middlewares, ∀ ctx, (m.before ctx).Ensures fun c => c.session = ctx.session
  onError : ∀ m ∈ p.middlewares, ∀ ctx f, (m.onError ctx f).Ensures fun mended => ∀ c ∈ mended, c.session = ctx.session

namespace KeepsSessions

variable {p : Pipeline σ} {call : Context → Run σ Content} {policy : RetryPolicy σ} {s : Session}
  {request : Session × Options} (h : p.KeepsSessions)
include h

theorem ensures_before (ctx : Context) : (p.before ctx).Ensures fun c => c.session = ctx.session := by
  rw [Pipeline.before, runBefore_eq_foldlM]
  exact .foldlM (fun m hm c hc => (h.before m hm c).mono fun _ hnext => hnext.trans hc) rfl

theorem ensures_onError (ctx : Context) (f : Failure) :
    (p.onError ctx f).Ensures fun mended => ∀ c ∈ mended, c.session = ctx.session := by
  have hhooks := h.onError
  unfold Pipeline.onError
  generalize p.middlewares = ms at hhooks ⊢
  induction ms with
  | nil => exact .pure fun c hc => absurd hc (Option.not_mem_none c)
  | cons m rest ih =>
    rw [List.forall_mem_cons] at hhooks
    refine (hhooks.1 ctx f).bind fun mended hmended => ?_
    cases mended with
    | none => exact ih hhooks.2
    | some c => exact .after fun _ => .pure hmended

theorem ensures_setback (ctx : Context) (f : Failure) :
    (p.setback ctx f).Ensures fun setback => ∀ c ∈ setback.mended, c.session = ctx.session := by
  refine (h.ensures_onError ctx f).outcome.bind fun ended hended => ?_
  cases ended with
  | ok mended => exact .pure (hended mended rfl)
  | error g => exact .pure fun c hc => absurd hc (Option.not_mem_none c)

variable (hp : ∀ m ∈ p.middlewares, m.KeepsRecord cell)
  (hcall : ∀ ctx : Context, ctx.session = s → (call ctx).Records cell request 1)
include hp hcall

/-- An attempt about a session makes the request for it once, if at all. -/
theorem records_attempt (ctx : Context) (hctx : ctx.session = s) :
    (p.attempt call ctx).Records cell request 1 := by
  have hbefore : (p.before ctx).KeepsRecord cell := keeps_iff_maintains.2 fun record =>
    maintains_before (fun m hm => hp m hm record) ctx
  have hafter : ∀ (c : Context) (result : Content), (do
      let _ ← p.after { c with result }
      return result : Run σ Content).KeepsRecord cell := fun c result =>
    Keeps.bind (keeps_iff_maintains.2 fun record => maintains_after (fun m hm => hp m hm record) _)
      fun _ => .pure result
  refine .after_keeps hbefore (h.ensures_before ctx) fun c hc => ?_
  apply Records.ite
  · -- A planted response takes the place of the request.
    exact (Records.of_keeps ((Keeps.pure _).bind (hafter c))).mono (Nat.zero_le 1)
  · exact (hcall c (hc.trans hctx)).before_keeps (hafter c)

/-- The induction is on the attempts that are left, each of which is about the same session again. -/
theorem records_attempts (hpolicy : ∀ record, policy.Maintains (·.asked.get cell = record)) (left number : Nat)
    {current : Context} (hcurrent : current.session = s) (previous : Option Failure) :
    (p.attempts call policy left number current previous).Records cell request (left + 1) := by
  have hsetback : ∀ ctx f, (p.setback ctx f).KeepsRecord cell := fun ctx f =>
    keeps_iff_maintains.2 fun record =>
      maintains_setback (booked_record cell record) (fun m hm => hp m hm record) ctx f
  have hresume : ∀ (setback : Setback) number, (setback.resume policy number).KeepsRecord cell := fun setback number =>
    keeps_resume (fun _ _ => rfl) setback policy number
  induction left generalizing number current previous with
  | zero =>
    rw [attempts]
    have hattempt := h.records_attempt hp hcall { current with attempt := number, previous } hcurrent
    refine hattempt.outcome.before_keeps fun ended => ?_
    cases ended with
    | ok result => exact .pure result
    | error f =>
      refine (hsetback _ f).bind fun setback => ?_
      exact (hresume setback number).bind fun _ => .throw _
  | succ left ih =>
    rw [attempts, Nat.add_comm (left + 1) 1]
    have hattempt := h.records_attempt hp hcall { current with attempt := number, previous } hcurrent
    refine hattempt.outcome.bind fun ended => ?_
    cases ended with
    | ok result => exact (Records.of_keeps (.pure result)).mono (Nat.zero_le _)
    | error f =>
      refine .after_keeps (hsetback _ f) (h.ensures_setback _ f) fun setback hmended => ?_
      refine .after_keeps (hresume setback number) (.trivial _) fun wait _ => ?_
      refine .after_keeps (.ofArithmetic _) (.trivial _) fun delay _ => ?_
      have hpause : (setback.pause policy number delay).KeepsRecord cell := keeps_iff_maintains.2 fun record =>
        maintains_pause (booked_record cell record) (hpolicy record) setback number delay
      refine .after_keeps hpause (.trivial _) fun _ _ => ih _ ?_ _
      cases hnext : setback.mended with
      | none => exact hcurrent
      | some c => exact (hmended c hnext).trans hcurrent

/-- **One request.**  Through a pipeline whose middleware leave the session alone a call makes the request for its
session at most as often as there are attempts, and no other request. -/
theorem records_execute (hpolicy : ∀ record, policy.Maintains (·.asked.get cell = record)) {count : Nat}
    (hcount : policy.attempts = .ok count) (hpos : 0 < count) {ctx : Context} (hctx : ctx.session = s) :
    (p.execute call ctx policy).Records cell request count := by
  rw [execute, hcount]
  have hrecords := h.records_attempts hp hcall hpolicy (count - 1) 1 hctx none
  rw [Nat.sub_add_cancel hpos] at hrecords
  exact hrecords

end KeepsSessions

end Pipeline

end Colloquy
