import Colloquy.Pipeline.Execute
import Colloquy.Proofs.Number.Power
import Colloquy.Proofs.Repetition
import Colloquy.Proofs.Run.Ensures

/-!
# Histories of repeated calls

`execute` repeats a call until an attempt succeeds, until one fails in a way that is not worth another
attempt, or until the attempts are used up.  A `History` is the list of the attempts of such a run and says
of each of them from which context it started, how it ended, and whether and after which wait another one
followed.  `execute_history` is the law of a run: no positive number of attempts is a failure before anything
has happened, and any other run has a history, whose last attempt is the answer.

The proof follows the recursion of `attempts`: an attempt is the last one (`exec_attempts_stop`), or it asks for
another one and hands over to the attempts that are left (`exec_attempts_again`).  `attempts_history` puts the
attempts together to a chain.
-/

namespace Colloquy

variable {σ : Type}

/-! ### What callers promise -/

namespace RetryPolicy

/-- All patterns are texts or regular expressions. -/
def SearchesTexts (policy : RetryPolicy σ) : Prop :=
  ∀ ps, policy.patterns = some ps → ∀ v, RetryPattern.other v ∉ ps

/-- The patterns that policies have by default are texts or regular expressions. -/
theorem searchesTexts_passing {policy : RetryPolicy σ} (hpassing : policy.patterns = some RetryPattern.passing) :
    policy.SearchesTexts := by
  intro ps hps v hv
  obtain rfl := Option.some.inj (hpassing.symm.trans hps)
  simp [RetryPattern.passing, RetryPattern.rateLimit, RetryPattern.caseless, RetryPattern.gatewayDown] at hv

/-- The wait after an attempt, as a number of seconds that lies in the range of doubles. -/
def HasDelay (policy : RetryPolicy σ) (chance : Float) (attempt : Nat) (delay : Float) : Prop :=
  ∃ d, policy.delayAfter chance attempt = .ok d ∧ d.toFloat = .ok delay

/-- A wait that is not spread is the same whatever the chance. -/
theorem delayAfter_of_steady {policy : RetryPolicy σ} (hsteady : policy.jitter.truthy = false)
    (chance other : Float) (attempt : Int) :
    policy.delayAfter chance attempt = policy.delayAfter other attempt := by
  simp only [delayAfter, hsteady, Bool.false_eq_true, if_false]

end RetryPolicy

namespace Pipeline

/-! ### Histories -/

/-- An attempt: the context and the state that it started from, how it ended and left the state, the context
that a hook has mended its failure with, and the state after the hooks on failures. -/
structure Trial (σ : Type) where
  start : Context
  entered : State σ
  outcome : Except Failure Content
  left : State σ
  mended : Option Context
  settled : State σ

/-- The failure of an attempt. -/
def Trial.failure? (t : Trial σ) : Option Failure :=
  match t.outcome with
  | .ok _ => none
  | .error f => some f

/-- What attempts hand on: the context to start from, and the failure before. -/
structure Carried where
  context : Context
  previous : Option Failure

variable (p : Pipeline σ) (call : Context → Run σ Content) (policy : RetryPolicy σ)
  (w : Surroundings σ)

/-- The attempt ran the call between its hooks.  If that failed, the failure was offered to the hooks. -/
structure Trial.Happened (t : Trial σ) : Prop where
  ran : (p.attempt call t.start).exec w t.entered = (t.outcome, t.left)
  accepted : ∀ c, t.outcome = .ok c → t.mended = none ∧ t.settled = t.left
  offered : ∀ f, t.outcome = .error f → (p.onError t.start f).exec w t.left = (.ok t.mended, t.settled)

/-- The attempt failed, and a hook has mended that or the failure is worth another attempt. -/
def Trial.AsksAgain (t : Trial σ) : Prop :=
  ∃ f, t.outcome = .error f ∧ (t.mended.isSome ∨ policy.isRetryable f = .ok true)

/-- The attempt is followed by a wait that is spread: it failed in a way that is worth another attempt, no hook has
mended that, and the policy has a chance drawn for its waits. -/
def Trial.spreads (t : Trial σ) : Bool :=
  match t.outcome, t.mended with
  | .error f, none => (policy.isRetryable f).toOption.getD false && policy.jitter.truthy
  | _, _ => false

/-- The state once the wait after an attempt is known. -/
def Trial.final (t : Trial σ) : State σ :=
  if t.spreads policy then { t.settled with draws := t.settled.draws + 1 } else t.settled

/-- Between two attempts the failure is reported, the caller is told, and there is exactly one sleep: of no
length after a mended failure, and of the length that the policy says for the next chance otherwise. -/
def Trial.PausesBefore (number : Nat) (t next : Trial σ) : Prop :=
  ∃ f delay told, t.outcome = .error f ∧
    (if t.mended.isSome then delay = 0.0 else policy.HasDelay (w.chance t.settled.draws) number delay) ∧
    (policy.tell f number delay).exec w { t.final policy with
      events := (t.final policy).events ++ [.retrying number (Number.roundPlaces 3 delay) f.text] } =
        (.ok (), told) ∧
    next.entered = { told with
      sleeps := told.sleeps ++ [delay], clock := w.afterSleep told.clock delay }

/-- How attempts follow each other.  An attempt starts from the context that is carried on, with nothing but
its number and the failure before it changed; it carries on that context, or the one that a hook has made to
mend its failure. -/
def retries : Repetition Carried (Trial σ) where
  Starts number c t :=
    t.start = { c.context with attempt := number, previous := c.previous } ∧ t.Happened p call w
  carry c t := { context := t.mended.getD c.context, previous := t.failure? }
  Again t := t.AsksAgain policy
  Joins number t next := t.PausesBefore policy w number next

/-- The attempts of a run that starts in a state and may make `limit` of them. -/
def History (limit number : Nat) (c : Carried) (s : State σ) (trials : List (Trial σ)) : Prop :=
  (retries p call policy w).Chain limit number c trials ∧ ∀ t ∈ trials.head?, t.entered = s

/-! ### One attempt -/

variable {p call policy w} {t : Trial σ} {f : Failure} {left number : Nat} {current : Context}
  {previous : Option Failure}

theorem runOnError_neverFails {ms : List (Middleware σ)}
    (h : ∀ m ∈ ms, ∀ ctx f, (m.onError ctx f).NeverFails w) (ctx : Context) (f : Failure) :
    (runOnError ms ctx f).NeverFails w := by
  induction ms with
  | nil => exact fun s => ⟨none, s, rfl⟩
  | cons m rest ih =>
    intro s
    obtain ⟨mended, s', hm⟩ := h m (List.mem_cons_self ..) ctx f s
    rw [runOnError, Run.exec_bind_ok _ hm]
    cases mended with
    | none => exact ih (fun m hm => h m (List.mem_cons_of_mem _ hm)) s'
    | some ctx' => exact ⟨some ctx', _, rfl⟩

/-- Every attempt goes one way or another, as the hooks on failures do not fail. -/
theorem exists_trial (call : Context → Run σ Content)
    (hhooks : ∀ m ∈ p.middlewares, ∀ ctx f, (m.onError ctx f).NeverFails w) (start : Context)
    (s : State σ) :
    ∃ t : Trial σ, t.start = start ∧ t.entered = s ∧ t.Happened p call w := by
  rcases h : (p.attempt call start).exec w s with ⟨outcome, left⟩
  cases outcome with
  | ok c =>
    refine ⟨⟨start, s, .ok c, left, none, left⟩, rfl, rfl, h, fun _ _ => ⟨rfl, rfl⟩, ?_⟩
    intro f hf
    exact absurd hf (by simp)
  | error f =>
    obtain ⟨mended, settled, hm⟩ := runOnError_neverFails hhooks start f left
    refine ⟨⟨start, s, .error f, left, mended, settled⟩, rfl, rfl, h, ?_, ?_⟩
    · intro c hc
      exact absurd hc (by simp)
    · rintro g ⟨⟩
      exact hm

theorem exec_setback {mended : Option Context} {ctx : Context} {s s' : State σ}
    (h : (p.onError ctx f).exec w s = (.ok mended, s')) :
    (p.setback ctx f).exec w s = (.ok { cause := f, failure := f, mended }, s') := by
  rw [setback, Run.exec_bind_ok _ (Run.exec_outcome _), h]
  rfl

theorem foundIn_ok {q : RetryPattern} (h : ∀ v, q ≠ .other v) (description : String) :
    ∃ b, q.foundIn description = .ok b := by
  cases q with
  | part text => exact ⟨_, rfl⟩
  | pattern r => exact ⟨_, rfl⟩
  | other v => exact absurd rfl (h v)

theorem anyFoundIn_ok {ps : List RetryPattern} (h : ∀ v, RetryPattern.other v ∉ ps)
    (description : String) : ∃ b, RetryPattern.anyFoundIn description ps = .ok b := by
  induction ps with
  | nil => exact ⟨false, rfl⟩
  | cons q rest ih =>
    obtain ⟨b, hb⟩ := foundIn_ok (fun v hq => h v (hq ▸ List.mem_cons_self ..)) description
    obtain ⟨b', hrest⟩ := ih fun v hv => h v (List.mem_cons_of_mem _ hv)
    cases b with
    | true => exact ⟨true, by rw [RetryPattern.anyFoundIn, hb]; rfl⟩
    | false => exact ⟨b', by rw [RetryPattern.anyFoundIn, hb]; exact hrest⟩

theorem isRetryable_ok (hpatterns : policy.SearchesTexts) (f : Failure) :
    ∃ b, policy.isRetryable f = .ok b := by
  unfold RetryPolicy.isRetryable
  split
  · exact ⟨false, rfl⟩
  split
  · exact ⟨true, rfl⟩
  cases hps : policy.patterns with
  | none => exact ⟨true, rfl⟩
  | some ps => exact anyFoundIn_ok (hpatterns ps hps) f.description

theorem final_of_ok {c : Content} (hc : t.outcome = .ok c) : t.final policy = t.settled := by
  rw [Trial.final, Trial.spreads, hc]
  rfl

theorem final_of_mended {ctx : Context} (hm : t.mended = some ctx) : t.final policy = t.settled := by
  have hspreads : t.spreads policy = false := by
    rw [Trial.spreads, hm]
    cases t.outcome <;> rfl
  rw [Trial.final, hspreads]
  rfl

theorem final_of_retryable (hf : t.outcome = .error f) (hm : t.mended = none)
    (hworth : policy.isRetryable f = .ok true) : t.final policy =
      if policy.jitter.truthy then { t.settled with draws := t.settled.draws + 1 } else t.settled := by
  have hspreads : t.spreads policy = policy.jitter.truthy := by
    rw [Trial.spreads, hf, hm]
    dsimp only
    rw [hworth]
    rfl
  rw [Trial.final, hspreads]

/-- Nothing is drawn after an attempt that asks for no other one. -/
theorem final_of_not_asksAgain (hasks : ¬ t.AsksAgain policy) : t.final policy = t.settled := by
  have hspreads : t.spreads policy = false := by
    cases hout : t.outcome with
    | ok c => rw [Trial.spreads, hout]
    | error f =>
      cases hm : t.mended with
      | some ctx => rw [Trial.spreads, hout, hm]
      | none =>
        rw [Trial.spreads, hout, hm, Bool.and_eq_false_iff]
        refine .inl ?_
        cases hworth : policy.isRetryable f with
        | error _ => rfl
        | ok b =>
          cases b with
          | false => rfl
          | true => exact absurd ⟨f, hout, .inr hworth⟩ hasks
  rw [Trial.final, hspreads]
  rfl

/-- A successful attempt ends the run. -/
theorem exec_attempts_ok (ht : t.Happened p call w) {c : Content} (hc : t.outcome = .ok c)
    (hstart : t.start = { current with attempt := number, previous }) :
    (attempts p call policy left number current previous).exec w t.entered =
      (t.outcome, t.final policy) := by
  have hran := ht.ran
  rw [hstart, hc] at hran
  rw [attempts, Run.exec_bind_ok _ (Run.exec_outcome _), hran, final_of_ok hc, hc, (ht.accepted c hc).2]
  rfl

/-- A failed attempt goes on with what its setback leads to. -/
theorem exec_attempts_error (ht : t.Happened p call w) (hf : t.outcome = .error f)
    (hstart : t.start = { current with attempt := number, previous }) :
    (attempts p call policy left number current previous).exec w t.entered =
      (do
        let wait ← (Setback.mk f f t.mended).resume policy number
        match left with
        | 0 => throw f
        | left + 1 => do
          let delay ← Run.ofArithmetic wait.toFloat
          (Setback.mk f f t.mended).pause policy number delay
          attempts p call policy left (number + 1) (t.mended.getD current) (some f)).exec
        w t.settled := by
  have hran := ht.ran
  rw [hstart, hf] at hran
  have hset := exec_setback (ht.offered f hf)
  rw [hstart] at hset
  rw [attempts, Run.exec_bind_ok _ (Run.exec_outcome _), hran]
  exact Run.exec_bind_ok _ hset

theorem exec_resume_unworthy (hpatterns : policy.SearchesTexts) (hf : t.outcome = .error f)
    (hasks : ¬ t.AsksAgain policy) (s : State σ) :
    ((Setback.mk f f t.mended).resume policy number).exec w s = (.error f, s) := by
  -- A mended failure would ask for another attempt.
  have hnone : t.mended = none := by
    cases hm : t.mended with
    | none => rfl
    | some ctx => exact absurd ⟨f, hf, Or.inl (by rw [hm]; rfl)⟩ hasks
  obtain ⟨b, hb⟩ := isRetryable_ok hpatterns f
  have hfalse : policy.isRetryable f = .ok false := by
    cases b with
    | false => exact hb
    | true => exact absurd ⟨f, hf, Or.inr hb⟩ hasks
  have hworth : (Setback.mk f f t.mended).isWorthRetrying policy = .ok false := by
    rw [hnone]
    exact hfalse
  rw [Setback.resume, hworth]
  rfl

/-- A wait that the policy asks for is computed for the next chance, which is drawn only if waits are spread. -/
theorem exec_wait {d : Num} {s : State σ} (hd : policy.delayAfter (w.chance s.draws) number = .ok d) :
    ((Setback.mk f f none).wait policy number).exec w s =
      (.ok d, if policy.jitter.truthy then { s with draws := s.draws + 1 } else s) := by
  rw [Setback.wait]
  cases hspread : policy.jitter.truthy with
  | true =>
    have hwait : (Run.ofArithmetic (policy.delayAfter (w.chance s.draws) number)).exec w
        { s with draws := s.draws + 1 } = (.ok d, { s with draws := s.draws + 1 }) := by
      rw [hd]
      rfl
    exact hwait
  | false =>
    have hwait : (Run.ofArithmetic (policy.delayAfter 0.0 number)).exec w s = (.ok d, s) := by
      rw [RetryPolicy.delayAfter_of_steady hspread 0.0 (w.chance s.draws), hd]
      rfl
    exact hwait

/-- The wait before another attempt, once it can be computed. -/
theorem exec_resume_worthy (hasks : t.AsksAgain policy) (hf : t.outcome = .error f)
    (hcomputed : ∃ d, policy.delayAfter (w.chance t.settled.draws) number = .ok d) :
    ∃ wait, ((Setback.mk f f t.mended).resume policy number).exec w t.settled = (.ok wait, t.final policy) ∧
      if t.mended.isSome then wait = .float 0.0
      else policy.delayAfter (w.chance t.settled.draws) number = .ok wait := by
  cases hm : t.mended with
  | some ctx =>
    refine ⟨.float 0.0, ?_, ?_⟩
    · rw [Setback.resume, Setback.isWorthRetrying, Run.exec_bind_ok _ (Run.exec_ofExcept _)]
      rw [if_pos rfl, Setback.wait, Run.exec_pure, final_of_mended hm]
    · rw [if_pos (Option.isSome_some ..)]
  | none =>
    obtain ⟨d, hd⟩ := hcomputed
    -- As no hook has mended the failure, it asks for another attempt by itself.
    have hworth : policy.isRetryable f = .ok true := by
      obtain ⟨g, hg, hsome | hworth⟩ := hasks
      · rw [hm] at hsome
        exact absurd hsome (by decide)
      · rw [hf] at hg
        cases hg
        exact hworth
    refine ⟨d, ?_, hd⟩
    rw [Setback.resume, Setback.isWorthRetrying, hworth, Run.exec_bind_ok _ (Run.exec_ofExcept _)]
    rw [if_pos rfl, exec_wait hd, final_of_retryable hf hm hworth]

theorem exec_pause {mended : Option Context} {delay : Float} {s told : State σ}
    (h : (policy.tell f number delay).exec w
      { s with events := s.events ++ [.retrying number (Number.roundPlaces 3 delay) f.text] } =
        (.ok (), told)) :
    ((Setback.mk f f mended).pause policy number delay).exec w s =
      (.ok (), { told with
        sleeps := told.sleeps ++ [delay], clock := w.afterSleep told.clock delay }) := by
  rw [Setback.pause, Run.exec_bind_ok _ (Run.exec_log _), Run.exec_bind_ok _ h, Run.exec_sleep]

theorem tell_neverFails
    (hnotify : ∀ notify, policy.onRetry = some notify → ∀ f k d, (notify f k d).NeverFails w)
    (f : Failure) (number : Nat) (delay : Float) : (policy.tell f number delay).NeverFails w := by
  unfold RetryPolicy.tell
  cases hn : policy.onRetry with
  | none => exact fun s => ⟨(), s, rfl⟩
  | some notify => exact hnotify notify hn f number delay

/-- The waits that a run may come to: those after all attempts are computed, and those before another attempt are in
the range of doubles. -/
structure Payable (policy : RetryPolicy σ) (w : Surroundings σ) (limit : Nat) : Prop where
  computed : ∀ k, 1 ≤ k → k ≤ limit → ∀ n, ∃ d, policy.delayAfter (w.chance n) k = .ok d
  inRange : ∀ k, 1 ≤ k → k < limit → ∀ n d, policy.delayAfter (w.chance n) k = .ok d → ∃ x, d.toFloat = .ok x

/-- Waits that are doubles are in their range. -/
theorem payable_of_float {limit : Nat}
    (h : ∀ k, 1 ≤ k → k ≤ limit → ∀ n, ∃ x, policy.delayAfter (w.chance n) k = .ok (.float x)) :
    Payable policy w limit where
  computed k hk hk' n := by
    obtain ⟨x, hx⟩ := h k hk hk' n
    exact ⟨_, hx⟩
  inRange k hk hk' n d hd := by
    obtain ⟨x, hx⟩ := h k hk (Nat.le_of_lt hk') n
    obtain rfl := Except.ok.inj (hx.symm.trans hd)
    exact ⟨x, rfl⟩

/-- An attempt that asks again before the last one allowed hands over to the attempts that are left. -/
theorem exec_attempts_again (left : Nat) (ht : t.Happened p call w) (hf : t.outcome = .error f)
    (hstart : t.start = { current with attempt := number, previous })
    (hnotify : ∀ notify, policy.onRetry = some notify → ∀ f k d, (notify f k d).NeverFails w)
    (hdelay : ∃ d delay, policy.delayAfter (w.chance t.settled.draws) number = .ok d ∧ d.toFloat = .ok delay)
    (hasks : t.AsksAgain policy) :
    ∃ s, (∀ next : Trial σ, next.entered = s → t.PausesBefore policy w number next) ∧
      (attempts p call policy (left + 1) number current previous).exec w t.entered =
        (attempts p call policy left (number + 1) (t.mended.getD current) (some f)).exec w s := by
  obtain ⟨d, length, hd, hlength⟩ := hdelay
  obtain ⟨wait, hresume, hwait⟩ := exec_resume_worthy hasks hf ⟨d, hd⟩
  obtain ⟨delay, hfloat, hdelay⟩ : ∃ delay, wait.toFloat = .ok delay ∧ if t.mended.isSome then delay = 0.0
      else policy.HasDelay (w.chance t.settled.draws) number delay := by
    cases hm : t.mended.isSome with
    | true =>
      rw [hm, if_pos rfl] at hwait
      exact ⟨0.0, by rw [hwait, Num.toFloat], rfl⟩
    | false =>
      rw [hm, if_neg Bool.false_ne_true, hd] at hwait
      obtain rfl := Except.ok.inj hwait
      exact ⟨length, hlength, d, hd, hlength⟩
  obtain ⟨_, told, htold⟩ := tell_neverFails hnotify f number delay
    { t.final policy with
      events := (t.final policy).events ++ [.retrying number (Number.roundPlaces 3 delay) f.text] }
  refine ⟨_, fun next hnext => ⟨f, delay, told, hf, hdelay, htold, hnext⟩, ?_⟩
  -- There is an attempt left, so what follows the wait is the pause and then this attempt.
  rw [exec_attempts_error ht hf hstart, Run.exec_bind_ok _ hresume]
  dsimp only
  rw [hfloat, Run.ofArithmetic, Run.exec_bind_ok _ (Run.exec_pure _),
    Run.exec_bind_ok _ (exec_pause htold)]

/-- A wait beyond the range of doubles ends the run before the attempt that would follow it. -/
theorem exec_attempts_beyond (left : Nat) (ht : t.Happened p call w) (hf : t.outcome = .error f)
    (hstart : t.start = { current with attempt := number, previous }) (hm : t.mended = none)
    (hworth : policy.isRetryable f = .ok true) {d : Num} {fault : Number.Fault}
    (hd : policy.delayAfter (w.chance t.settled.draws) number = .ok d) (hfloat : d.toFloat = .error fault) :
    (attempts p call policy (left + 1) number current previous).exec w t.entered =
      (.error (Run.ofFault fault), t.final policy) := by
  obtain ⟨wait, hresume, hwait⟩ := exec_resume_worthy ⟨f, hf, .inr hworth⟩ hf ⟨d, hd⟩
  have hsame : d = wait := by
    rw [hm, Option.isSome_none, if_neg Bool.false_ne_true, hd] at hwait
    exact Except.ok.inj hwait
  rw [exec_attempts_error ht hf hstart, Run.exec_bind_ok _ hresume, ← hsame]
  dsimp only
  rw [hfloat, Run.ofArithmetic, Run.exec_bind_error _ (Run.exec_throw _)]

/-- An attempt that fails and asks for nothing ends the run, and so does the last one allowed. -/
theorem exec_attempts_final (ht : t.Happened p call w) (hf : t.outcome = .error f)
    (hstart : t.start = { current with attempt := number, previous })
    (hpatterns : policy.SearchesTexts)
    (hcomputed : ∃ d, policy.delayAfter (w.chance t.settled.draws) number = .ok d)
    (hfinal : left = 0 ∨ ¬ t.AsksAgain policy) :
    (attempts p call policy left number current previous).exec w t.entered =
      (t.outcome, t.final policy) := by
  rw [exec_attempts_error ht hf hstart, hf]
  by_cases hasks : t.AsksAgain policy
  · -- The wait is computed before it is known that there may be no further attempt.
    obtain rfl := hfinal.resolve_right (not_not_intro hasks)
    obtain ⟨wait, hresume, -⟩ := exec_resume_worthy hasks hf hcomputed
    rw [Run.exec_bind_ok _ hresume, Run.exec_throw]
  · rw [Run.exec_bind_error _ (exec_resume_unworthy hpatterns hf hasks t.settled), final_of_not_asksAgain hasks]

/-! ### Runs -/

/-- A failure that asks for nothing, or the success of an attempt, or the last attempt allowed: the run ends. -/
theorem exec_attempts_stop (ht : t.Happened p call w)
    (hstart : t.start = { current with attempt := number, previous })
    (hpatterns : policy.SearchesTexts)
    (hcomputed : ∃ d, policy.delayAfter (w.chance t.settled.draws) number = .ok d)
    (hfinal : left = 0 ∨ ¬ t.AsksAgain policy) :
    (attempts p call policy left number current previous).exec w t.entered =
      (t.outcome, t.final policy) := by
  cases hout : t.outcome with
  | ok c =>
    rw [← hout]
    exact exec_attempts_ok ht hout hstart
  | error f =>
    rw [← hout]
    exact exec_attempts_final ht hout hstart hpatterns hcomputed hfinal

/-- Attempts have a history, and its last attempt is their answer.  The induction is on the attempts that are
left; their history is for the context and the failure that this attempt hands on. -/
theorem attempts_history (call : Context → Run σ Content)
    (hhooks : ∀ m ∈ p.middlewares, ∀ ctx f, (m.onError ctx f).NeverFails w)
    (hnotify : ∀ notify, policy.onRetry = some notify → ∀ f k d, (notify f k d).NeverFails w)
    (hpatterns : policy.SearchesTexts) {limit : Nat} (hwaits : Payable policy w limit) (left : Nat) :
    ∀ (number : Nat) (c : Carried) (s : State σ), 1 ≤ number → number + left = limit →
      ∃ trials last, History p call policy w (left + 1) number c s trials ∧
        trials.getLast? = some last ∧
        (attempts p call policy left number c.context c.previous).exec w s =
          (last.outcome, last.final policy) := by
  induction left with
  | zero =>
    intro number c s hpos hlimit
    obtain ⟨t, hstart, rfl, ht⟩ := exists_trial call hhooks
      { c.context with attempt := number, previous := c.previous } s
    have hcomputed := hwaits.computed number hpos (by omega) t.settled.draws
    refine ⟨[t], t, ⟨.singleton ⟨hstart, ht⟩ (Nat.le_refl 1) (by omega), ?_⟩, rfl, ?_⟩
    · rintro u ⟨⟩
      rfl
    · exact exec_attempts_stop ht hstart hpatterns hcomputed (Or.inl rfl)
  | succ left ih =>
    intro number c s hpos hlimit
    obtain ⟨t, hstart, rfl, ht⟩ := exists_trial call hhooks
      { c.context with attempt := number, previous := c.previous } s
    obtain ⟨d, hd⟩ := hwaits.computed number hpos (by omega) t.settled.draws
    by_cases hasks : t.AsksAgain policy
    · -- The attempts that are left start from what this one carries on, and in the state after the pause.
      obtain ⟨f, hf, -⟩ := id hasks
      obtain ⟨delay, hdelay⟩ := hwaits.inRange number hpos (by omega) t.settled.draws d hd
      obtain ⟨s, hpause, hrun⟩ :=
        exec_attempts_again left ht hf hstart hnotify ⟨d, delay, hd, hdelay⟩ hasks
      obtain ⟨trials, last, ⟨hchain, hentered⟩, hlast, hrest⟩ := ih (number + 1)
        ⟨t.mended.getD c.context, some f⟩ s (by omega) (by omega)
      have hcarry : (retries p call policy w).carry c t = ⟨t.mended.getD c.context, some f⟩ := by
        simp only [retries, Trial.failure?, hf]
      rw [← hcarry] at hchain
      refine ⟨t :: trials, last, ⟨.cons ⟨hstart, ht⟩ hasks ?_ hchain, ?_⟩, ?_, hrun.trans hrest⟩
      · exact fun u hu => hpause u (hentered u hu)
      · rintro u ⟨⟩
        rfl
      · rw [List.getLast?_cons, hlast, Option.getD_some]
    · refine ⟨[t], t, ⟨.singleton ⟨hstart, ht⟩ (by omega) fun _ => hasks, ?_⟩, rfl, ?_⟩
      · rintro u ⟨⟩
        rfl
      · exact exec_attempts_stop ht hstart hpatterns ⟨d, hd⟩ (Or.inr hasks)

theorem attempts_of_nonpos {limit : Int} (hlimit : policy.maxAttempts.num? = some (.int limit))
    (h : limit ≤ 0) : policy.attempts = .error (.configuration
      s!"max_attempts must be at least 1, got {policy.maxAttempts.text}" none) := by
  have hle : (Num.int limit).le (.int 0) = true := by
    simp only [Num.le, Num.lt, Num.same, Bool.or_eq_true, decide_eq_true_eq, beq_iff_eq]
    omega
  simp only [RetryPolicy.attempts, hlimit, hle, if_true]

theorem attempts_of_pos {limit : Int} (hlimit : policy.maxAttempts.num? = some (.int limit))
    (h : 0 < limit) : policy.attempts = .ok limit.toNat := by
  have hle : (Num.int limit).le (.int 0) = false := by
    simp only [Num.le, Num.lt, Num.same, Bool.or_eq_false_iff, decide_eq_false_iff_not,
      beq_eq_false_iff_ne]
    omega
  simp only [RetryPolicy.attempts, hlimit, hle, RetryPolicy.ceiling]
  rfl

/-- A positive number of attempts leaves a history behind. -/
theorem exists_history (p : Pipeline σ) (call : Context → Run σ Content) (ctx : Context)
    (policy : RetryPolicy σ) (w : Surroundings σ) {limit : Int}
    (hlimit : policy.maxAttempts.num? = some (.int limit)) (hpos : 0 < limit) (hpatterns : policy.SearchesTexts)
    (hhooks : ∀ m ∈ p.middlewares, ∀ ctx f, (m.onError ctx f).NeverFails w)
    (hnotify : ∀ notify, policy.onRetry = some notify → ∀ f k d, (notify f k d).NeverFails w)
    (hwaits : Payable policy w limit.toNat) (s : State σ) :
    ∃ trials last, History p call policy w limit.toNat 1 ⟨ctx, none⟩ s trials ∧
      trials.getLast? = some last ∧
      (p.execute call ctx policy).exec w s = (last.outcome, last.final policy) := by
  have hcount : limit.toNat - 1 + 1 = limit.toNat := by omega
  obtain ⟨trials, last, hhistory, hlast, hrun⟩ := attempts_history call hhooks hnotify hpatterns hwaits
    (limit.toNat - 1) 1 ⟨ctx, none⟩ s (Nat.le_refl 1) (by omega)
  rw [hcount] at hhistory
  refine ⟨trials, last, hhistory, hlast, ?_⟩
  rw [execute, attempts_of_pos hlimit hpos, Run.exec_bind_ok _ (Run.exec_ofExcept _), hrun]

/-- **The law of a run.**  Without a positive number of attempts the run is a failure and nothing else.
Otherwise it has a history, and answers what the last attempt in it has answered: content, or the failure
itself, also where a hook has mended that failure.  This is so if the wait after each attempt that may be made can be
computed, and the wait before each further attempt is in the range of doubles. -/
theorem execute_history (p : Pipeline σ) (call : Context → Run σ Content) (ctx : Context)
    (policy : RetryPolicy σ) (w : Surroundings σ) (limit : Int)
    (hlimit : policy.maxAttempts.num? = some (.int limit)) (hpatterns : policy.SearchesTexts)
    (hhooks : ∀ m ∈ p.middlewares, ∀ ctx f, (m.onError ctx f).NeverFails w)
    (hnotify : ∀ notify, policy.onRetry = some notify → ∀ f k d, (notify f k d).NeverFails w) :
    (limit ≤ 0 → p.execute call ctx policy = throw (.configuration
      s!"max_attempts must be at least 1, got {policy.maxAttempts.text}" none)) ∧
    (0 < limit →
      (∀ k : Nat, 1 ≤ k → (k : Int) ≤ limit → ∀ n, ∃ d, policy.delayAfter (w.chance n) k = .ok d) →
      (∀ k : Nat, 1 ≤ k → (k : Int) < limit → ∀ n d, policy.delayAfter (w.chance n) k = .ok d →
        ∃ x, d.toFloat = .ok x) →
      ∀ s, ∃ trials last, History p call policy w limit.toNat 1 ⟨ctx, none⟩ s trials ∧
        trials.getLast? = some last ∧
        (p.execute call ctx policy).exec w s = (last.outcome, last.final policy)) := by
  constructor
  · intro h
    refine Run.ext fun w s => ?_
    rw [execute, attempts_of_nonpos hlimit h, Run.exec_bind_error _ (Run.exec_ofExcept _),
      Run.exec_throw]
  · intro h hcomputed hrange s
    have hwaits : Payable policy w limit.toNat :=
      { computed := fun k hk hk' => hcomputed k hk (by omega)
        inRange := fun k hk hk' => hrange k hk (by omega) }
    exact exists_history p call ctx policy w hlimit h hpatterns hhooks hnotify hwaits s

/-- A middleware that mends the failure of the first attempt. -/
def mendsFirst : Middleware Unit where
  onError ctx _ :=
    pure (if ctx.attempt = 1 then some (ctx.withAux [("hint", .plain (.str "mended"))]) else none)

/-- A call that fails in the first two attempts. -/
def failsTwice (ctx : Context) : Run Unit Content :=
  if ctx.attempt < 3 then throw (.fault .timeout "too slow") else pure (.plain (.str "ready"))

theorem execute_history_mendsFirst : (0 : Int) < 3 ∧ ∃ trials last,
    History ⟨[mendsFirst]⟩ failsTwice {} (.alone Unit) 3 1 ⟨{ session := {} }, none⟩ { host := () }
        trials ∧
      trials.getLast? = some last ∧
      (execute ⟨[mendsFirst]⟩ failsTwice { session := {} } {}).exec (.alone Unit) { host := () } =
        (last.outcome, last.final {}) := by
  have hhooks : ∀ m ∈ [mendsFirst], ∀ ctx f, (m.onError ctx f).NeverFails (.alone Unit) := by
    intro m hm ctx f s
    rw [List.mem_singleton.1 hm]
    exact ⟨_, s, rfl⟩
  have hwaits : Payable (σ := Unit) {} (.alone Unit) 3 := by
    refine payable_of_float fun k hk hk' n => ?_
    obtain rfl | rfl | rfl : k = 1 ∨ k = 2 ∨ k = 3 := by omega
    all_goals exact ⟨_, rfl⟩
  have hcomputed : ∀ k : Nat, 1 ≤ k → (k : Int) ≤ 3 → _ := fun k hk hk' => hwaits.computed k hk (by omega)
  have hrange : ∀ k : Nat, 1 ≤ k → (k : Int) < 3 → _ := fun k hk hk' => hwaits.inRange k hk (by omega)
  exact ⟨by decide, (execute_history ⟨[mendsFirst]⟩ failsTwice { session := {} } {} (.alone Unit) 3
    rfl (RetryPolicy.searchesTexts_passing rfl) hhooks (by rintro notify ⟨⟩)).2 (by decide) hcomputed hrange
    { host := () }⟩

/-! ### Waits beyond the doubles -/

/-- A policy whose waits are whole numbers that no double can hold. -/
def vastWaits : RetryPolicy Unit where
  maxAttempts := .int 2
  baseDelay := .int (10 ^ 400)
  maxDelay := .int (10 ^ 400)
  backoffFactor := .int 1
  jitter := .bool false
  patterns := none

theorem delayAfter_vastWaits (chance : Float) {k : Nat} (hk : 1 ≤ k) :
    vastWaits.delayAfter chance k = .ok (.int (10 ^ 400)) := by
  obtain ⟨n, rfl⟩ := Nat.exists_eq_add_of_le' hk
  have hbase : vastWaits.baseDelay.num = .ok (.int (10 ^ 400)) := rfl
  have hmost : vastWaits.maxDelay.num = .ok (.int (10 ^ 400)) := rfl
  have hfactor : vastWaits.backoffFactor.num = .ok (.int 1) := rfl
  have hspread : vastWaits.jitter.truthy = false := rfl
  have hattempt : ((n + 1 : Nat) : Int) - 1 = n := by omega
  have hpow : (Num.int 1).pow (n : Int) = .ok (.int 1) := by rw [Num.pow_int, one_pow]
  have hmul : (Num.int (10 ^ 400)).mul (.int 1) = .ok (.int (10 ^ 400)) := by rw [Num.mul, Int.mul_one]
  have hmin : (Num.int (10 ^ 400)).min (.int (10 ^ 400)) = .int (10 ^ 400) := ite_self _
  simp only [RetryPolicy.delayAfter, hbase, hmost, hfactor, hspread, hattempt, bind, Except.bind, hpow, hmul, hmin]
  rfl

theorem toFloat_vastWait : (Num.int (10 ^ 400)).toFloat = .error .tooLarge := by
  rw [Num.toFloat, Number.ofInt?_vast]

/-- The wait after each attempt can be computed, but a run whose first attempt fails ends with the first wait: no second
attempt follows, so that the run has no history. -/
theorem no_history_beyond_doubles :
    (∀ chance, ∀ k : Nat, 1 ≤ k → ∃ d, vastWaits.delayAfter chance k = .ok d) ∧
    ((execute ⟨[]⟩ failsTwice { session := {} } vastWaits).exec (.alone Unit) { host := () }).1 =
      .error (.fault .overflow "int too large to convert to float") ∧
    ¬∃ trials, History ⟨[]⟩ failsTwice vastWaits (.alone Unit) 2 1 ⟨{ session := {} }, none⟩ { host := () }
      trials := by
  -- The first attempt fails, and nothing mends that.
  have hfirst : ∀ t : Trial Unit, t.start = { session := {}, attempt := 1, previous := none } →
      t.entered = { host := () } → t.Happened ⟨[]⟩ failsTwice (.alone Unit) →
      t.outcome = .error (.fault .timeout "too slow") ∧ t.mended = none := by
    intro t hstart hentered ht
    have hran := ht.ran
    rw [hstart, hentered] at hran
    have hf : t.outcome = .error (.fault .timeout "too slow") := (congrArg Prod.fst hran).symm
    have hoffered := ht.offered _ hf
    exact ⟨hf, (Except.ok.inj (congrArg Prod.fst hoffered)).symm⟩
  have hworth : vastWaits.isRetryable (.fault .timeout "too slow") = .ok true := rfl
  refine ⟨fun chance k hk => ⟨_, delayAfter_vastWaits chance hk⟩, ?_, ?_⟩
  · obtain ⟨t, hstart, hentered, ht⟩ := exists_trial (p := ⟨[]⟩) (w := .alone Unit) failsTwice
      (fun m hm => absurd hm List.not_mem_nil) { session := {}, attempt := 1, previous := none } { host := () }
    obtain ⟨hf, hm⟩ := hfirst t hstart hentered ht
    have hrun : (attempts ⟨[]⟩ failsTwice vastWaits 1 1 { session := {} } none).exec (.alone Unit) t.entered = _ :=
      exec_attempts_beyond 0 ht hf hstart hm hworth (delayAfter_vastWaits _ (Nat.le_refl 1)) toFloat_vastWait
    rw [hentered] at hrun
    exact congrArg Prod.fst hrun
  · rintro ⟨trials, hchain, hentered⟩
    obtain ⟨t, rest, rfl⟩ := List.exists_cons_of_ne_nil hchain.ne_nil
    obtain ⟨hstart, ht⟩ := hchain.starts 0 (Nat.succ_pos _)
    obtain ⟨hf, hm⟩ := hfirst t hstart (hentered t rfl) ht
    -- The failure asks for a second attempt, which would be joined by a wait in the range of doubles.
    have hsecond := (hchain.continues 0 (Nat.succ_pos _)).2 ⟨by decide, _, hf, .inr hworth⟩
    obtain ⟨f, delay, told, -, hdelay, -⟩ := hchain.joins 0 hsecond
    have hmended : (t :: rest)[0].mended.isSome = false := congrArg Option.isSome hm
    rw [hmended, if_neg Bool.false_ne_true] at hdelay
    obtain ⟨d, hd, hfloat⟩ := hdelay
    rw [delayAfter_vastWaits _ (Nat.le_refl 1)] at hd
    obtain rfl := Except.ok.inj hd
    rw [toFloat_vastWait] at hfloat
    cases hfloat

end Pipeline

end Colloquy
