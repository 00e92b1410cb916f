import Colloquy.Proofs.Template.Lexical

/-!
# Rounds of a loop

Before every round a loop asks its predicate about the session that it has come to, and goes on as long as the predicate
does not hold.  `Rounds` are the rounds that were run in full, with the sessions that they have started from;
`LoopEnds` says how a loop ends after them.  When no further round is allowed, the predicate is asked once more, and
only an answer that it does not hold is reported.

`run_loop` is the law of whole loops, with or without a predicate and in any scope.  Since every step leads from the
state in which the one before has ended, nothing else is asked or run in between.
-/

namespace Colloquy.Template

variable {σ : Type}

/-! ### Rounds -/

section

variable (ask : Session → Run σ Bool) (step : Session → Run σ Session) (w : Surroundings σ)

/-- Rounds that lead from one session to another one, and the sessions that they have started from: each of them asks
about its session, the answer is that the loop is not done, and the body makes the next session. -/
inductive Rounds : List Session → Session → State σ → Session → State σ → Prop
  | nil {s : Session} {st : State σ} : Rounds [] s st s st
  | cons {s s₁ s' : Session} {ss : List Session} {st st₁ st₂ st' : State σ}
    (hask : (ask s).exec w st = (.ok false, st₁)) (hstep : (step s).exec w st₁ = (.ok s₁, st₂))
    (hrest : Rounds ss s₁ st₂ s' st') : Rounds (s :: ss) s st s' st'

/-- How a loop ends that may run `rounds` rounds; `limit` is what it reports when these were too few. -/
inductive LoopEnds (limit : Int) (rounds : Nat) (s : Session) (st : State σ) :
    Except Failure Session → State σ → Prop
  /-- The predicate holds, be it only when no further round is allowed. -/
  | done {ss : List Session} {s' : Session} {st₁ st' : State σ} (hrounds : Rounds ask step w ss s st s' st₁)
    (hle : ss.length ≤ rounds) (hask : (ask s').exec w st₁ = (.ok true, st')) :
    LoopEnds limit rounds s st (.ok s') st'
  /-- All rounds were run, and the predicate still does not hold. -/
  | exhausted {ss : List Session} {s' : Session} {st₁ st' : State σ}
    (hrounds : Rounds ask step w ss s st s' st₁) (hall : ss.length = rounds)
    (hask : (ask s').exec w st₁ = (.ok false, st')) :
    LoopEnds limit rounds s st (.ok s') { st' with events := st'.events ++ [.loopExhausted limit] }
  /-- The predicate fails. -/
  | unanswered {ss : List Session} {s' : Session} {f : Failure} {st₁ st' : State σ}
    (hrounds : Rounds ask step w ss s st s' st₁) (hle : ss.length ≤ rounds)
    (hask : (ask s').exec w st₁ = (.error f, st')) : LoopEnds limit rounds s st (.error f) st'
  /-- The body fails. -/
  | broken {ss : List Session} {s' : Session} {f : Failure} {st₁ st₂ st' : State σ}
    (hrounds : Rounds ask step w ss s st s' st₁) (hlt : ss.length < rounds)
    (hask : (ask s').exec w st₁ = (.ok false, st₂)) (hstep : (step s').exec w st₂ = (.error f, st')) :
    LoopEnds limit rounds s st (.error f) st'

end

variable {ask : Session → Run σ Bool} {step : Session → Run σ Session} {w : Surroundings σ} {limit : Int}
  {rounds : Nat} {s s₁ : Session} {st st₁ st₂ st' : State σ} {x : Except Failure Session}

/-- A round in front of those that a loop goes on with. -/
theorem LoopEnds.cons (hask : (ask s).exec w st = (.ok false, st₁)) (hstep : (step s).exec w st₁ = (.ok s₁, st₂))
    (h : LoopEnds ask step w limit rounds s₁ st₂ x st') : LoopEnds ask step w limit (rounds + 1) s st x st' := by
  cases h with
  | done hrounds hle hask' => exact .done (.cons hask hstep hrounds) (Nat.succ_le_succ hle) hask'
  | exhausted hrounds hall hask' => exact .exhausted (.cons hask hstep hrounds) (congrArg (· + 1) hall) hask'
  | unanswered hrounds hle hask' => exact .unanswered (.cons hask hstep hrounds) (Nat.succ_le_succ hle) hask'
  | broken hrounds hlt hask' hstep' => exact .broken (.cons hask hstep hrounds) (Nat.succ_lt_succ hlt) hask' hstep'

/-! ### Loops -/

theorem repeatUntil_zero (done : Predicate σ) (step : Session → Run σ Session) (limit : Int) (s : Session) :
    repeatUntil done step limit 0 s = holds done s >>= fun held =>
      if !held then Run.log (.loopExhausted limit) >>= fun _ => pure s else pure s := rfl

theorem repeatUntil_succ (done : Predicate σ) (step : Session → Run σ Session) (limit : Int) (rounds : Nat)
    (s : Session) : repeatUntil done step limit (rounds + 1) s = holds done s >>= fun held =>
      if held then pure s else step s >>= repeatUntil done step limit rounds := rfl

/-- Rounds are run up to the session of which the predicate holds, or to the last one allowed.  The induction is on the
rounds that are left. -/
theorem loopEnds_repeatUntil (done : Predicate σ) (step : Session → Run σ Session) (w : Surroundings σ) (limit : Int)
    (rounds : Nat) (s : Session) (st : State σ) :
    LoopEnds (holds done) step w limit rounds s st ((repeatUntil done step limit rounds s).exec w st).1
      ((repeatUntil done step limit rounds s).exec w st).2 := by
  induction rounds generalizing s st with
  | zero =>
    rw [repeatUntil_zero]
    rcases hask : (holds done s).exec w st with ⟨f | held, st₁⟩
    · rw [Run.exec_bind_error _ hask]
      exact .unanswered .nil (Nat.le_refl 0) hask
    · rw [Run.exec_bind_ok _ hask]
      cases held with
      | true => exact .done .nil (Nat.le_refl 0) hask
      | false => exact .exhausted .nil rfl hask
  | succ rounds ih =>
    rw [repeatUntil_succ]
    rcases hask : (holds done s).exec w st with ⟨f | held, st₁⟩
    · rw [Run.exec_bind_error _ hask]
      exact .unanswered .nil (Nat.zero_le _) hask
    rw [Run.exec_bind_ok _ hask]
    cases held with
    | true => exact .done .nil (Nat.zero_le _) hask
    | false =>
      rw [if_neg Bool.false_ne_true]
      rcases hstep : (step s).exec w st₁ with ⟨f | s₁, st₂⟩
      · rw [Run.exec_bind_error _ hstep]
        exact .broken .nil (Nat.succ_pos rounds) hask hstep
      · rw [Run.exec_bind_ok _ hstep]
        exact .cons hask hstep (ih s₁ st₂)

theorem runAllIn_eq_foldlM (body : List (Template σ)) (outer : Defaults σ) (s : Session) :
    runAllIn body outer s = body.foldlM (fun s t => t.runIn outer s) s := by
  induction body generalizing s with
  | nil => rfl
  | cons t rest ih =>
    rw [runAllIn, List.foldlM_cons]
    exact congrArg _ (funext ih)

/-- **The law of loops.**  A loop without a body fails before anything is asked.  Without a predicate the body is run
once, whatever the limit, and this is reported.  With a predicate, rounds are run until it holds of a session, but no
more than the limit says, of which a negative one counts as zero; in each round the parts of the body are run in order.
The scope is the same afterwards, however the loop ends. -/
theorem run_loop (body : List (Template σ)) (done : Option (Predicate σ)) (limit : Int) (defaults : Defaults σ)
    (s : Session) (w : Surroundings σ) (outer : Defaults σ) (st : State σ) :
    ∃ x st', ((loop body done limit defaults).run s).exec w outer st = (x, outer, st') ∧
      let pass := fun s => body.foldlM (fun s t => t.runIn (defaults.within outer) s) s
      match body, done with
      | [], _ => x = .error (.emptyComposite "Loop") ∧ st' = st
      | _ :: _, none => (pass s).exec w { st with events := st.events ++ [.loopWithoutExit] } = (x, st')
      | _ :: _, some p => LoopEnds (holds p) pass w limit limit.toNat s st x st' := by
  rw [run_eq_reading, Scoped.exec_reading]
  refine ⟨_, _, rfl, ?_⟩
  dsimp only
  rw [runIn]
  simp only [runAllIn_eq_foldlM]
  cases body with
  | nil => exact ⟨rfl, rfl⟩
  | cons t rest =>
    cases done with
    | none => rfl
    | some p => exact loopEnds_repeatUntil p _ w limit limit.toNat s st

end Colloquy.Template
