import Colloquy.Proofs.Budget.Meter
import Colloquy.Proofs.Pipeline.History
import Colloquy.Proofs.Template.Upkeep
import Colloquy.Source.Build

/-!
# Budgets of lineages

A lineage is the source of a model with a budget, and everything that is derived from it by any builder but the
one that hands out a new budget (`Source.Derivation`).  Its members may be asked in any order, by themselves or
in programs, and further ones may be derived at any time (`Lineage`).  `Lineage.within_budget` is its law: the
backends of all members together are called as often as the budget counts, which is no more than its limit.
When the limit is reached a call is refused before any backend is called, and no retry policy repeats it.

What callers hand over has to leave a balance where it finds one, so that it may ask members of the lineage
itself.  It is enough that it does so from balanced states: whenever callers' code runs, the budget is balanced.
-/

namespace Colloquy

variable {σ : Type} {b : Budget} {meter : Nat}

open Run

/-! ### Derived sources -/

namespace Source

/-- A source of a model that draws on a budget, and that fits the meter. -/
structure Draws (b : Budget) (meter : Nat) (src : Source σ) : Prop where
  fits : src.Fits b meter
  draws : ∃ access, src.origin = .model access ∧ access.budget = b

/-- The builders that keep the budget: all but `withBudget`.  What callers hand over fits the meter. -/
inductive Derivation (b : Budget) (meter : Nat) : (Source σ → Run σ (Source σ)) → Prop
  | withPolicy {policy} (h : policy.Fits b meter) : Derivation b meter (·.withPolicy policy)
  | validate {v} (h : Validator.AllMaintain (b.Balanced meter) v.functions) :
    Derivation b meter (·.validate v)
  | withMaxAttempts (n : Int) : Derivation b meter (·.withMaxAttempts n)
  | withRaiseOnFailure (raiseOnFailure : Bool) :
    Derivation b meter (·.withRaiseOnFailure raiseOnFailure)
  | use {m} (h : m.Maintains (b.Balanced meter)) : Derivation b meter (·.use m)
  | withRetry {config change} (hconfig : ∀ c ∈ config, c.Maintains (b.Balanced meter))
    (hchange : ∀ c : RetryPolicy σ, c.Maintains (b.Balanced meter) →
      (change c).Maintains (b.Balanced meter)) : Derivation b meter (·.withRetry config change)
  | withOptions (change : Options → Options) : Derivation b meter (·.withOptions change)
  | withProvider (change : ProviderConfig → ProviderConfig) :
    Derivation b meter (·.withProvider change)
  | atProvider (kind : ProviderKind) (model apiKey : Option String) :
    Derivation b meter (·.atProvider kind model apiKey)
  | withTools (tools : List ToolSpec) : Derivation b meter (·.withTools tools)
  | withSchema (model : DataModel) (name mode : String) : Derivation b meter (·.withSchema model name mode)
  | withBackend {backend} (h : backend.Fits b meter) : Derivation b meter (·.withBackend backend)

theorem keepsBooks_copyOrigin (origin : Origin σ) : (copyOrigin origin).KeepsBooks := by
  cases origin with
  | list items loop cell =>
    exact keepsBooks_newCell.bind fun own => Keeps.bind (.modify fun _ => rfl) fun _ => .pure _
  | model access =>
    exact keepsBooks_newCell.bind fun own => Keeps.bind (.modify fun _ => rfl) fun _ => .pure _
  | _ => exact .pure _

theorem ensures_copyOrigin (access : ModelAccess σ) :
    (copyOrigin (.model access)).Ensures fun origin =>
      ∃ own, origin = .model { access with attached := own } :=
  .after fun own => .after fun _ => .pure ⟨own, rfl⟩

/-- A run that answers with a source of the lineage, and that does not touch the books. -/
def Derives (b : Budget) (meter : Nat) (r : Run σ (Source σ)) : Prop :=
  r.KeepsBooks ∧ r.Ensures (Draws b meter)

variable {src : Source σ}

theorem Draws.withPolicy (h : src.Draws b meter) {policy : Policy σ} (hpolicy : policy.Fits b meter) :
    Derives b meter (src.withPolicy policy) := by
  obtain ⟨origin, old⟩ := src
  obtain ⟨access, rfl, hbudget⟩ := h.draws
  refine ⟨(keepsBooks_copyOrigin _).bind fun origin => .pure _, ?_⟩
  refine .bind (ensures_copyOrigin access) fun origin horigin => .pure ?_
  obtain ⟨own, rfl⟩ := horigin
  exact ⟨⟨h.fits.origin, hpolicy⟩, _, rfl, hbudget⟩

theorem Draws.withAccess (h : src.Draws b meter) {change : ModelAccess σ → ModelAccess σ}
    (hbudget : ∀ access, (change access).budget = access.budget)
    (hbackend : ∀ access, (∀ backend ∈ access.backend, backend.Fits b meter) →
      ∀ backend ∈ (change access).backend, backend.Fits b meter) :
    Derives b meter (src.withAccess change) := by
  obtain ⟨origin, policy⟩ := src
  obtain ⟨access, rfl, hdraws⟩ := h.draws
  constructor
  · refine (keepsBooks_copyOrigin _).bind fun origin => ?_
    cases origin with
    | model access => exact .pure _
    | _ => exact .pure _
  · refine .bind (ensures_copyOrigin access) fun origin horigin => ?_
    obtain ⟨own, rfl⟩ := horigin
    have hsame := (hbudget { access with attached := own }).trans hdraws
    exact .pure ⟨⟨⟨.inl hsame, hbackend _ h.fits.origin.2⟩, h.fits.policy⟩, _, rfl, hsame⟩

theorem Draws.withOptions (h : src.Draws b meter) (change : Options → Options) :
    Derives b meter (src.withOptions change) :=
  h.withAccess (fun _ => rfl) fun _ hbackend => hbackend

/-- What is derived from a source of the lineage is one of the lineage. -/
theorem Derivation.derives {build : Source σ → Run σ (Source σ)} (h : Derivation b meter build)
    (hsrc : src.Draws b meter) : Derives b meter (build src) := by
  have hpolicy := hsrc.fits.policy
  cases h with
  | withPolicy h => exact hsrc.withPolicy h
  | @validate v h =>
    refine hsrc.withPolicy ⟨fun other hother => ?_, hpolicy.middlewares, hpolicy.retry⟩
    rw [← Option.some.inj hother]
    exact h
  | withMaxAttempts n =>
    -- With a number of attempts that is not allowed there is no source to answer with.
    refine ⟨(Keeps.ofExcept _).bind fun policy => ?_, ?_⟩
    · exact (keepsBooks_copyOrigin _).bind fun origin => .pure _
    · refine .bind (Q := Draws b meter) (.ofExcept fun policy hp => ?_) fun policy hfits =>
        (hsrc.withPolicy hfits).2
      unfold Policy.withMaxAttempts at hp
      split at hp
      · exact nomatch hp
      · rw [← Except.ok.inj hp]
        exact ⟨hpolicy.validator, hpolicy.middlewares, hpolicy.retry⟩
  | withRaiseOnFailure raiseOnFailure =>
    exact hsrc.withPolicy ⟨hpolicy.validator, hpolicy.middlewares, hpolicy.retry⟩
  | @use m h =>
    refine hsrc.withPolicy ⟨hpolicy.validator, fun other hother => ?_, hpolicy.retry⟩
    rcases List.mem_cons.1 ((Pipeline.place_perm m _).mem_iff.1 hother) with rfl | hother
    · exact h
    · exact hpolicy.middlewares other hother
  | @withRetry config change hconfig hchange =>
    refine hsrc.withPolicy ⟨hpolicy.validator, hpolicy.middlewares, hchange _ ?_⟩
    cases config with
    | none => exact hpolicy.retry
    | some c => exact hconfig c rfl
  | withOptions change => exact hsrc.withOptions change
  | withProvider change => exact hsrc.withOptions _
  | atProvider kind model apiKey => exact hsrc.withOptions _
  | withTools tools => exact hsrc.withOptions _
  | withSchema model name mode => exact hsrc.withOptions _
  | @withBackend backend h =>
    refine hsrc.withAccess (fun _ => rfl) fun access _ other hother => ?_
    rw [← Option.some.inj hother]
    exact h

end Source

/-! ### Lineages in use -/

/-- The states that a lineage is used in, each with the members that there are by then.  It begins with one
source, no call of which was counted or recorded yet. -/
inductive Lineage (b : Budget) (meter : Nat) : List (Source σ) → State σ → Prop
  | root {src st} (h : src.Draws b meter) (hspent : st.spent.get b.cell = 0)
    (hasked : st.asked.get meter = []) : Lineage b meter [src] st
  /-- A further member is derived from one that there is. -/
  | derive {members st src build own st' w} (h : Lineage b meter members st) (hsrc : src ∈ members)
    (hbuild : Source.Derivation b meter build) (hexec : (build src).exec w st = (.ok own, st')) :
    Lineage b meter (own :: members) st'
  /-- A member is asked for content, which it may answer or fail to answer. -/
  | ask {members st src} (h : Lineage b meter members st) (hsrc : src ∈ members)
    (w : Surroundings σ) (s : Session) :
    Lineage b meter members (((src.metered b meter).getContent s).exec w st).2
  /-- A program with members and other sources is executed, and may fail. -/
  | execute {members st} {t : Template σ} (h : Lineage b meter members st)
    (ht : t.MadeOf (b.Balanced meter) (Source.Fits b meter)) (w : Surroundings σ) (s : Session) :
    Lineage b meter members (((t.mapSources (Source.metered b meter)).execute (some s)).exec w st).2
  /-- Something else happens that leaves the balance as it is. -/
  | meanwhile {members st α} {r : Run σ α} (h : Lineage b meter members st)
    (hr : r.Maintains (b.Balanced meter)) (w : Surroundings σ) :
    Lineage b meter members (r.exec w st).2

namespace Lineage

variable {members : List (Source σ)} {st : State σ}

theorem draws (h : Lineage b meter members st) : ∀ src ∈ members, src.Draws b meter := by
  induction h with
  | root h => exact List.forall_mem_singleton.2 h
  | @derive _ st _ _ _ st' w _ hsrc hbuild hexec ih =>
    exact List.forall_mem_cons.2 ⟨(hbuild.derives (ih _ hsrc)).2 w st _ st' hexec, ih⟩
  | ask _ _ _ _ ih => exact ih
  | execute _ _ _ _ ih => exact ih
  | meanwhile _ _ _ ih => exact ih

/-- A program of metered sources leaves the balance as it is. -/
theorem maintains_execute {t : Template σ} (ht : t.MadeOf (b.Balanced meter) (Source.Fits b meter))
    (s : Session) :
    ((t.mapSources (Source.metered b meter)).execute (some s)).Maintains (b.Balanced meter) := by
  have hmetered : (t.mapSources (Source.metered b meter)).MadeOf (b.Balanced meter)
      fun src => ∀ s, (src.getContent s).Maintains (b.Balanced meter) :=
    ht.mapSources fun src hsrc => Source.Fits.getContent hsrc
  rw [Template.execute_eq_runIn]
  refine hmetered.runIn (Budget.callsOnly_balanced b meter) ⟨?_, ?_⟩ s
  · exact fun src h => absurd h (Option.not_mem_none src)
  · exact fun src h => absurd h (Option.not_mem_none src)

theorem balanced (h : Lineage b meter members st) : b.Balanced meter st := by
  induction h with
  | root _ hspent hasked =>
    refine ⟨by rw [hspent, hasked]; rfl, fun n _ => ?_⟩
    rw [hspent]
    exact Int.le_max_right n 0
  | @derive _ st src build own st' w h hsrc hbuild hexec ih =>
    -- A copy shares the count of the source that it is made from, and making it calls nobody.
    have hbooks := (hbuild.derives (h.draws src hsrc)).1.maintains (Budget.booked_balanced b meter)
    have hst := hbooks w st ih
    rwa [hexec] at hst
  | ask h hsrc w s ih => exact (h.draws _ hsrc).fits.getContent s w _ ih
  | execute _ ht w s ih => exact maintains_execute ht s w _ ih
  | meanwhile _ hr w ih => exact hr w _ ih

end Lineage

/-! ### Refused calls -/

namespace Pipeline

variable {p : Pipeline σ} {call : Context → Run σ Content} {ctx tried : Context}
  {w : Surroundings σ} {st st₁ st₂ : State σ} {f : Failure}

theorem exec_attempt_error (hbefore : (p.before tried).exec w st = (.ok ctx, st₁))
    (hcache : ¬ ctx.usesCache) (hcall : (call ctx).exec w st₁ = (.error f, st₂)) :
    (p.attempt call tried).exec w st = (.error f, st₂) := by
  unfold attempt
  rw [Run.exec_bind_ok _ hbefore]
  simp only [hcache, Bool.false_eq_true, if_false]
  exact Run.exec_bind_error _ hcall

/-- Where a response was planted, there is no call. -/
theorem exec_attempt_cached (hbefore : (p.before tried).exec w st = (.ok ctx, st₁))
    (hcache : ctx.usesCache) (other : Context → Run σ Content) :
    (p.attempt call tried).exec w st = (p.attempt other tried).exec w st := by
  unfold attempt
  rw [Run.exec_bind_ok _ hbefore, Run.exec_bind_ok _ hbefore]
  simp only [hcache, if_true]

/-- A final failure that no hook mends ends the attempts at once: there is no sleep and no further attempt. -/
theorem exec_attempts_refused {policy : RetryPolicy σ} {left number : Nat} {current : Context}
    {previous : Option Failure} (hfinal : RetryPolicy.isFinal f = true)
    (hattempt : (p.attempt call { current with attempt := number, previous }).exec w st =
      (.error f, st₁))
    (honError : (p.onError { current with attempt := number, previous } f).exec w st₁ =
      (.ok none, st₂)) :
    (p.attempts call policy left number current previous).exec w st = (.error f, st₂) := by
  let t : Trial σ :=
    ⟨{ current with attempt := number, previous }, st, .error f, st₁, none, st₂⟩
  have ht : t.Happened p call w := by
    refine ⟨hattempt, fun c hc => ?_, fun g hg => ?_⟩
    · exact nomatch hc
    · rw [← Except.error.inj hg]
      exact honError
  -- The policy is asked last: for a final failure it has no say.
  have hworth : (Setback.mk f f none).isWorthRetrying policy = .ok false := by
    show policy.isRetryable f = _
    unfold RetryPolicy.isRetryable
    rw [hfinal]
    rfl
  have hresume : ((Setback.mk f f none).resume policy number).exec w st₂ = (.error f, st₂) := by
    unfold Setback.resume
    rw [hworth]
    rfl
  rw [exec_attempts_error (t := t) ht rfl rfl]
  exact Run.exec_bind_error _ hresume

end Pipeline

namespace Source

theorem Draws.generate_metered {src : Source σ} (h : src.Draws b meter) :
    ∃ access, src.origin = .model access ∧ access.budget = b ∧ ∀ s feedback,
      generate (src.metered b meter).origin s feedback = askModel (access.metered meter) s := by
  obtain ⟨origin, policy⟩ := src
  obtain ⟨access, rfl, hbudget⟩ := h.draws
  refine ⟨access, rfl, hbudget, fun s feedback => ?_⟩
  unfold metered
  simp only [if_pos hbudget]
  rfl

end Source

/-! ### The law of budgets -/

/-- **Call budgets.** Whatever the members of a lineage have been asked for, their backends were called as often
as the budget has counted, and no more than its limit.  While the limit is not reached, a generation counts before
the backend is called, however that ends, and where a response was planted there is no generation.  Once it is
reached, a generation fails, calls no backend and is not counted; unless a hook mends the failure, it is neither
slept on nor repeated, whatever the policy. -/
theorem Lineage.within_budget {members : List (Source σ)} {st : State σ}
    (h : Lineage b meter members st) :
    ((st.asked.get meter).length = st.spent.get b.cell ∧
      ∀ n ∈ b.limit, (st.spent.get b.cell : Int) ≤ max n 0) ∧
    ∀ src ∈ members, ∃ access : ModelAccess σ, src.origin = .model access ∧ access.budget = b ∧
      ∀ (w : Surroundings σ) (st : State σ) (feedback : Option String),
        let call := fun ctx : Context =>
          Source.generate (src.metered b meter).origin ctx.session feedback
        (∀ n ∈ b.limit, n ≤ st.spent.get b.cell → ∀ ctx, (call ctx).exec w st =
          (.error (.callLimit (st.spent.get b.cell + 1) n),
            { st with events := st.events ++ [.callLimitExceeded (st.spent.get b.cell) n] })) ∧
        ((∀ n ∈ b.limit, (st.spent.get b.cell : Int) < n) → ∀ ctx, (call ctx).exec w st =
          (Run.outcome (Source.askBackend access ctx.session access.options) >>= Source.handOn).exec w
            { st with
              spent := st.spent.set b.cell (st.spent.get b.cell + 1)
              asked := st.asked.set meter (st.asked.get meter ++ [(ctx.session, access.options)]) }) ∧
        ∀ (p : Pipeline σ) (policy : RetryPolicy σ) left number (current : Context) previous ctx st₁,
          let tried := { current with attempt := number, previous }
          (p.before tried).exec w st = (.ok ctx, st₁) →
          (ctx.usesCache → ∀ other,
            (p.attempt call tried).exec w st = (p.attempt other tried).exec w st) ∧
          (¬ ctx.usesCache → ∀ n ∈ b.limit, n ≤ st₁.spent.get b.cell → ∀ st₂,
            let f := .callLimit (st₁.spent.get b.cell + 1) n
            (p.onError tried f).exec w { st₁ with
              events := st₁.events ++ [.callLimitExceeded (st₁.spent.get b.cell) n] } =
                (.ok none, st₂) →
            (p.attempts call policy left number current previous).exec w st = (.error f, st₂)) := by
  refine ⟨⟨h.balanced.counted, h.balanced.bounded⟩, fun src hsrc => ?_⟩
  obtain ⟨access, horigin, hbudget, hgenerate⟩ := (h.draws src hsrc).generate_metered
  subst hbudget
  refine ⟨access, horigin, rfl, ?_⟩
  intro w st feedback call
  have hcall : ∀ ctx, call ctx = Source.askModel (access.metered meter) ctx.session := fun ctx =>
    hgenerate ctx.session feedback
  refine ⟨fun n hn hcount ctx => ?_, fun hleft ctx => ?_, ?_⟩
  · rw [hcall, Source.exec_askModel_spent hn hcount]
  · rw [hcall, Source.exec_askModel_left hleft]
    rfl
  · intro p policy left number current previous ctx st₁ tried hbefore
    refine ⟨fun hcache other => Pipeline.exec_attempt_cached hbefore hcache other, ?_⟩
    intro hcache n hn hcount st₂ f honError
    have hrefused : (call ctx).exec w st₁ = (.error f, { st₁ with
        events := st₁.events ++ [.callLimitExceeded (st₁.spent.get access.budget.cell) n] }) := by
      rw [hcall, Source.exec_askModel_spent hn hcount]
    have hattempt := Pipeline.exec_attempt_error hbefore hcache hrefused
    exact Pipeline.exec_attempts_refused rfl hattempt honError

/-- A source with a budget of one call. -/
def Source.once : Source Unit where
  origin := .model {
    options := {}
    backend := some (.scripted 0 [.value (.str "Hi")])
    attached := 0
    budget := { cell := 0, limit := some 1 } }
  policy := {}

theorem Source.draws_once : Source.once.Draws { cell := 0, limit := some 1 } 1 where
  fits :=
    { origin := by
        refine ⟨.inl rfl, fun backend hbackend => ?_⟩
        rw [← Option.some.inj hbackend]
        exact Nat.zero_ne_one
      policy :=
        { validator := fun v h => absurd h (Option.not_mem_none v)
          middlewares := fun m h => absurd h List.not_mem_nil
          retry := fun notify h => absurd h (Option.not_mem_none notify) } }
  draws := ⟨_, rfl, rfl⟩

/-- The second of two members finds the budget spent by the first one. -/
theorem Lineage.within_budget_once : ∃ (members : List (Source Unit)) (st : State Unit),
    Lineage { cell := 0, limit := some 1 } 1 members st ∧ members.length = 2 ∧
      (st.asked.get 1).length = 1 := by
  let w := Surroundings.alone Unit
  have hroot : Lineage { cell := 0, limit := some 1 } 1 [Source.once] { host := () } :=
    .root Source.draws_once rfl rfl
  have hasked := hroot.ask (List.mem_singleton_self Source.once) w {}
  have hderived := hasked.derive (List.mem_singleton_self Source.once) (.withRaiseOnFailure false)
    (w := w) rfl
  have hagain := hderived.ask List.mem_cons_self w {}
  refine ⟨_, _, hagain, rfl, ?_⟩
  rw [(within_budget hagain).1.1]
  decide +kernel

end Colloquy
