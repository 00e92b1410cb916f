import Colloquy.Proofs.Number.Power
import Colloquy.Proofs.Pipeline.History
import Colloquy.Proofs.Pipeline.Trace

/-!
# Growing waits

Without jitter a policy waits for its base times a power of its factor, and no longer than its cap (`BacksOff`): the
waits lie between zero and the cap, they never decrease, and once the power has led beyond the cap they are the cap
itself.  They can be computed as long as the numbers on the way are in the range of doubles (`Num.InRange`); beyond it
the power fails before it is compared with the cap.

A run whose waits can be computed ends with what its last attempt has come to, and with no failure of arithmetic
(`execute_backoff`).  Each attempt but the last one hands over after a pause, and what may fail in between is only what
the caller does when it is told of a failure (`exec_intermission_error`).
-/

namespace Colloquy

open Number (beyond)

variable {σ : Type}

namespace RetryPolicy

/-! ### Policies without jitter -/

/-- A policy without jitter whose waits begin with a base, grow by a factor that does not make them less, and end at a
cap; the numbers with their values. -/
structure Steady (policy : RetryPolicy σ) (base factor cap : Num) (b f c : ℚ) : Prop where
  jitter : policy.jitter.truthy = false
  base_eq : policy.baseDelay.num = .ok base
  factor_eq : policy.backoffFactor.num = .ok factor
  cap_eq : policy.maxDelay.num = .ok cap
  base_value : base.value? = some (b : WithTop ℚ)
  factor_value : factor.value? = some (f : WithTop ℚ)
  cap_value : cap.value? = some (c : WithTop ℚ)
  base_nonneg : 0 ≤ b
  one_le_factor : 1 ≤ f
  cap_nonneg : 0 ≤ c

/-- The value of the wait after an attempt and `n` before it: the power, and no more than the cap. -/
def wait (base factor : Num) (b f c : ℚ) (n : Nat) : WithTop ℚ :=
  Num.growth (base.isInt && factor.isInt) b f n ⊓ c

/-- How waits grow that are bounded by a cap. -/
structure BacksOff (policy : RetryPolicy σ) (base factor cap : Num) (b f c : ℚ) : Prop where
  /-- The wait can be computed exactly where all numbers on the way are in the range of doubles. -/
  computed : ∀ (chance : Float) (n : Nat),
    (∃ d, policy.delayAfter chance (n + 1) = .ok d) ↔ base.InRange factor b f n
  bounded : ∀ (chance : Float) (n : Nat) (d : Num), policy.delayAfter chance (n + 1) = .ok d →
    ∃ v : ℚ, d.value? = some (v : WithTop ℚ) ∧ 0 ≤ v ∧ v ≤ c
  rising : ∀ (chance : Float) (m n : Nat) (d d' : Num), m ≤ n → policy.delayAfter chance (m + 1) = .ok d →
    policy.delayAfter chance (n + 1) = .ok d' → d'.lt d = false
  /-- Once the power is beyond the cap, all waits are the cap. -/
  capped : ∀ (chance : Float) (m n : Nat) (e d : Num), m ≤ n → base.scaledPow factor m = .ok e →
    cap.lt e = true → policy.delayAfter chance (n + 1) = .ok d → d = cap

variable {policy : RetryPolicy σ} {base factor cap d : Num} {b f c : ℚ} {chance : Float} {n : Nat}

namespace Steady

variable (h : policy.Steady base factor cap b f c)

include h

theorem factor_pos : 0 < f := one_pos.trans_le h.one_le_factor

/-- Without jitter the wait is the smaller one of the power and the cap. -/
theorem delayAfter_ok_iff : policy.delayAfter chance (n + 1) = .ok d ↔
    ∃ e, base.scaledPow factor n = .ok e ∧ d = e.min cap := by
  have hattempt : (n : Int) + 1 - 1 = n := by omega
  have hdelay : policy.delayAfter chance (n + 1) = do
      let e ← base.scaledPow factor n
      return e.min cap := by
    rw [delayAfter, h.base_eq, h.factor_eq, h.cap_eq, h.jitter, hattempt, Num.scaledPow, bind_assoc]
    rfl
  rw [hdelay]
  constructor
  · intro hok
    obtain ⟨e, he, hmin⟩ := Num.exists_of_bind_ok hok
    exact ⟨e, he, (Except.ok.inj hmin).symm⟩
  · rintro ⟨e, he, rfl⟩
    rw [he]
    rfl

theorem exists_delayAfter_iff :
    (∃ d, policy.delayAfter chance (n + 1) = .ok d) ↔ base.InRange factor b f n := by
  rw [← Num.exists_scaledPow_iff h.base_value h.factor_value h.base_nonneg h.factor_pos]
  simp only [h.delayAfter_ok_iff]
  exact ⟨fun ⟨_, e, he, _⟩ => ⟨e, he⟩, fun ⟨e, he⟩ => ⟨_, e, he, rfl⟩⟩

theorem value?_delayAfter (hd : policy.delayAfter chance (n + 1) = .ok d) :
    d.value? = some (wait base factor b f c n) := by
  obtain ⟨e, he, rfl⟩ := h.delayAfter_ok_iff.1 hd
  exact Num.value?_min (Num.value?_scaledPow h.base_value h.factor_value h.base_nonneg h.factor_pos he) h.cap_value

theorem wait_mono : Monotone (wait base factor b f c) := fun _ _ hle =>
  inf_le_inf_right _ (Num.growth_mono _ h.base_nonneg h.one_le_factor hle)

theorem wait_nonneg (n : Nat) : 0 ≤ wait base factor b f c n :=
  le_inf (Num.growth_nonneg _ h.base_nonneg h.factor_pos.le n) (by exact_mod_cast h.cap_nonneg)

theorem exists_value (hd : policy.delayAfter chance (n + 1) = .ok d) :
    ∃ v : ℚ, d.value? = some (v : WithTop ℚ) ∧ (v : WithTop ℚ) = wait base factor b f c n ∧ 0 ≤ v ∧ v ≤ c := by
  have hle : wait base factor b f c n ≤ (c : WithTop ℚ) := inf_le_right
  have hnonneg := h.wait_nonneg n
  obtain ⟨v, hv⟩ := WithTop.ne_top_iff_exists.1 (ne_top_of_le_ne_top WithTop.coe_ne_top hle)
  rw [← hv] at hle hnonneg
  exact ⟨v, hv ▸ h.value?_delayAfter hd, hv, by exact_mod_cast hnonneg, by exact_mod_cast hle⟩

/-- **Waits grow up to the cap.** -/
theorem backsOff : policy.BacksOff base factor cap b f c where
  computed _ _ := h.exists_delayAfter_iff
  bounded _ _ d hd := by
    obtain ⟨v, hvalue, -, hv⟩ := h.exists_value hd
    exact ⟨v, hvalue, hv⟩
  rising _ m n d d' hle hd hd' := by
    have hlt := Num.lt_iff_value (h.value?_delayAfter hd') (h.value?_delayAfter hd)
    exact Bool.eq_false_iff.2 (mt hlt.1 (h.wait_mono hle).not_gt)
  capped _ m n e d hle he hlt hd := by
    -- The later power is no less than the one that was beyond the cap.
    obtain ⟨e', he', rfl⟩ := h.delayAfter_ok_iff.1 hd
    have hvalue := Num.value?_scaledPow h.base_value h.factor_value h.base_nonneg h.factor_pos he
    have hvalue' := Num.value?_scaledPow h.base_value h.factor_value h.base_nonneg h.factor_pos he'
    have hless := (Num.lt_iff_value h.cap_value hvalue).1 hlt
    have hgrowth := Num.growth_mono (base.isInt && factor.isInt) h.base_nonneg h.one_le_factor hle
    exact if_pos ((Num.lt_iff_value h.cap_value hvalue').2 (hless.trans_le hgrowth))

/-- A wait in the range of doubles can be slept. -/
theorem exists_toFloat (hd : policy.delayAfter chance (n + 1) = .ok d)
    (hless : wait base factor b f c n < (beyond : WithTop ℚ)) : ∃ x, d.toFloat = .ok x := by
  obtain ⟨v, hvalue, hv, hnonneg, -⟩ := h.exists_value hd
  rw [← hv] at hless
  exact (Num.exists_toFloat_iff hvalue hnonneg).2 (by exact_mod_cast hless)

end Steady

/-- The caller has failed when it was told of a failure, and left a run with its own failure. -/
def FailsToTell (policy : RetryPolicy σ) (w : Surroundings σ) (res : Except Failure Content × State σ) : Prop :=
  ∃ notify f number delay st g, policy.onRetry = some notify ∧
    (notify f number delay).exec w st = (.error g, res.2) ∧ res.1 = .error g

end RetryPolicy

namespace Pipeline

open RetryPolicy (wait)

variable {call : Context → Run σ Content} {w : Surroundings σ} {p : Pipeline σ} {policy : RetryPolicy σ}
  {left number : Nat} {s : Setback} {g : Failure} {st st' : State σ}

/-! ### Ends of runs -/

/-- What an attempt has come to: its response, or the failure that its setback leaves. -/
def Pass.answer (a : Pass σ) : Except Failure Content :=
  match a.outcome with
  | .ok v => .ok v
  | .error f => .error (a.setback f).failure

/-- The attempt has failed, and another one is due. -/
def Pass.AsksAgain (a : Pass σ) (policy : RetryPolicy σ) : Prop :=
  ∃ f, a.outcome = .error f ∧ (a.setback f).isWorthRetrying policy = .ok true

/-- Wherever the wait after an attempt is computed or slept, that can be done, and nothing is drawn for it. -/
structure Waits (policy : RetryPolicy σ) (left number : Nat) : Prop where
  steady : policy.jitter.truthy = false
  computed : ∃ d, policy.delayAfter 0.0 number = .ok d
  slept : 0 < left → ∀ d, policy.delayAfter 0.0 number = .ok d → ∃ x, d.toFloat = .ok x

theorem isWorthRetrying_ok (hsearch : policy.SearchesTexts) (s : Setback) :
    ∃ again, s.isWorthRetrying policy = .ok again := by
  unfold Setback.isWorthRetrying
  cases s.mended with
  | some ctx => exact ⟨true, rfl⟩
  | none => exact isRetryable_ok hsearch s.failure

/-- A wait that is due is none at all or that of the policy. -/
theorem exec_resume (hwaits : Waits policy left number) (hworth : s.isWorthRetrying policy = .ok true)
    (st : State σ) :
    ∃ d, (s.resume policy number).exec w st = (.ok d, st) ∧
      (d = .float 0.0 ∨ policy.delayAfter 0.0 number = .ok d) := by
  have hresume : (s.resume policy number).exec w st = (s.wait policy number).exec w st := by
    rw [Setback.resume, hworth, Run.exec_bind_ok _ (Run.exec_ofExcept _), if_pos rfl]
  rw [hresume]
  cases hm : s.mended with
  | some ctx =>
    refine ⟨_, ?_, .inl rfl⟩
    rw [Setback.wait, hm, Run.exec_pure]
  | none =>
    obtain ⟨d, hd⟩ := hwaits.computed
    refine ⟨d, ?_, .inr hd⟩
    rw [Setback.wait, hm]
    simp only [hwaits.steady, Bool.false_eq_true, if_false, pure_bind, hd, Run.ofArithmetic, Run.exec_pure]

/-- A pause can only fail when the caller is told of the failure. -/
theorem exec_pause_error {delay : Float} (h : (s.pause policy number delay).exec w st = (.error g, st')) :
    ∃ notify st₁, policy.onRetry = some notify ∧
      (notify s.failure number delay).exec w st₁ = (.error g, st') := by
  rw [Setback.pause, Run.exec_bind_ok _ (Run.exec_log _), RetryPolicy.tell] at h
  cases hnotify : policy.onRetry with
  | none =>
    rw [hnotify, Run.exec_bind_ok _ (Run.exec_pure _), Run.exec_sleep] at h
    cases h
  | some notify =>
    rw [hnotify] at h
    dsimp only at h
    rcases htold : (notify s.failure number delay).exec w _ with ⟨g' | _, st₁⟩
    · rw [Run.exec_bind_error _ htold] at h
      exact ⟨notify, _, rfl, htold.trans h⟩
    · rw [Run.exec_bind_ok _ htold, Run.exec_sleep] at h
      cases h

/-- What lies between two attempts fails with the failure before it, if no other attempt is left or due, or because the
caller fails. -/
theorem exec_intermission_error (hsearch : policy.SearchesTexts) (hwaits : Waits policy left number)
    (h : (s.intermission policy left number).exec w st = (.error g, st')) :
    (g = s.failure ∧ st' = st ∧ (left = 0 ∨ s.isWorthRetrying policy = .ok false)) ∨
      ∃ notify delay st₁, policy.onRetry = some notify ∧
        (notify s.failure number delay).exec w st₁ = (.error g, st') := by
  rw [Setback.intermission] at h
  obtain ⟨again, hworth⟩ := isWorthRetrying_ok hsearch s
  cases again with
  | false =>
    have hresume : (s.resume policy number).exec w st = (.error s.failure, st) := by
      rw [Setback.resume, hworth]
      rfl
    rw [Run.exec_bind_error _ hresume] at h
    obtain ⟨hg, hst⟩ := Prod.mk.inj h
    exact .inl ⟨(Except.error.inj hg).symm, hst.symm, .inr hworth⟩
  | true =>
    -- The wait is computed before it is known whether an attempt is left, so it has to be there in either case.
    obtain ⟨d, hresume, hd⟩ := exec_resume hwaits hworth st
    rw [Run.exec_bind_ok _ hresume] at h
    cases left with
    | zero =>
      obtain ⟨hg, hst⟩ := Prod.mk.inj h
      exact .inl ⟨(Except.error.inj hg).symm, hst.symm, .inl rfl⟩
    | succ left =>
      obtain ⟨delay, hdelay⟩ : ∃ x, d.toFloat = .ok x := by
        rcases hd with rfl | hd
        · exact ⟨0.0, rfl⟩
        · exact hwaits.slept left.succ_pos d hd
      dsimp only at h
      rw [hdelay, Run.ofArithmetic, Run.exec_bind_ok _ (Run.exec_pure _)] at h
      obtain ⟨notify, st₁, hnotify, htold⟩ := exec_pause_error h
      exact .inr ⟨notify, delay, st₁, hnotify, htold⟩

/-- A run whose waits can be computed ends with what its last attempt has come to, unless the caller fails when it is
told.  The induction is on the attempts. -/
theorem Passes.answered (hsearch : policy.SearchesTexts) {current : Context} {previous : Option Failure}
    {passes : List (Pass σ)} {res : Except Failure Content × State σ}
    (h : Passes call w p policy left number current previous st passes res)
    (hwaits : ∀ k, k ≤ left → Waits policy (left - k) (number + k)) :
    ∃ last, passes.getLast? = some last ∧
      (res = (last.answer, last.left) ∧ (passes.length = left + 1 ∨ ¬last.AsksAgain policy) ∨
        policy.FailsToTell w res) := by
  induction h with
  | @done _ _ _ _ a v _ hok =>
    refine ⟨a, rfl, .inl ⟨by rw [Pass.answer, hok], .inr ?_⟩⟩
    rintro ⟨f, hf, -⟩
    exact nomatch hok.symm.trans hf
  | @stopped left _ _ _ a f g st' _ hf hstop =>
    refine ⟨a, rfl, ?_⟩
    rcases exec_intermission_error hsearch (hwaits 0 (Nat.zero_le _)) hstop with
      ⟨rfl, rfl, hend⟩ | ⟨notify, delay, st₁, hnotify, htold⟩
    · refine .inl ⟨by rw [Pass.answer, hf], hend.imp (fun hnone => ?_) ?_⟩
      · obtain rfl : left = 0 := hnone
        rfl
      · rintro hworth ⟨f', hf', hworth'⟩
        obtain rfl : f = f' := Except.error.inj (hf.symm.trans hf')
        exact nomatch hworth.symm.trans hworth'
    · exact .inr ⟨notify, _, _, delay, st₁, g, hnotify, htold, rfl⟩
  | @again left number _ _ a _ _ rest _ _ _ _ _ ih =>
    obtain ⟨last, hlast, hend⟩ := ih fun k hk => by
      have hwait := hwaits (k + 1) (Nat.succ_le_succ hk)
      rwa [Nat.add_sub_add_right, ← Nat.add_assoc, Nat.add_right_comm] at hwait
    refine ⟨last, by rw [List.getLast?_cons, hlast, Option.getD_some], hend.imp_left fun ⟨hres, hlength⟩ => ⟨hres, ?_⟩⟩
    exact hlength.imp_left (congrArg (· + 1))

/-! ### Runs with growing waits -/

/-- The waits of a policy without jitter, from the range of its numbers. -/
theorem waits_of_inRange {base factor cap : Num} {b f c : ℚ} (h : policy.Steady base factor cap b f c)
    {limit : Nat} (hrange : base.InRange factor b f (limit - 1))
    (hslept : ∀ n, n + 1 < limit → wait base factor b f c n < (beyond : WithTop ℚ)) {k : Nat}
    (hk : k ≤ limit - 1) : Waits policy (limit - 1 - k) (1 + k) := by
  have hnumber : ((1 + k : Nat) : Int) = k + 1 := by omega
  refine ⟨h.jitter, ?_, ?_⟩
  · rw [hnumber]
    exact h.exists_delayAfter_iff.2 (hrange.of_le h.one_le_factor hk)
  · intro hleft d hd
    rw [hnumber] at hd
    exact h.exists_toFloat hd (hslept k (by omega))

/-- **Growing waits.**  Without jitter the waits of a policy grow up to its cap, as long as the numbers on the way are
in the range of doubles.  A run with such waits ends with what its last attempt has come to: that is the last one that
the policy allows, unless an earlier one asks for no other.  It may only end otherwise if the caller fails when it is
told of a failure. -/
theorem execute_backoff {base factor cap : Num} {b f c : ℚ} (h : policy.Steady base factor cap b f c) :
    policy.BacksOff base factor cap b f c ∧
    ∀ limit : Int, policy.maxAttempts.num? = some (.int limit) → 0 < limit → policy.SearchesTexts →
      base.InRange factor b f (limit.toNat - 1) →
      (∀ n, n + 1 < limit.toNat → wait base factor b f c n < (beyond : WithTop ℚ)) →
      ∀ (p : Pipeline σ) (call : Context → Run σ Content) (ctx : Context) (w : Surroundings σ) (st : State σ),
        ∃ passes last, Passes call w p policy (limit.toNat - 1) 1 ctx none st passes
            ((p.execute call ctx policy).exec w st) ∧
          passes.getLast? = some last ∧
          ((p.execute call ctx policy).exec w st = (last.answer, last.left) ∧
              (passes.length = limit.toNat ∨ ¬last.AsksAgain policy) ∨
            policy.FailsToTell w ((p.execute call ctx policy).exec w st)) := by
  refine ⟨h.backsOff, ?_⟩
  intro limit hlimit hpos hsearch hrange hslept p call ctx w st
  have hexecute : (p.execute call ctx policy).exec w st =
      (attempts p call policy (limit.toNat - 1) 1 ctx none).exec w st := by
    rw [execute, attempts_of_pos hlimit hpos, Run.exec_bind_ok _ (Run.exec_ofExcept _)]
  obtain ⟨passes, hpasses⟩ := exists_passes call w p policy (limit.toNat - 1) 1 ctx none st
  obtain ⟨last, hlast, hend⟩ := hpasses.answered hsearch fun k hk => waits_of_inRange h hrange hslept hk
  rw [Nat.sub_add_cancel (by omega)] at hend
  rw [hexecute]
  exact ⟨passes, last, hpasses, hlast, hend⟩

/-- A policy whose waits are doubled each time. -/
def gentle : RetryPolicy Unit where
  baseDelay := .float 1.0
  backoffFactor := .float 2.0
  maxDelay := .float 10.0
  jitter := .bool false
  patterns := none

/-- A policy whose factor is beyond the range of doubles when it is squared. -/
def steep : RetryPolicy Unit := { gentle with backoffFactor := .float 1e200 }

/-- A call that fails in every attempt. -/
def timesOut (_ : Context) : Run Unit Content := throw (.fault .timeout "down")

theorem value?_one : (Num.float 1.0).value? = some ((1 : ℚ) : WithTop ℚ) := by
  have hreading : Number.Reading.ofFloat 1.0 = .finite false (2 ^ 52) (-52) := by decide
  rw [Num.value?_of_reading hreading]
  norm_num

theorem value?_ten : (Num.float 10.0).value? = some ((10 : ℚ) : WithTop ℚ) := by
  have hreading : Number.Reading.ofFloat 10.0 = .finite false (5 * 2 ^ 50) (-49) := by decide
  rw [Num.value?_of_reading hreading]
  norm_num

theorem steady_gentle : gentle.Steady (.float 1.0) (.float 2.0) (.float 10.0) 1 2 10 where
  jitter := rfl
  base_eq := rfl
  factor_eq := rfl
  cap_eq := rfl
  base_value := value?_one
  factor_value := by
    have hreading : Number.Reading.ofFloat 2.0 = .finite false (2 ^ 52) (-51) := by decide
    rw [Num.value?_of_reading hreading]
    norm_num
  cap_value := value?_ten
  base_nonneg := zero_le_one
  one_le_factor := one_le_two
  cap_nonneg := by norm_num

theorem execute_backoff_gentle : gentle.BacksOff (.float 1.0) (.float 2.0) (.float 10.0) 1 2 10 ∧
    ∃ passes last, Passes timesOut (.alone Unit) ⟨[]⟩ gentle 2 1 { session := {} } none { host := () } passes
        ((execute ⟨[]⟩ timesOut { session := {} } gentle).exec (.alone Unit) { host := () }) ∧
      passes.getLast? = some last ∧
      ((execute ⟨[]⟩ timesOut { session := {} } gentle).exec (.alone Unit) { host := () } = (last.answer, last.left) ∧
          (passes.length = 3 ∨ ¬last.AsksAgain gentle) ∨
        gentle.FailsToTell (.alone Unit)
          ((execute ⟨[]⟩ timesOut { session := {} } gentle).exec (.alone Unit) { host := () })) := by
  have hten : (10 : ℚ) < beyond := (Number.rounding_of_value value?_ten (by norm_num)).2
  have hrange : (Num.float 1.0).InRange (.float 2.0) 1 2 2 := .inr ⟨by linarith, by linarith⟩
  have hslept : ∀ n, n + 1 < 3 → wait (.float 1.0) (.float 2.0) 1 2 10 n < (beyond : WithTop ℚ) := fun n _ =>
    inf_le_right.trans_lt (WithTop.coe_lt_coe.2 hten)
  exact ⟨(execute_backoff steady_gentle).1, (execute_backoff steady_gentle).2 3 rfl (by decide) nofun hrange hslept
    ⟨[]⟩ timesOut { session := {} } (.alone Unit) { host := () }⟩

/-- A wait is beyond the range of doubles. -/
def overflows : Except Number.Fault Num → Bool
  | .error .overflow => true
  | _ => false

theorem eq_overflow_of_overflows {wait : Except Number.Fault Num} (h : overflows wait = true) :
    wait = .error .overflow := by
  unfold overflows at h
  split at h
  · rfl
  · cases h

/-- A run ended since a number was beyond the range of doubles. -/
def endsInOverflow : Except Failure Content → Bool
  | .error (.fault .overflow _) => true
  | _ => false

theorem exists_overflow_of_endsInOverflow {ended : Except Failure Content} (h : endsInOverflow ended = true) :
    ∃ message, ended = .error (.fault .overflow message) := by
  unfold endsInOverflow at h
  split at h
  · exact ⟨_, rfl⟩
  · cases h

/-- The third attempt's wait is beyond the range of doubles before it is compared with the cap, and its failure takes
the place of the last attempt's. -/
theorem steep_overflows : (∃ f, steep.Steady (.float 1.0) (.float 1e200) (.float 10.0) 1 f 10) ∧
    steep.delayAfter 0.5 3 = .error .overflow ∧
    ∃ message, ((execute ⟨[]⟩ timesOut { session := {} } steep).exec (.alone Unit) { host := () }).1 =
      .error (.fault .overflow message) := by
  have hreading : Number.Reading.ofFloat 1e200 = .finite false 5883593420661338 612 := by decide +kernel
  have hfactor : (1 : ℚ) ≤ (5883593420661338 : Nat) * 2 ^ (612 : Int) :=
    one_le_mul_of_one_le_of_one_le (by norm_num) (one_le_zpow₀ one_le_two (by decide))
  refine ⟨⟨_, rfl, rfl, rfl, rfl, value?_one, Num.value?_of_reading hreading, value?_ten, zero_le_one, hfactor,
    by norm_num⟩, ?_, ?_⟩
  · exact eq_overflow_of_overflows (by decide +kernel)
  · exact exists_overflow_of_endsInOverflow (by decide +kernel)

end Pipeline

end Colloquy
