import Colloquy.Proofs.Source.Upkeep

/-!
# Metered calls

A meter stands between a source and its backend: it records every call of the backend and hands it on
(`ModelAccess.metered`); nothing else about the source changes (`Source.askModel_metered`).  A budget is balanced
with a meter if it has counted as many calls as the meter has recorded, and no more than its limit
(`Budget.Balanced`).  A metered source leaves it so (`Source.Fits.getContent`): a call is counted just before the
backend is called, and not at all if the budget is spent.
-/

namespace Colloquy

variable {σ α : Type}

open Run

/-! ### Meters -/

namespace Source

/-- What the backend of a source answers. -/
def askBackend (access : ModelAccess σ) (s : Session) (o : Options) : Run σ Output := do
  (← backendOf access).generate s o

/-- What a source makes of the answer of its backend. -/
def handOn : Except Failure Output → Run σ Content
  | .error f => throw (wrapFailure f)
  | .ok out =>
    if out.role = .assistant then return .output out
    else throw (.generation s!"Backend returned a {out.role.word} message; expected assistant"
      (.bool false) none)

end Source

/-- Access to a model by which every call of the backend is recorded in a cell before it is handed on. -/
def ModelAccess.metered (meter : Nat) (access : ModelAccess σ) : ModelAccess σ :=
  { access with backend := some (.computed meter fun s o => do
      return .output (← Source.askBackend access s o)) }

namespace Source

/-- A source with a meter before its backend, if it draws on a certain budget; any other source as it is. -/
def metered (b : Budget) (meter : Nat) (src : Source σ) : Source σ :=
  match src.origin with
  | .model access =>
    if access.budget = b then { src with origin := .model (access.metered meter) } else src
  | _ => src

theorem askModel_eq (access : ModelAccess σ) (s : Session) :
    askModel access s = access.budget.acquire >>= fun _ =>
      Run.outcome (askBackend access s access.options) >>= handOn :=
  rfl

theorem askBackend_metered (meter : Nat) (access : ModelAccess σ) (s : Session) (o : Options) :
    askBackend (access.metered meter) s o =
      Backend.recordCall meter s o >>= fun _ => askBackend access s o := by
  have hasked : askBackend (access.metered meter) s o = Backend.recordCall meter s o >>= fun _ =>
      (askBackend access s o >>= fun out => pure (.output out)) >>= fun response =>
        Run.ofExcept (Response.toOutput response) := rfl
  have hanswer : ∀ out, (Run.ofExcept (Response.toOutput (.output out)) : Run σ Output) = pure out :=
    fun _ => rfl
  rw [hasked]
  simp only [bind_assoc, pure_bind, hanswer, bind_pure]

/-- A meter records a call once it is counted, and before it is handed on; that is all it does. -/
theorem askModel_metered (meter : Nat) (access : ModelAccess σ) (s : Session) :
    askModel (access.metered meter) s = access.budget.acquire >>= fun _ =>
      Backend.recordCall meter s access.options >>= fun _ =>
        Run.outcome (askBackend access s access.options) >>= handOn := by
  rw [askModel_eq]
  refine congrArg (access.budget.acquire >>= ·) (funext fun _ => Run.ext fun w st => ?_)
  have hrecord : (Backend.recordCall meter s access.options).exec w st = (.ok (),
    { st with asked := st.asked.set meter (st.asked.get meter ++ [(s, access.options)]) }) := rfl
  rw [Run.exec_bind_ok _ (Run.exec_outcome _), Run.exec_bind_ok _ hrecord,
    Run.exec_bind_ok _ (Run.exec_outcome _), show (access.metered meter).options = access.options from rfl,
    askBackend_metered, Run.exec_bind_ok _ hrecord]

end Source

/-! ### Balance -/

namespace Budget

variable {b : Budget} {meter : Nat} {w : Surroundings σ} {st : State σ} {n : Int}

/-- A budget that has counted as many calls as a meter has recorded, and no more than its limit. -/
structure Balanced (b : Budget) (meter : Nat) (st : State σ) : Prop where
  counted : (st.asked.get meter).length = st.spent.get b.cell
  bounded : ∀ n ∈ b.limit, (st.spent.get b.cell : Int) ≤ max n 0

theorem callsOnly_balanced (b : Budget) (meter : Nat) : CallsOnly (σ := σ) (b.Balanced meter) := by
  intro s s' h hs
  obtain ⟨hspent, hasked⟩ := Prod.mk.inj h
  constructor
  · rw [hspent, hasked]
    exact hs.counted
  · rw [hspent]
    exact hs.bounded

theorem booked_balanced (b : Budget) (meter : Nat) : Booked (σ := σ) (b.Balanced meter) :=
  (callsOnly_balanced b meter).booked

/-- A budget that is spent is left as it is, and the failure names the call that was one too many. -/
theorem exec_acquire_spent (hn : n ∈ b.limit) (hspent : n ≤ st.spent.get b.cell) :
    b.acquire.exec w st = (.error (.callLimit (st.spent.get b.cell + 1) n),
      { st with events := st.events ++ [.callLimitExceeded (st.spent.get b.cell) n] }) := by
  have hlimit : b.limit = some n := hn
  have hcount : (b.count : Run σ Nat).exec w st = (.ok (st.spent.get b.cell), st) := rfl
  have hyes : b.isSpent (st.spent.get b.cell) = true := by
    unfold isSpent
    rw [hlimit]
    exact decide_eq_true hspent
  unfold acquire
  rw [Run.exec_bind_ok _ hcount]
  simp only [hyes, if_true, hlimit, Option.getD_some]
  rfl

/-- A budget that is not spent counts one more call. -/
theorem exec_acquire_left (h : ∀ n ∈ b.limit, (st.spent.get b.cell : Int) < n) :
    b.acquire.exec w st = (.ok (st.spent.get b.cell + 1),
      { st with spent := st.spent.set b.cell (st.spent.get b.cell + 1) }) := by
  have hcount : (b.count : Run σ Nat).exec w st = (.ok (st.spent.get b.cell), st) := rfl
  have hno : b.isSpent (st.spent.get b.cell) = false := by
    unfold isSpent
    rw [Option.any_eq_false]
    exact fun n hn => decide_eq_false (Int.not_le.2 (h n hn))
  unfold acquire
  rw [Run.exec_bind_ok _ hcount]
  simp only [hno, Bool.false_eq_true, if_false]
  rfl

/-- The state in which the call that was just counted is recorded. -/
def charge (b : Budget) (meter : Nat) (call : Session × Options) (st : State σ) : State σ :=
  { st with
    spent := st.spent.set b.cell (st.spent.get b.cell + 1)
    asked := st.asked.set meter (st.asked.get meter ++ [call]) }

theorem Balanced.charge (h : b.Balanced meter st)
    (hleft : ∀ n ∈ b.limit, (st.spent.get b.cell : Int) < n) (call : Session × Options) :
    b.Balanced meter (b.charge meter call st) := by
  have hspent : (b.charge meter call st).spent.get b.cell = st.spent.get b.cell + 1 := by
    show (st.spent.set b.cell _).get b.cell = _
    rw [Cells.get_set, if_pos rfl]
  have hasked : (b.charge meter call st).asked.get meter = st.asked.get meter ++ [call] := by
    show (st.asked.set meter _).get meter = _
    rw [Cells.get_set, if_pos rfl]
  constructor
  · rw [hspent, hasked, List.length_append, h.counted]
    rfl
  · intro n hn
    have hless := hleft n hn
    rw [hspent]
    omega

/-- Another budget does not touch this one. -/
theorem maintains_acquire {other : Budget} (h : other.cell ≠ b.cell) :
    (other.acquire : Run σ Nat).Maintains (b.Balanced meter) := by
  have hcount : (other.count : Run σ Nat).Maintains (b.Balanced meter) :=
    Maintains.get.bind fun st => .pure _
  have hspend : ∀ count, (do
      modify fun s => { s with spent := s.spent.set other.cell (count + 1) }
      return count + 1 : Run σ Nat).Maintains (b.Balanced meter) := by
    intro count
    refine Maintains.bind (.modify fun st hst => ?_) fun _ => .pure _
    have hsame : (st.spent.set other.cell (count + 1)).get b.cell = st.spent.get b.cell := by
      rw [Cells.get_set, if_neg h]
    constructor
    · rw [hsame]
      exact hst.counted
    · rw [hsame]
      exact hst.bounded
  refine hcount.bind fun count => .ite ?_ (hspend count)
  refine ((keepsBooks_log rfl).maintains (booked_balanced b meter)).bind fun _ => ?_
  exact (Maintains.throw _).bind fun _ => hspend count

end Budget

/-! ### Sources that fit a meter -/

section Fits

variable (b : Budget) (meter : Nat)

/-- A backend that does not take the cell of the meter for its own record, and leaves a balance where it finds
one. -/
def Backend.Fits : Backend σ → Prop
  | .scripted cell _ => cell ≠ meter
  | .computed cell respond => cell ≠ meter ∧ ∀ s o, (respond s o).Maintains (b.Balanced meter)
  | .provider _ => True

/-- An origin whose function, prompter or backend leaves a balance where it finds one.  A model draws on the
budget, or on one with another count. -/
def Origin.Fits : Origin σ → Prop
  | .callback f => ∀ s, (f s).Maintains (b.Balanced meter)
  | .prompt _ _ (.console ask) => ∀ text, (ask text).Maintains (b.Balanced meter)
  | .model access => (access.budget = b ∨ access.budget.cell ≠ b.cell) ∧
    ∀ backend ∈ access.backend, backend.Fits b meter
  | _ => True

/-- A policy in which all that callers have handed over leaves a balance where it finds one. -/
structure Policy.Fits (p : Policy σ) : Prop where
  validator : ∀ v ∈ p.validator, Validator.AllMaintain (b.Balanced meter) v.functions
  middlewares : ∀ m ∈ p.pipeline.middlewares, m.Maintains (b.Balanced meter)
  retry : p.retry.Maintains (b.Balanced meter)

/-- A source in which all that callers have handed over leaves a balance where it finds one. -/
structure Source.Fits (src : Source σ) : Prop where
  origin : src.origin.Fits b meter
  policy : src.policy.Fits b meter

end Fits

section

variable {b : Budget} {meter : Nat} {access : ModelAccess σ}

theorem Backend.Fits.maintains_generate {backend : Backend σ} (h : backend.Fits b meter)
    (s : Session) (o : Options) : (backend.generate s o).Maintains (b.Balanced meter) := by
  have hrecord : ∀ cell, cell ≠ meter →
      (recordCall cell s o : Run σ Unit).Maintains (b.Balanced meter) := by
    intro cell hcell
    refine .modify fun st hst => ⟨?_, hst.bounded⟩
    show ((st.asked.set cell _).get meter).length = _
    rw [Cells.get_set, if_neg hcell]
    exact hst.counted
  refine backend.maintains_generate (Budget.booked_balanced b meter) s o ?_ ?_
  · intro cell hcell
    cases backend with
    | scripted own responses => exact hrecord cell (Option.some.inj hcell ▸ h)
    | computed own respond => exact hrecord cell (Option.some.inj hcell ▸ h.1)
    | provider own => exact nomatch hcell
  · rintro cell respond rfl
    exact h.2 s o

namespace Source

theorem maintains_handOn {P : State σ → Prop} (ended : Except Failure Output) :
    (handOn ended).Maintains P := by
  cases ended with
  | error f => exact .throw _
  | ok out => exact .ite (.pure _) (.throw _)

/-- What the backend of a source that fits is asked leaves a balance where it finds one. -/
theorem maintains_ask (h : (Origin.model access).Fits b meter) (s : Session) :
    (Run.outcome (askBackend access s access.options) >>= handOn).Maintains (b.Balanced meter) :=
  (maintains_askBackend (Budget.booked_balanced b meter) fun backend hbackend =>
    (h.2 backend hbackend).maintains_generate s access.options).outcome.bind maintains_handOn

/-- A metered source whose budget is spent calls no backend: it fails, and neither the count nor the record
changes. -/
theorem exec_askModel_spent {n : Int} {w : Surroundings σ} {st : State σ} (hn : n ∈ access.budget.limit)
    (hspent : n ≤ st.spent.get access.budget.cell) (s : Session) :
    (askModel (access.metered meter) s).exec w st =
      (.error (.callLimit (st.spent.get access.budget.cell + 1) n),
        { st with events := st.events ++
          [.callLimitExceeded (st.spent.get access.budget.cell) n] }) := by
  rw [askModel_metered, Run.exec_bind_error _ (Budget.exec_acquire_spent hn hspent)]

/-- A metered source whose budget is not spent calls its backend once the call is counted and recorded. -/
theorem exec_askModel_left {w : Surroundings σ} {st : State σ}
    (hleft : ∀ n ∈ access.budget.limit, (st.spent.get access.budget.cell : Int) < n) (s : Session) :
    (askModel (access.metered meter) s).exec w st =
      (Run.outcome (askBackend access s access.options) >>= handOn).exec w
        (access.budget.charge meter (s, access.options) st) := by
  rw [askModel_metered, Run.exec_bind_ok _ (Budget.exec_acquire_left hleft)]
  rfl

theorem maintains_askModel_metered (h : (Origin.model access).Fits b meter)
    (hbudget : access.budget = b) (s : Session) :
    (askModel (access.metered meter) s).Maintains (b.Balanced meter) := by
  subst hbudget
  intro w st hst
  -- Either nothing changes, or count and record grow together before the backend is called.
  by_cases hspent : ∃ n ∈ access.budget.limit, n ≤ st.spent.get access.budget.cell
  · obtain ⟨n, hn, hspent⟩ := hspent
    rw [exec_askModel_spent hn hspent]
    exact ⟨hst.counted, hst.bounded⟩
  · have hleft : ∀ n ∈ access.budget.limit, (st.spent.get access.budget.cell : Int) < n :=
      fun n hn => Int.not_le.1 fun h => hspent ⟨n, hn, h⟩
    rw [exec_askModel_left hleft]
    exact maintains_ask h s w _ (hst.charge hleft _)

theorem maintains_askModel (h : (Origin.model access).Fits b meter)
    (hbudget : access.budget.cell ≠ b.cell) (s : Session) :
    (askModel access s).Maintains (b.Balanced meter) := by
  rw [askModel_eq]
  exact (Budget.maintains_acquire hbudget).bind fun _ => maintains_ask h s

theorem Fits.maintains_generate {src : Source σ} (h : src.Fits b meter) (s : Session)
    (feedback : Option String) :
    (generate (src.metered b meter).origin s feedback).Maintains (b.Balanced meter) := by
  have hbooked := Budget.booked_balanced (σ := σ) b meter
  obtain ⟨origin, policy⟩ := src
  have horigin := h.origin
  cases origin with
  | literal template => exact Maintains.read.bind fun w => (Maintains.ofExcept _).bind fun text => .pure _
  | list items loop cell => exact (keepsBooks_nextItem items loop cell).maintains hbooked
  | random items cell => exact (keepsBooks_drawItem items cell).maintains hbooked
  | callback f => exact horigin s
  | prompt prompt default prompter =>
    refine maintains_askPerson hbooked prompt default ?_ s feedback
    rintro read rfl text
    exact horigin text
  | model access =>
    unfold metered
    -- A model with another budget is not metered, but then it has a count of its own.
    by_cases hbudget : access.budget = b
    · simp only [if_pos hbudget]
      exact maintains_askModel_metered horigin hbudget s
    · simp only [if_neg hbudget]
      exact maintains_askModel horigin (horigin.1.resolve_left hbudget) s

theorem policy_metered (b : Budget) (meter : Nat) (src : Source σ) :
    (src.metered b meter).policy = src.policy := by
  unfold metered
  split
  · split
    · rfl
    · rfl
  · rfl

theorem Fits.maintains {src : Source σ} (h : src.Fits b meter) :
    (src.metered b meter).Maintains (b.Balanced meter) where
  generate := h.maintains_generate
  validator := by
    rw [policy_metered]
    exact h.policy.validator
  middlewares := by
    rw [policy_metered]
    exact h.policy.middlewares
  retry := by
    rw [policy_metered]
    exact h.policy.retry

/-- **Metered sources balance.** However often a metered source calls its backend while it is asked for content, or
does not call it at all, the budget counts as many calls as the meter records, within its limit. -/
theorem Fits.getContent {src : Source σ} (h : src.Fits b meter) (s : Session) :
    ((src.metered b meter).getContent s).Maintains (b.Balanced meter) :=
  h.maintains.getContent (Budget.booked_balanced b meter) s

end Source

end

end Colloquy
