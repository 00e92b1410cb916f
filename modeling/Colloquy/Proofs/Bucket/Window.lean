import Colloquy.Middleware.RateLimit
import Mathlib.Algebra.Order.Ring.Unbundled.Rat
import Mathlib.Tactic.Linarith
import Mathlib.Tactic.NormNum

/-!
# Requests in a window of time

What a limiter does with a request is one step of its bucket (`TokenBucket.serve`, `exec_before_rateLimit`).  On exact
numbers such steps let no more requests pass, in any window of time, than the capacity and what is gained in the
window allow (`limits_window`).

The bucket itself is no good measure of this: it may be in debt, where the capacity or the rate is negative, and it
gains less than the waiting times are computed with, where the rate is tiny.  So the proof compares it with a bucket
that is never in debt and gains at the rate of the waiting times.  Every admission costs that bucket a whole token
(`serve_costs`), and leaves it a token short of its capacity at least (`serve_leaves`).
-/

namespace Colloquy

namespace TokenBucket

/-! ### Admissions -/

section

variable {T : Type} [Add T] [Sub T] [Mul T] [Div T] [LT T] [DecidableLT T] [LE T] [DecidableLE T]
  [OfNat T 0] [OfNat T 1]

/-- How a request gets its token. -/
structure Admission (T : Type) where
  /-- The bucket after each refill. -/
  refills : List (TokenBucket T)
  /-- The sleep that was asked for. -/
  wait : Option T
  /-- The bucket that is left. -/
  left : TokenBucket T

/-- A request at some time takes a token, at once or after a sleep; `wake` is what the clock shows after a sleep of
some length. -/
def serve (r : TokenRate T) (now : T) (wake : T → T) (b : TokenBucket T) : Admission T :=
  let b := b.refill r now
  match b.take? with
  | some left => ⟨[b], none, left⟩
  | none =>
    let wait := b.shortfall r
    ⟨[b, b.refill r (wake wait)], some wait, b.settle r (wake wait)⟩

variable {r : TokenRate T} {now : T} {wake : T → T} {b : TokenBucket T}

theorem serve_of_le (h : 1 ≤ (b.refill r now).tokens) : b.serve r now wake =
    ⟨[b.refill r now], none, ⟨(b.refill r now).tokens - 1, now⟩⟩ := by
  simp only [serve, take?, if_pos h]
  rfl

theorem serve_of_not_le (h : ¬ 1 ≤ (b.refill r now).tokens) : b.serve r now wake =
    ⟨[b.refill r now, (b.refill r now).refill r (wake ((b.refill r now).shortfall r))],
      some ((b.refill r now).shortfall r),
      (b.refill r now).settle r (wake ((b.refill r now).shortfall r))⟩ := by
  simp only [serve, take?, if_neg h]

end

end TokenBucket

open TokenBucket

namespace Middleware

variable {σ : Type}

/-- A limiter admits every request and hands it on unchanged; it sleeps once at most, and not at all if it finds a
whole token. -/
theorem exec_before_rateLimit (cell : Nat) (r : TokenRate Float) (name : String) (ctx : Context)
    (w : Surroundings σ) (s : State σ) : ∃ s',
      ((rateLimit cell r name).before ctx).exec w s = (.ok ctx, s') ∧
      (∀ other, s'.buckets.get other = if cell = other
        then ((s.buckets.get cell).serve r s.clock (w.afterSleep s.clock)).left
        else s.buckets.get other) ∧
      s'.sleeps = s.sleeps ++
        ((s.buckets.get cell).serve r s.clock (w.afterSleep s.clock)).wait.toList := by
  by_cases h : 1 ≤ ((s.buckets.get cell).refill r s.clock).tokens
  · rw [serve_of_le h]
    have htake : ((s.buckets.get cell).refill r s.clock).take? =
        some ⟨((s.buckets.get cell).refill r s.clock).tokens - 1, s.clock⟩ := by
      simp only [take?, if_pos h]
      rfl
    have hexec : (takeToken name cell r : Run σ Unit).exec w s = (.ok (), { s with
        buckets := s.buckets.set cell ⟨((s.buckets.get cell).refill r s.clock).tokens - 1, s.clock⟩ }) := by
      rw [takeToken, Run.exec_bind_ok _ Run.exec_get]
      simp only [htake]
      exact Run.exec_set
    refine ⟨_, Run.exec_bind_ok _ hexec, fun other => ?_, ?_⟩
    · exact Cells.get_set ..
    · exact (List.append_nil _).symm
  · rw [serve_of_not_le h]
    obtain ⟨b, hb⟩ : ∃ b, b = (s.buckets.get cell).refill r s.clock := ⟨_, rfl⟩
    obtain ⟨wait, hwait⟩ : ∃ wait, wait = b.shortfall r := ⟨_, rfl⟩
    have htake : b.take? = none := by
      rw [hb]
      exact if_neg h
    have hexec : ∃ events, (takeToken name cell r : Run σ Unit).exec w s = (.ok (), { s with
        buckets := (s.buckets.set cell b).set cell (b.settle r (w.afterSleep s.clock wait))
        events, sleeps := s.sleeps ++ [wait], clock := w.afterSleep s.clock wait }) := by
      rw [takeToken, Run.exec_bind_ok _ Run.exec_get]
      simp only [← hb, htake]
      rw [Run.exec_bind_ok _ Run.exec_set, Run.exec_bind_ok _ (Run.exec_log _),
        Run.exec_bind_ok _ (Run.exec_sleep _), Run.exec_modify, Cells.get_set, if_pos rfl, ← hwait]
      exact ⟨_, rfl⟩
    obtain ⟨events, hexec⟩ := hexec
    rw [← hb, ← hwait]
    refine ⟨_, Run.exec_bind_ok _ hexec, fun other => ?_, rfl⟩
    simp only [Cells.get_set]
    split
    · rfl
    · rfl

end Middleware

/-! ### Exact buckets -/

namespace TokenBucket

variable {r : TokenRate ℚ} {b : TokenBucket ℚ} {now : ℚ} {wake : ℚ → ℚ}

@[simp]
theorem refilled_refill (r : TokenRate ℚ) (now : ℚ) (b : TokenBucket ℚ) :
    (b.refill r now).refilled = now := rfl

@[simp]
theorem refilled_settle (r : TokenRate ℚ) (now : ℚ) (b : TokenBucket ℚ) :
    (b.settle r now).refilled = now := rfl

theorem tokens_refill (r : TokenRate ℚ) (now : ℚ) (b : TokenBucket ℚ) :
    (b.refill r now).tokens = min (b.tokens + (now - b.refilled) * r.rate) r.capacity := by
  simp only [refill]
  split_ifs with h
  · exact (min_eq_left h.le).symm
  · exact (min_eq_right (not_lt.1 h)).symm

theorem tokens_settle (r : TokenRate ℚ) (now : ℚ) (b : TokenBucket ℚ) :
    (b.settle r now).tokens = max ((b.refill r now).tokens - 1) 0 := by
  simp only [settle]
  split_ifs with h
  · exact (max_eq_left h.le).symm
  · exact (max_eq_right (not_lt.1 h)).symm

/-- The rate that waiting times are computed with. -/
def pace (r : TokenRate ℚ) : ℚ := max r.rate r.least

theorem shortfall_eq (r : TokenRate ℚ) (b : TokenBucket ℚ) :
    b.shortfall r = (1 - b.tokens) / pace r := by
  simp only [shortfall, pace]
  split_ifs with h
  · rw [max_eq_right h.le]
  · rw [max_eq_left (not_lt.1 h)]

theorem tokens_refill_le (hnow : b.refilled ≤ now) :
    (b.refill r now).tokens ≤ b.tokens + pace r * (now - b.refilled) := by
  have hpace : (now - b.refilled) * r.rate ≤ (now - b.refilled) * pace r :=
    mul_le_mul_of_nonneg_left (le_max_left ..) (sub_nonneg.2 hnow)
  have hgained := min_le_left (b.tokens + (now - b.refilled) * r.rate) r.capacity
  rw [tokens_refill]
  linarith

theorem tokens_refill_le_capacity (r : TokenRate ℚ) (now : ℚ) (b : TokenBucket ℚ) :
    (b.refill r now).tokens ≤ r.capacity := by
  rw [tokens_refill]
  exact min_le_right ..

/-! ### One request -/

/-- A sleep takes at least as long as is asked for. -/
def Sleeps (now : ℚ) (wake : ℚ → ℚ) : Prop := ∀ wait, 0 ≤ wait → now + wait ≤ wake wait

/-- A request that finds no whole token sleeps until one is gained at the pace of the waiting times. -/
theorem one_le_of_sleeps (hleast : 0 < r.least) (hwake : Sleeps now wake) (h : b.tokens < 1) :
    now ≤ wake (b.shortfall r) ∧ 1 ≤ b.tokens + pace r * (wake (b.shortfall r) - now) := by
  have hpace : 0 < pace r := hleast.trans_le (le_max_right ..)
  have hwait : 0 ≤ b.shortfall r := by
    rw [shortfall_eq]
    exact div_nonneg (sub_nonneg.2 h.le) hpace.le
  have hlater := hwake _ hwait
  have hgained : pace r * b.shortfall r = 1 - b.tokens := by
    rw [shortfall_eq]
    exact mul_div_cancel₀ _ hpace.ne'
  have hmore : pace r * b.shortfall r ≤ pace r * (wake (b.shortfall r) - now) :=
    mul_le_mul_of_nonneg_left (by linarith) hpace.le
  exact ⟨by linarith, by linarith⟩

theorem le_refilled_serve (hleast : 0 < r.least) (hwake : Sleeps now wake) :
    now ≤ (b.serve r now wake).left.refilled := by
  by_cases h : 1 ≤ (b.refill r now).tokens
  · rw [serve_of_le h]
  · rw [serve_of_not_le h]
    exact (one_le_of_sleeps hleast hwake (not_le.1 h)).1

/-- A bucket without debts that gains at the pace of the waiting times is a whole token down after a request. -/
theorem serve_costs (hleast : 0 < r.least) (hnow : b.refilled ≤ now) (hwake : Sleeps now wake) :
    1 + max (b.serve r now wake).left.tokens 0 ≤
      max b.tokens 0 + pace r * ((b.serve r now wake).left.refilled - b.refilled) := by
  have hfirst : (b.refill r now).tokens ≤ b.tokens + pace r * (now - b.refilled) :=
    tokens_refill_le hnow
  have hdebt := le_max_left b.tokens 0
  by_cases h : 1 ≤ (b.refill r now).tokens
  · rw [serve_of_le h, max_eq_left (sub_nonneg.2 h)]
    linarith
  · rw [serve_of_not_le h]
    obtain ⟨hlater, hone⟩ := one_le_of_sleeps hleast hwake (not_le.1 h)
    have hsecond := tokens_refill_le (r := r) (b := b.refill r now) hlater
    rw [refilled_refill] at hsecond
    -- The surplus of a long sleep counts, and what the sleep falls short of does not.
    have hleft : 1 + max (((b.refill r now).settle r (wake ((b.refill r now).shortfall r))).tokens) 0 ≤
        (b.refill r now).tokens + pace r * (wake ((b.refill r now).shortfall r) - now) := by
      rw [tokens_settle, max_assoc, max_self, ← max_add_add_left]
      exact max_le (by linarith) (by linarith)
    rw [refilled_settle]
    linarith

/-- After a request, a bucket without debts is a token short of its capacity, or empty. -/
theorem serve_leaves (r : TokenRate ℚ) (b : TokenBucket ℚ) (now : ℚ) (wake : ℚ → ℚ) :
    1 + max (b.serve r now wake).left.tokens 0 ≤ max r.capacity 1 := by
  by_cases h : 1 ≤ (b.refill r now).tokens
  · rw [serve_of_le h, max_eq_left (sub_nonneg.2 h)]
    have hcapacity := tokens_refill_le_capacity r now b
    exact le_max_of_le_left (by linarith)
  · rw [serve_of_not_le h]
    have hcapacity := tokens_refill_le_capacity r (wake ((b.refill r now).shortfall r))
      (b.refill r now)
    rw [tokens_settle, max_assoc, max_self, ← max_add_add_left]
    exact max_le_max (by linarith) (by linarith)

/-! ### Requests one after the other -/

/-- A request: when it arrives, and what the clock shows after a sleep of some length that it is made to take. -/
structure Arrival where
  time : ℚ
  wake : ℚ → ℚ

/-- How requests are admitted one after the other. -/
def admissions (r : TokenRate ℚ) : TokenBucket ℚ → List Arrival → List (Admission ℚ)
  | _, [] => []
  | b, a :: rest => b.serve r a.time a.wake :: admissions r (b.serve r a.time a.wake).left rest

/-- Requests at which the clock has not gone back since the last refill, and whose sleeps are long enough. -/
def Timely (r : TokenRate ℚ) : TokenBucket ℚ → List Arrival → Prop
  | _, [] => True
  | b, a :: rest => b.refilled ≤ a.time ∧ Sleeps a.time a.wake ∧
    Timely r (b.serve r a.time a.wake).left rest

variable {arrivals : List Arrival} {a a' : Admission ℚ} {i j : Nat}

theorem length_admissions (r : TokenRate ℚ) (b : TokenBucket ℚ) (arrivals : List Arrival) :
    (admissions r b arrivals).length = arrivals.length := by
  induction arrivals generalizing b with
  | nil => rfl
  | cons first rest ih => simp [admissions, ih]

/-- Every one of some requests costs a token. -/
theorem admissions_cost (hleast : 0 < r.least) (h : Timely r b arrivals)
    (ha : (admissions r b arrivals)[j]? = some a) :
    (j + 1 : ℕ) + max a.left.tokens 0 ≤
      max b.tokens 0 + pace r * (a.left.refilled - b.refilled) := by
  induction arrivals generalizing b j with
  | nil => simp [admissions] at ha
  | cons first rest ih =>
    obtain ⟨hnow, hwake, hrest⟩ := h
    have hfirst := serve_costs hleast hnow hwake
    rw [admissions] at ha
    cases j with
    | zero =>
      rw [List.getElem?_cons_zero, Option.some.injEq] at ha
      rw [← ha]
      simpa using hfirst
    | succ j =>
      rw [List.getElem?_cons_succ] at ha
      have hothers := ih hrest ha
      push_cast at hothers ⊢
      linarith

/-- In a window that opens with a request there are no more requests than the capacity and the gain allow. -/
theorem admissions_window (hleast : 0 < r.least) (h : Timely r b arrivals) (hij : i ≤ j)
    (ha : (admissions r b arrivals)[i]? = some a) (ha' : (admissions r b arrivals)[j]? = some a') :
    (j - i + 1 : ℕ) ≤ max r.capacity 1 + pace r * (a'.left.refilled - a.left.refilled) := by
  induction arrivals generalizing b i j with
  | nil => simp [admissions] at ha
  | cons first rest ih =>
    obtain ⟨-, -, hrest⟩ := h
    rw [admissions] at ha ha'
    cases i with
    | succ i =>
      obtain ⟨j, rfl⟩ := Nat.exists_eq_add_of_le' (Nat.one_le_of_lt hij)
      rw [List.getElem?_cons_succ] at ha ha'
      rw [Nat.add_sub_add_right]
      exact ih hrest (Nat.le_of_succ_le_succ hij) ha ha'
    | zero =>
      rw [List.getElem?_cons_zero, Option.some.injEq] at ha
      subst ha
      have hleaves := serve_leaves r b first.time first.wake
      cases j with
      | zero =>
        rw [List.getElem?_cons_zero, Option.some.injEq] at ha'
        subst ha'
        have hempty := le_max_right (b.serve r first.time first.wake).left.tokens 0
        push_cast
        linarith
      | succ j =>
        rw [List.getElem?_cons_succ] at ha'
        have hothers := admissions_cost hleast hrest ha'
        have hempty := le_max_right a'.left.tokens 0
        rw [Nat.sub_zero]
        push_cast at hothers ⊢
        linarith

/-! ### Tokens -/

/-- A bucket that holds neither less than nothing nor more than its capacity. -/
def Within (capacity : ℚ) (b : TokenBucket ℚ) : Prop := 0 ≤ b.tokens ∧ b.tokens ≤ capacity

theorem within_refill (hrate : 0 ≤ r.rate) (hcapacity : 0 ≤ r.capacity) (hnow : b.refilled ≤ now)
    (h : Within r.capacity b) : Within r.capacity (b.refill r now) := by
  refine ⟨?_, tokens_refill_le_capacity r now b⟩
  rw [tokens_refill]
  have hgained : 0 ≤ (now - b.refilled) * r.rate := mul_nonneg (sub_nonneg.2 hnow) hrate
  exact le_min (by linarith [h.1]) hcapacity

theorem within_serve (hleast : 0 < r.least) (hrate : 0 ≤ r.rate) (hcapacity : 0 ≤ r.capacity)
    (hnow : b.refilled ≤ now) (hwake : Sleeps now wake) (h : Within r.capacity b) :
    ∀ b' ∈ (b.serve r now wake).left :: (b.serve r now wake).refills, Within r.capacity b' := by
  have hfirst := within_refill hrate hcapacity hnow h
  by_cases hwhole : 1 ≤ (b.refill r now).tokens
  · rw [serve_of_le hwhole, List.forall_mem_cons, List.forall_mem_singleton]
    refine ⟨⟨sub_nonneg.2 hwhole, ?_⟩, hfirst⟩
    exact (sub_le_self _ zero_le_one).trans hfirst.2
  · rw [serve_of_not_le hwhole, List.forall_mem_cons, List.forall_mem_cons,
      List.forall_mem_singleton]
    have hlater := (one_le_of_sleeps hleast hwake (not_le.1 hwhole)).1
    have hsecond := within_refill (b := b.refill r now) hrate hcapacity hlater hfirst
    refine ⟨⟨?_, ?_⟩, hfirst, hsecond⟩
    · rw [tokens_settle]
      exact le_max_right ..
    · rw [tokens_settle]
      exact max_le ((sub_le_self _ zero_le_one).trans hsecond.2) hcapacity

theorem within_admissions (hleast : 0 < r.least) (hrate : 0 ≤ r.rate) (hcapacity : 0 ≤ r.capacity)
    (htimely : Timely r b arrivals) (h : Within r.capacity b) :
    ∀ a ∈ admissions r b arrivals, ∀ b' ∈ a.left :: a.refills, Within r.capacity b' := by
  induction arrivals generalizing b with
  | nil => simp [admissions]
  | cons first rest ih =>
    obtain ⟨hnow, hwake, hrest⟩ := htimely
    have hfirst := within_serve hleast hrate hcapacity hnow hwake h
    rw [admissions, List.forall_mem_cons]
    exact ⟨hfirst, ih hrest (List.forall_mem_cons.1 hfirst).1⟩

/-! ### The law of windows -/

theorem refilled_admissions_le (hleast : 0 < r.least) (h : Timely r b arrivals) :
    ∀ a ∈ admissions r b arrivals, b.refilled ≤ a.left.refilled := by
  induction arrivals generalizing b with
  | nil => simp [admissions]
  | cons first rest ih =>
    obtain ⟨hnow, hwake, hrest⟩ := h
    have hfirst := hnow.trans (le_refilled_serve (b := b) hleast hwake)
    rw [admissions, List.forall_mem_cons]
    exact ⟨hfirst, fun a ha => hfirst.trans (ih hrest a ha)⟩

theorem pairwise_admissions (hleast : 0 < r.least) (h : Timely r b arrivals) :
    (admissions r b arrivals).Pairwise fun a a' => a.left.refilled ≤ a'.left.refilled := by
  induction arrivals generalizing b with
  | nil => exact .nil
  | cons first rest ih =>
    obtain ⟨-, -, hrest⟩ := h
    exact .cons (refilled_admissions_le hleast hrest) (ih hrest)

/-- **Windows.** On exact numbers, and with any rate and capacity, a limiter that has started with a full bucket
admits every request, and between two admissions, both of them counted, there are no more than the capacity and the
gain in the meantime allow; where neither is negative, the bucket never holds less than nothing or more than its
capacity.  The limiter itself takes these steps on doubles: a request sleeps once at most, and one that finds a
whole token does not sleep. -/
theorem limits_window {rate capacity start : ℚ} {arrivals : List Arrival}
    (h : Timely ⟨rate, capacity, 1 / 1000⟩ (.full ⟨rate, capacity, 1 / 1000⟩ start) arrivals) :
    (∃ admitted, admitted = admissions ⟨rate, capacity, 1 / 1000⟩
        (.full ⟨rate, capacity, 1 / 1000⟩ start) arrivals ∧
      admitted.length = arrivals.length ∧
      (admitted.Pairwise fun a a' => a.left.refilled ≤ a'.left.refilled) ∧
      (∀ (i j : Nat) a a', i ≤ j → admitted[i]? = some a → admitted[j]? = some a' →
        (j - i + 1 : ℕ) ≤
          max capacity 1 + max rate (1 / 1000) * (a'.left.refilled - a.left.refilled)) ∧
      (0 ≤ capacity → 0 ≤ rate → ∀ a ∈ admitted, ∀ b ∈ a.left :: a.refills,
        0 ≤ b.tokens ∧ b.tokens ≤ capacity)) ∧
    ∀ (σ : Type) (cell : Nat) (r : TokenRate Float) (name : String) (ctx : Context)
        (w : Surroundings σ) (s : State σ), ∃ s' admission,
      ((Middleware.rateLimit cell r name).before ctx).exec w s = (.ok ctx, s') ∧
      admission = (s.buckets.get cell).serve r s.clock (w.afterSleep s.clock) ∧
      (∀ other, s'.buckets.get other =
        if cell = other then admission.left else s.buckets.get other) ∧
      s'.sleeps = s.sleeps ++ admission.wait.toList ∧
      (1 ≤ ((s.buckets.get cell).refill r s.clock).tokens → s'.sleeps = s.sleeps) := by
  have hleast : (0 : ℚ) < 1 / 1000 := by norm_num
  refine ⟨⟨_, rfl, length_admissions .., pairwise_admissions hleast h, ?_, ?_⟩, ?_⟩
  · intro i j a a' hij ha ha'
    have hwindow := admissions_window hleast h hij ha ha'
    simpa only [pace] using hwindow
  · intro hcapacity hrate a ha b hb
    have hfull : Within capacity (.full ⟨rate, capacity, 1 / 1000⟩ start) := ⟨hcapacity, le_rfl⟩
    exact within_admissions hleast hrate hcapacity h hfull a ha b hb
  · intro σ cell r name ctx w s
    obtain ⟨s', hexec, hbuckets, hsleeps⟩ :=
      Middleware.exec_before_rateLimit cell r name ctx w s
    refine ⟨s', _, hexec, rfl, hbuckets, hsleeps, fun hwhole => ?_⟩
    rw [hsleeps, serve_of_le hwhole]
    exact List.append_nil _

/-- Three requests at once, at a clock that stands still but for sleeps. -/
def crowd : List Arrival := List.replicate 3 ⟨0, id⟩

/-- Where nothing is gained, the third of three requests sleeps until the window is wide enough for all of
them. -/
theorem limits_window_crowd :
    Timely ⟨0, 2, 1 / 1000⟩ (.full ⟨0, 2, 1 / 1000⟩ 0) crowd ∧
      ∃ a a', (admissions ⟨0, 2, 1 / 1000⟩ (.full ⟨0, 2, 1 / 1000⟩ 0) crowd)[0]? = some a ∧
        (admissions ⟨0, 2, 1 / 1000⟩ (.full ⟨0, 2, 1 / 1000⟩ 0) crowd)[2]? = some a' ∧
        a.left.refilled = 0 ∧ a'.left.refilled = 1000 ∧
        ((2 - 0 + 1 : ℕ) : ℚ) ≤
          max 2 1 + max 0 (1 / 1000) * (a'.left.refilled - a.left.refilled) := by
  have hsleeps : Sleeps 0 id := fun wait _ => (zero_add wait).le
  have htimely : Timely ⟨0, 2, 1 / 1000⟩ (.full ⟨0, 2, 1 / 1000⟩ 0) crowd :=
    ⟨by decide +kernel, hsleeps, by decide +kernel, hsleeps, by decide +kernel, hsleeps, trivial⟩
  obtain ⟨⟨admitted, rfl, -, -, hwindow, -⟩, -⟩ := limits_window htimely
  refine ⟨htimely, _, _, rfl, rfl, ?_, ?_, hwindow 0 2 _ _ (Nat.zero_le 2) rfl rfl⟩
  · decide +kernel
  · decide +kernel

end TokenBucket

end Colloquy
