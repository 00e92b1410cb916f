import Colloquy.Middleware.Cache
import Colloquy.Proofs.Number.Difference
import Colloquy.Proofs.Run.Keeps

/-!
# Caches as timed maps

What a cache plants depends only on its history, the stores and evictions so far: the content of the last store
under a key, if no eviction under that key has come after it and it is young enough (`held?`).  That stale
responses are dropped when they are found, and all of them when another one is stored, is never seen, and a
response is made no younger by being planted (`before_refines`).

The proof keeps track of what may be missing from the cell: nothing but what is stale already (`Tracks`).  As the
clock goes on this stays so, since ages do not decrease (`Number.sub_lt_of_le`).
-/

namespace Colloquy

/-! ### Histories -/

/-- A store under a key, of content and with the time, or an eviction. -/
structure CacheEvent where
  key : String
  stored : Option (Content × Float)

/-- The content of the last event under a key and its time, if that event is a store. -/
def held? (key : String) (events : List CacheEvent) : Option (Content × Float) :=
  (events.filter (·.key = key)).getLast?.bind (·.stored)

theorem held?_append (key : String) (events : List CacheEvent) (e : CacheEvent) :
    held? key (events ++ [e]) = if e.key = key then e.stored else held? key events := by
  unfold held?
  by_cases h : e.key = key
  · simp [List.filter_append, h]
  · simp [List.filter_append, h]

/-! ### Maps that keep track -/

/-- What is held is too old, if anything is. -/
def Stale (life now : Float) (held : Option (Content × Float)) : Prop :=
  ∀ entry ∈ held, ¬ now - entry.2 < life

/-- Responses that are as a history says, except that some which are stale by now may be missing. -/
structure Tracks (life : Float) (events : List CacheEvent) (now : Float)
    (m : TimedMap Float Content) : Prop where
  nodup : (Assoc.keys m).Nodup
  entry : ∀ key, Assoc.lookup key m = held? key events ∨
    Assoc.lookup key m = none ∧ Stale life now (held? key events)

namespace Tracks

variable {life now now' : Float} {events : List CacheEvent} {m : TimedMap Float Content}
  {key : String}

theorem empty (life now : Float) : Tracks life [] now [] :=
  ⟨List.nodup_nil, fun _ => .inl rfl⟩

/-- What is stale stays so. -/
theorem later (h : Tracks life events now m) (hnow : now ≤ now') : Tracks life events now' m where
  nodup := h.nodup
  entry := by
    intro key
    rcases h.entry key with hheld | ⟨hnone, hstale⟩
    · exact .inl hheld
    · exact .inr ⟨hnone, fun e he hyoung => hstale e he (Number.sub_lt_of_le hnow hyoung)⟩

/-- Responses may be dropped if they are stale. -/
theorem filter (h : Tracks life events now m) {p : String × Content × Float → Bool}
    (hp : ∀ key e, Assoc.lookup key m = some e → p (key, e) = false → ¬ now - e.2 < life) :
    Tracks life events now (m.filter p) where
  nodup := Assoc.nodup_keys_filter h.nodup p
  entry := by
    intro key
    rw [Assoc.lookup_filter h.nodup]
    rcases h.entry key with hheld | ⟨hnone, hstale⟩
    · rw [← hheld]
      cases hlookup : Assoc.lookup key m with
      | none => exact .inl rfl
      | some e =>
        cases hkept : p (key, e) with
        | true => exact .inl (if_pos hkept)
        | false =>
          -- Here an entry goes missing, and only its age allows that.
          refine .inr ⟨if_neg (Bool.eq_false_iff.1 hkept), fun e' he' => ?_⟩
          obtain rfl := Option.some.inj he'
          exact hp key e hlookup hkept
    · rw [hnone]
      exact .inr ⟨rfl, hstale⟩

theorem prune (h : Tracks life events now m) :
    Tracks life events now (TimedMap.prune life now m) := by
  refine h.filter fun key e _ hdropped => ?_
  rw [Bool.not_eq_false', decide_eq_true_iff] at hdropped
  exact Number.not_lt_of_le hdropped

theorem afterFind (h : Tracks life events now m) (key : String) :
    Tracks life events now (TimedMap.afterFind life now key m) := by
  unfold TimedMap.afterFind TimedMap.find
  cases hlookup : Assoc.lookup key m with
  | none => exact h
  | some e =>
    by_cases hyoung : now - e.2 < life
    · simp only [if_pos hyoung]
      exact h
    · simp only [if_neg hyoung]
      rw [Assoc.erase_eq_filter h.nodup]
      refine h.filter fun key' e' hlookup' hdropped => ?_
      -- Only the response that was found too old is dropped.
      obtain rfl : key' = key := bne_eq_false_iff_eq.1 hdropped
      obtain rfl : e = e' := Option.some.inj (hlookup.symm.trans hlookup')
      exact hyoung

theorem store (h : Tracks life events now m) (key : String) (c : Content) (t : Float) :
    Tracks life (events ++ [⟨key, some (c, t)⟩]) now (Assoc.insert key (c, t) m) where
  nodup := Assoc.nodup_keys_insert h.nodup key (c, t)
  entry := by
    intro other
    rw [Assoc.lookup_insert, held?_append]
    by_cases hkey : key = other
    · exact .inl (by rw [if_pos hkey, if_pos hkey])
    · rw [if_neg hkey, if_neg hkey]
      exact h.entry other

theorem evict (h : Tracks life events now m) (key : String) :
    Tracks life (events ++ [⟨key, none⟩]) now (TimedMap.evict key m) where
  nodup := by
    rw [TimedMap.evict, Assoc.erase_eq_filter h.nodup]
    exact Assoc.nodup_keys_filter h.nodup _
  entry := by
    intro other
    rw [TimedMap.evict, Assoc.lookup_erase h.nodup, held?_append]
    by_cases hkey : key = other
    · exact .inl (by rw [if_pos hkey, if_pos hkey])
    · rw [if_neg hkey, if_neg hkey]
      exact h.entry other

/-- A lookup finds what is held if it is young enough, and nothing to plant otherwise. -/
theorem find (h : Tracks life events now m) (key : String) :
    (∃ c t, held? key events = some (c, t) ∧ now - t < life ∧
        TimedMap.find life now key m = .fresh c) ∨
      Stale life now (held? key events) ∧ ∀ c, TimedMap.find life now key m ≠ .fresh c := by
  unfold TimedMap.find
  rcases h.entry key with hheld | ⟨hnone, hstale⟩
  · rw [← hheld]
    cases hlookup : Assoc.lookup key m with
    | none => exact .inr ⟨nofun, nofun⟩
    | some e =>
      by_cases hyoung : now - e.2 < life
      · exact .inl ⟨e.1, e.2, rfl, hyoung, if_pos hyoung⟩
      · refine .inr ⟨fun e' he' => ?_, fun c hfresh => ?_⟩
        · obtain rfl := Option.some.inj he'
          exact hyoung
        · simp only [if_neg hyoung] at hfresh
          exact nomatch hfresh
  · rw [hnone]
    exact .inr ⟨hstale, nofun⟩

end Tracks

/-! ### Hooks -/

namespace Middleware

variable {σ : Type}

/-- A function that finds keys without touching the responses in a cell, and that takes what time it takes. -/
structure KeyFunction.Aside (cell : Nat) (key : KeyFunction σ) : Prop where
  caches : ∀ ctx, (key ctx).Keeps (·.caches.get cell)
  clock : ∀ ctx w st, st.clock ≤ st.clock → st.clock ≤ ((key ctx).exec w st).2.clock

theorem KeyFunction.aside_pure (cell : Nat) (f : Context → String) :
    KeyFunction.Aside (σ := σ) cell fun ctx => pure (f ctx) :=
  ⟨fun _ => .pure _, fun _ _ _ h => h⟩

/-- The state with the responses in a cell replaced. -/
def withCache (cell : Nat) (m : TimedMap Float Content) (st : State σ) : State σ :=
  { st with caches := st.caches.set cell m }

variable {cell : Nat} {life : Float} {key : KeyFunction σ} {name : String} {ctx : Context}
  {w : Surroundings σ} {st st₁ : State σ} {k : String} {f : Failure}

theorem exec_updateCache (g : TimedMap Float Content → TimedMap Float Content) :
    (updateCache cell g).exec w st = (.ok (), withCache cell (g (st.caches.get cell)) st) := rfl

theorem get_withCache (m : TimedMap Float Content) : (withCache cell m st).caches.get cell = m := by
  rw [withCache, Cells.get_set, if_pos rfl]

theorem exec_cachePlant_error (hkey : (key ctx).exec w st = (.error f, st₁)) :
    (cachePlant name cell life key ctx).exec w st = (.error f, st₁) :=
  Run.exec_bind_error _ hkey

/-- A lookup answers the context, planted with what was found if that is fresh, and drops what is not. -/
theorem exec_cachePlant (name : String) (cell : Nat) (life : Float)
    (hkey : (key ctx).exec w st = (.ok k, st₁)) :
    ∃ st', (cachePlant name cell life key ctx).exec w st =
      (.ok (match TimedMap.find life st₁.clock k (st₁.caches.get cell) with
        | .fresh c => ctx.plant c
        | _ => ctx), st') ∧
      st'.clock = st₁.clock ∧
      st'.caches.get cell = TimedMap.afterFind life st₁.clock k (st₁.caches.get cell) := by
  unfold cachePlant
  rw [Run.exec_bind_ok _ hkey, Run.exec_bind_ok _ Run.exec_get,
    Run.exec_bind_ok _ (exec_updateCache _)]
  cases TimedMap.find life st₁.clock k (st₁.caches.get cell) with
  | fresh c => exact ⟨_, rfl, rfl, get_withCache _⟩
  | nothing => exact ⟨_, rfl, rfl, get_withCache _⟩
  | stale => exact ⟨_, rfl, rfl, get_withCache _⟩

theorem exec_cacheStore_idle (h : (ctx.usesCache || ctx.result.isNull) = true) :
    (cacheStore cell life key ctx).exec w st = (.ok ctx, st) := by
  have hidle : (!ctx.usesCache && !ctx.result.isNull) = false := by
    rw [← Bool.not_or, h]
    rfl
  unfold cacheStore
  rw [hidle]
  rfl

/-- The state in which a store asks for its key: stale responses have gone. -/
def pruned (cell : Nat) (life : Float) (st : State σ) : State σ :=
  withCache cell (TimedMap.prune life st.clock (st.caches.get cell)) st

theorem cacheStore_eq (h : (ctx.usesCache || ctx.result.isNull) = false) :
    (cacheStore cell life key ctx).exec w st = (do
      let k ← key ctx
      updateCache cell (Assoc.insert k (ctx.result, st.clock))
      return ctx : Run σ Context).exec w (pruned cell life st) := by
  have hbusy : (!ctx.usesCache && !ctx.result.isNull) = true := by
    rw [← Bool.not_or, h]
    rfl
  unfold cacheStore
  rw [hbusy, if_pos rfl, Run.exec_bind_ok _ Run.exec_get, Run.exec_bind_ok _ (exec_updateCache _)]
  rfl

theorem exec_cacheEvict (name : String) (cell : Nat) (hkey : (key ctx).exec w st = (.ok k, st₁)) :
    ∃ st', (cacheEvict name cell key ctx).exec w st = (.ok (), st') ∧ st'.clock = st₁.clock ∧
      st'.caches.get cell = TimedMap.evict k (st₁.caches.get cell) := by
  unfold cacheEvict
  rw [Run.exec_bind_ok _ hkey, Run.exec_bind_ok _ Run.exec_get,
    Run.exec_bind_ok _ (exec_updateCache _)]
  split
  · exact ⟨_, rfl, rfl, get_withCache _⟩
  · exact ⟨_, rfl, rfl, get_withCache _⟩

/-! ### Calls -/

/-- The event of a response: its result is stored under the key of its context, unless it was planted or is
null. -/
def storing (cell : Nat) (life : Float) (key : KeyFunction σ) (ctx : Context) (w : Surroundings σ)
    (st : State σ) : List CacheEvent :=
  if ctx.usesCache || ctx.result.isNull then []
  else
    match (key ctx).exec w (pruned cell life st) with
    | (.ok k, _) => [⟨k, some (ctx.result, st.clock)⟩]
    | (.error _, _) => []

/-- The event of a rejection: an eviction under the key of its context. -/
def evicting (key : KeyFunction σ) (ctx : Context) (w : Surroundings σ) (st : State σ) :
    List CacheEvent :=
  match (key ctx).exec w st with
  | (.ok k, _) => [⟨k, none⟩]
  | (.error _, _) => []

/-- The histories of a cache that was empty at first, and the states that they lead to: its hooks are called on
any contexts in any order, and in between time passes and anything else happens. -/
inductive Cached (cell : Nat) (life : Float) (key : KeyFunction σ) (name : String) :
    List CacheEvent → State σ → Prop
  | empty {st : State σ} (hclock : st.clock ≤ st.clock) (hempty : st.caches.get cell = []) :
    Cached cell life key name [] st
  | elapse {events : List CacheEvent} {st st' : State σ} (h : Cached cell life key name events st)
    (hclock : st.clock ≤ st'.clock) (hsame : st'.caches.get cell = st.caches.get cell) :
    Cached cell life key name events st'
  | request {events : List CacheEvent} {st : State σ} (h : Cached cell life key name events st)
    (ctx : Context) (w : Surroundings σ) :
    Cached cell life key name events (((cache cell life key name).before ctx).exec w st).2
  | response {events : List CacheEvent} {st : State σ} (h : Cached cell life key name events st)
    (ctx : Context) (w : Surroundings σ) :
    Cached cell life key name (events ++ storing cell life key ctx w st)
      (((cache cell life key name).after ctx).exec w st).2
  | rejection {events : List CacheEvent} {st : State σ} (h : Cached cell life key name events st)
    (ctx : Context) (w : Surroundings σ) :
    Cached cell life key name (events ++ evicting key ctx w st)
      (((cache cell life key name).onRejected ctx).exec w st).2

/-- A state whose clock is a number and whose cell keeps track of a history. -/
structure Remembers (cell : Nat) (life : Float) (events : List CacheEvent) (st : State σ) : Prop where
  clock : st.clock ≤ st.clock
  tracks : Tracks life events st.clock (st.caches.get cell)

variable {events : List CacheEvent}

theorem Remembers.later (h : Remembers cell life events st) (hclock : st.clock ≤ st₁.clock)
    (hsame : st₁.caches.get cell = st.caches.get cell) : Remembers cell life events st₁ where
  clock := Number.le_self_of_le hclock
  tracks := by
    rw [hsame]
    exact h.tracks.later hclock

/-- Finding a key changes nothing but the time. -/
theorem Remembers.found (h : Remembers cell life events st) (hkey : KeyFunction.Aside cell key)
    (ctx : Context) (w : Surroundings σ) :
    Remembers cell life events ((key ctx).exec w st).2 :=
  h.later (hkey.clock ctx w st h.clock) (hkey.caches ctx w st)

theorem Remembers.before (h : Remembers cell life events st) (hkey : KeyFunction.Aside cell key)
    (ctx : Context) (w : Surroundings σ) :
    Remembers cell life events ((cachePlant name cell life key ctx).exec w st).2 := by
  have hafter := h.found hkey ctx w
  rcases hended : (key ctx).exec w st with ⟨_ | k, st₁⟩
  · rw [exec_cachePlant_error hended]
    rwa [hended] at hafter
  · rw [hended] at hafter
    obtain ⟨st', hexec, hclock, hcell⟩ := exec_cachePlant name cell life hended
    rw [hexec]
    refine ⟨?_, ?_⟩
    · show st'.clock ≤ st'.clock
      rw [hclock]
      exact hafter.clock
    · show Tracks life events st'.clock (st'.caches.get cell)
      rw [hclock, hcell]
      exact hafter.tracks.afterFind k

theorem Remembers.pruned (h : Remembers cell life events st) :
    Remembers cell life events (pruned cell life st) where
  clock := h.clock
  tracks := by
    rw [Middleware.pruned, get_withCache]
    exact h.tracks.prune

theorem Remembers.after (h : Remembers cell life events st) (hkey : KeyFunction.Aside cell key)
    (ctx : Context) (w : Surroundings σ) :
    Remembers cell life (events ++ storing cell life key ctx w st)
      ((cacheStore cell life key ctx).exec w st).2 := by
  unfold storing
  cases hidle : (ctx.usesCache || ctx.result.isNull) with
  | true =>
    rw [exec_cacheStore_idle hidle, if_pos rfl, List.append_nil]
    exact h
  | false =>
    have hafter := h.pruned.found hkey ctx w
    rw [cacheStore_eq hidle, if_neg Bool.false_ne_true]
    rcases hended : (key ctx).exec w (Middleware.pruned cell life st) with ⟨_ | k, st₁⟩
    · rw [hended] at hafter
      rw [Run.exec_bind_error _ hended, List.append_nil]
      exact hafter
    · rw [hended] at hafter
      rw [Run.exec_bind_ok _ hended, Run.exec_bind_ok _ (exec_updateCache _)]
      refine ⟨hafter.clock, ?_⟩
      show Tracks life _ st₁.clock ((withCache cell _ st₁).caches.get cell)
      rw [get_withCache]
      exact hafter.tracks.store k ctx.result st.clock

theorem Remembers.onRejected (h : Remembers cell life events st) (hkey : KeyFunction.Aside cell key)
    (ctx : Context) (w : Surroundings σ) :
    Remembers cell life (events ++ evicting key ctx w st)
      ((cacheEvict name cell key ctx).exec w st).2 := by
  unfold evicting
  have hafter := h.found hkey ctx w
  rcases hended : (key ctx).exec w st with ⟨_ | k, st₁⟩
  · rw [hended] at hafter
    rw [cacheEvict, Run.exec_bind_error _ hended, List.append_nil]
    exact hafter
  · rw [hended] at hafter
    obtain ⟨st', hexec, hclock, hcell⟩ := exec_cacheEvict name cell hended
    rw [hexec]
    refine ⟨?_, ?_⟩
    · show st'.clock ≤ st'.clock
      rw [hclock]
      exact hafter.clock
    · show Tracks life _ st'.clock (st'.caches.get cell)
      rw [hclock, hcell]
      exact hafter.tracks.evict k

/-- Whatever calls have led to a state, it remembers their history. -/
theorem Cached.remembers (hkey : KeyFunction.Aside cell key)
    (h : Cached cell life key name events st) : Remembers cell life events st := by
  induction h with
  | empty hclock hempty =>
    refine ⟨hclock, ?_⟩
    rw [hempty]
    exact .empty life _
  | elapse h hclock hsame ih => exact ih.later hclock hsame
  | request h ctx w ih => exact ih.before hkey ctx w
  | response h ctx w ih => exact ih.after hkey ctx w
  | rejection h ctx w ih => exact ih.onRejected hkey ctx w

/-- **Caches are timed maps.** After any calls, a request is planted with the content of the last store under its
key if no eviction under that key has come after it and it is younger than its life; otherwise the context
stays as it is. -/
theorem before_refines (hkey : KeyFunction.Aside cell key) (h : Cached cell life key name events st)
    (hfound : (key ctx).exec w st = (.ok k, st₁)) :
    (((cache cell life key name).before ctx).exec w st).1 =
      .ok (match held? k events with
        | some (c, t) => if st₁.clock - t < life then ctx.plant c else ctx
        | none => ctx) := by
  have hafter := (h.remembers hkey).found hkey ctx w
  rw [hfound] at hafter
  obtain ⟨st', hexec, -, -⟩ := exec_cachePlant name cell life hfound
  show ((cachePlant name cell life key ctx).exec w st).1 = _
  rw [hexec]
  rcases hafter.tracks.find k with ⟨c, t, hheld, hyoung, hfind⟩ | ⟨hstale, hfind⟩
  · rw [hfind, hheld]
    simp only [if_pos hyoung]
  · have hnone : (match TimedMap.find life st₁.clock k (st₁.caches.get cell) with
        | .fresh c => ctx.plant c
        | _ => ctx) = ctx := by
      split
      · rename_i c hfresh
        exact absurd hfresh (hfind c)
      · rfl
    rw [hnone]
    cases hheld : held? k events with
    | none => rfl
    | some e => simp only [if_neg (hstale e hheld)]

/-- A key function for which all contexts are alike. -/
def sameKey : KeyFunction Unit := fun _ => pure "greeting"

/-- The response to a greeting. -/
def greeted : Context := { session := {}, result := .plain (.str "Hello") }

/-- The state after the response to a greeting was stored. -/
def afterGreeting : State Unit :=
  (((cache 0 10.0 sameKey "cache").after greeted).exec (Surroundings.alone Unit) { host := () }).2

/-- The greeting is used again after five seconds, but not after eleven. -/
theorem before_refines_greeting :
    (((cache 0 10.0 sameKey "cache").before { session := {} }).exec (Surroundings.alone Unit)
      { afterGreeting with clock := 5.0 }).1 =
        .ok (Context.plant { session := {} } (.plain (.str "Hello"))) ∧
    (((cache 0 10.0 sameKey "cache").before { session := {} }).exec (Surroundings.alone Unit)
      { afterGreeting with clock := 11.0 }).1 = .ok { session := {} } := by
  have haside : KeyFunction.Aside 0 sameKey := KeyFunction.aside_pure 0 fun _ => "greeting"
  have hfound : ∀ st, (sameKey { session := {} }).exec (Surroundings.alone Unit) st =
      (.ok "greeting", st) := fun _ => rfl
  have hempty : Cached 0 10.0 sameKey "cache" [] { host := () } := .empty (by decide +kernel) rfl
  have hcached : Cached 0 10.0 sameKey "cache"
      [⟨"greeting", some (.plain (.str "Hello"), 0.0)⟩] afterGreeting :=
    hempty.response greeted (Surroundings.alone Unit)
  have hheld : held? "greeting" [⟨"greeting", some (.plain (.str "Hello"), 0.0)⟩] =
      some (.plain (.str "Hello"), 0.0) := held?_append "greeting" [] _
  have hlater : ∀ now : Float, afterGreeting.clock ≤ now → Cached 0 10.0 sameKey "cache"
      [⟨"greeting", some (.plain (.str "Hello"), 0.0)⟩] { afterGreeting with clock := now } :=
    fun now hnow => hcached.elapse hnow rfl
  constructor
  · have hyoung : (5.0 : Float) - 0.0 < 10.0 := by decide +kernel
    rw [before_refines haside (hlater 5.0 (by decide +kernel)) (hfound _), hheld]
    exact congrArg Except.ok (if_pos hyoung)
  · have hold : ¬ (11.0 : Float) - 0.0 < 10.0 := by decide +kernel
    rw [before_refines haside (hlater 11.0 (by decide +kernel)) (hfound _), hheld]
    exact congrArg Except.ok (if_neg hold)

end Middleware

end Colloquy
