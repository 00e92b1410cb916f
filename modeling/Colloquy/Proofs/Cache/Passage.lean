import Colloquy.Proofs.Cache.Refinement
import Colloquy.Proofs.Pipeline.Trace
import Colloquy.Proofs.Source.Upkeep

/-!
# Attempts through a cache

A `CachedPipeline` has a cache somewhere among other middleware, which leave the cache's responses alone.  What an
attempt through it does to these responses is said in one place (`Pass.Happens.held`): what the cache plants
was held before the attempt, and what is held after it was held before, or is what the cache was given after
the response.
-/

namespace Colloquy

variable {σ α : Type}

/-! ### Sparing a cache -/

/-- A run that leaves the responses in a cell alone. -/
abbrev Run.Spares (cell : Nat) (r : Run σ α) : Prop :=
  r.Keeps (·.caches.get cell)

/-- Middleware all of whose hooks leave the responses in a cell alone. -/
def Middleware.Spares (cell : Nat) (m : Middleware σ) : Prop :=
  ∀ responses, m.Maintains (·.caches.get cell = responses)

namespace Middleware.Spares

variable {cell : Nat} {m : Middleware σ} (h : m.Spares cell)
include h

theorem before (ctx : Context) : (m.before ctx).Spares cell :=
  Run.keeps_iff_maintains.2 fun responses => (h responses).before ctx

theorem after (ctx : Context) : (m.after ctx).Spares cell :=
  Run.keeps_iff_maintains.2 fun responses => (h responses).after ctx

theorem onError (ctx : Context) (f : Failure) : (m.onError ctx f).Spares cell :=
  Run.keeps_iff_maintains.2 fun responses => (h responses).onError ctx f

theorem transform (content : Content) (ctx : Context) : (m.transform content ctx).Spares cell :=
  Run.keeps_iff_maintains.2 fun responses => (h responses).transform content ctx

theorem onRejected (ctx : Context) : (m.onRejected ctx).Spares cell :=
  Run.keeps_iff_maintains.2 fun responses => (h responses).onRejected ctx

end Middleware.Spares

/-- Where there are no middleware, a cache is spared. -/
theorem Middleware.spares_of_nil : ∀ m ∈ ([] : List (Middleware Unit)), m.Spares 0 :=
  fun _ hm => absurd hm List.not_mem_nil

/-- A policy that leaves the responses in a cell alone when it tells of failures. -/
def RetryPolicy.Spares (cell : Nat) (policy : RetryPolicy σ) : Prop :=
  ∀ notify ∈ policy.onRetry, ∀ f attempt delay, (notify f attempt delay).Spares cell

/-! ### What is kept of responses -/

/-- Of some responses others are left: none is new, and none has changed. -/
structure Leaves (m m' : TimedMap Float Content) : Prop where
  nodup : (Assoc.keys m').Nodup
  held : ∀ key entry, Assoc.lookup key m' = some entry → Assoc.lookup key m = some entry

namespace Leaves

variable {m m' m'' : TimedMap Float Content}

theorem refl (h : (Assoc.keys m).Nodup) : Leaves m m :=
  ⟨h, fun _ _ hheld => hheld⟩

theorem trans (h : Leaves m m') (h' : Leaves m' m'') : Leaves m m'' :=
  ⟨h'.nodup, fun key entry hheld => h.held key entry (h'.held key entry hheld)⟩

theorem filter (h : (Assoc.keys m).Nodup) (p : String × Content × Float → Bool) :
    Leaves m (m.filter p) where
  nodup := Assoc.nodup_keys_filter h p
  held := by
    intro key entry hheld
    rw [Assoc.lookup_filter h] at hheld
    exact (Option.filter_eq_some_iff.1 hheld).1

theorem afterFind (h : (Assoc.keys m).Nodup) (life now : Float) (key : String) :
    Leaves m (TimedMap.afterFind life now key m) := by
  unfold TimedMap.afterFind
  split
  · rw [Assoc.erase_eq_filter h]
    exact filter h _
  · exact refl h

end Leaves

/-- What is found fresh is held. -/
theorem TimedMap.lookup_of_find {life now : Float} {key : String} {m : TimedMap Float Content}
    {c : Content} (h : find life now key m = .fresh c) : ∃ t, Assoc.lookup key m = some (c, t) := by
  unfold find at h
  split at h
  · exact nomatch h
  · rename_i c' t hlookup
    split at h
    · obtain rfl : c' = c := Found.fresh.inj h
      exact ⟨t, hlookup⟩
    · exact nomatch h

namespace Pipeline

/-! ### Pipelines with a cache -/

/-- A pipeline with a cache in a cell, before and behind which stand middleware that leave the cell alone.  The
keys are read off contexts. -/
structure CachedPipeline (σ : Type) where
  front : List (Middleware σ) := []
  back : List (Middleware σ) := []
  cell : Nat
  life : Float
  keyOf : Context → String := Context.cacheKey
  name : String := "cache"
  spares : ∀ m ∈ front ++ back, m.Spares cell

namespace CachedPipeline

variable (q : CachedPipeline σ)

/-- The key of a context is found without any effect. -/
def key : Middleware.KeyFunction σ := fun ctx => pure (q.keyOf ctx)

/-- The cache. -/
def cache : Middleware σ :=
  Middleware.cache q.cell q.life q.key q.name

/-- The pipeline itself. -/
def pipeline : Pipeline σ :=
  ⟨q.front ++ q.cache :: q.back⟩

/-- The responses that the cache holds. -/
def responses (st : State σ) : TimedMap Float Content :=
  st.caches.get q.cell

theorem reverse_middlewares : q.pipeline.middlewares.reverse =
    q.back.reverse ++ q.cache :: q.front.reverse := by
  simp [pipeline]

/-- The cache finds a response for an attempt: it is given a context that is not marked yet, and plants the
response. -/
def Finds (a : Pass σ) (key : String) (c : Content) : Prop :=
  ∃ t, a.trace.befores[q.front.length]? = some t ∧ t.given.usesCache = false ∧
    t.ended = .ok (t.given.plant c) ∧ q.keyOf t.given = key

/-- The cache stores a response of an attempt: it is given a context that is not marked, with the response as its
result. -/
def Stores (a : Pass σ) (key : String) (c : Content) : Prop :=
  ∃ t, a.trace.afters[q.back.length]? = some t ∧ t.given.usesCache = false ∧ t.given.result = c ∧
    q.keyOf t.given = key

/-! ### The cache's own hooks -/

variable {q} {w : Surroundings σ} {st st' : State σ} {ctx : Context}

theorem auxValue_plant (ctx : Context) (c : Content) :
    (ctx.plant c).auxValue Context.cachedKey = c := by
  have hne : Context.useCacheKey ≠ Context.cachedKey := by decide
  simp [Context.plant, Context.withAux, Context.auxValue, Assoc.overlay, Assoc.lookup_insert, hne]

theorem usesCache_plant (ctx : Context) (c : Content) : (ctx.plant c).usesCache = true := by
  simp [Context.plant, Context.withAux, Context.usesCache, Context.auxValue, Assoc.overlay,
    Assoc.lookup_insert, Content.truthy, Value.truthy]

theorem exec_key (q : CachedPipeline σ) (ctx : Context) (w : Surroundings σ) (st : State σ) :
    (q.key ctx).exec w st = (.ok (q.keyOf ctx), st) := rfl

/-- The cache asks for nothing but what it holds, and plants nothing else. -/
theorem before_cache {ended : Except Failure Context}
    (h : (q.cache.before ctx).exec w st = (ended, st')) (hnodup : (Assoc.keys (q.responses st)).Nodup) :
    Leaves (q.responses st) (q.responses st') ∧
      ∀ c, ctx.usesCache = false → ended = .ok (ctx.plant c) →
        ∃ t, Assoc.lookup (q.keyOf ctx) (q.responses st) = some (c, t) := by
  obtain ⟨st₁, hexec, -, hcell⟩ := Middleware.exec_cachePlant q.name q.cell q.life (q.exec_key ctx w st)
  obtain ⟨rfl, rfl⟩ := Prod.mk.inj (h.symm.trans hexec)
  refine ⟨?_, fun c hmark hended => ?_⟩
  · rw [responses, responses, hcell]
    exact .afterFind hnodup _ _ _
  have hplanted := Except.ok.inj hended
  split at hplanted
  · rename_i v hfind
    -- A planted context shows what was planted in it.
    have hvalue := congrArg (·.auxValue Context.cachedKey) hplanted
    simp only [auxValue_plant] at hvalue
    rw [← hvalue]
    exact TimedMap.lookup_of_find hfind
  · rw [hplanted, usesCache_plant] at hmark
    exact nomatch hmark

/-- The cache holds nothing new but the response that it is given. -/
theorem after_cache {ended : Except Failure Context}
    (h : (q.cache.after ctx).exec w st = (ended, st')) (hnodup : (Assoc.keys (q.responses st)).Nodup) :
    (Assoc.keys (q.responses st')).Nodup ∧
      ∀ key entry, Assoc.lookup key (q.responses st') = some entry →
        Assoc.lookup key (q.responses st) = some entry ∨
          ctx.usesCache = false ∧ ctx.result = entry.1 ∧ q.keyOf ctx = key := by
  change (Middleware.cacheStore q.cell q.life q.key ctx).exec w st = _ at h
  cases hidle : (ctx.usesCache || ctx.result.isNull) with
  | true =>
    rw [Middleware.exec_cacheStore_idle hidle] at h
    obtain ⟨-, rfl⟩ := Prod.mk.inj h
    exact ⟨hnodup, fun _ _ hheld => .inl hheld⟩
  | false =>
    rw [Middleware.cacheStore_eq hidle, Run.exec_bind_ok _ (q.exec_key ctx w _),
      Run.exec_bind_ok _ (Middleware.exec_updateCache _)] at h
    obtain ⟨-, rfl⟩ := Prod.mk.inj h
    have hpruned : Leaves (q.responses st)
        ((Middleware.pruned q.cell q.life st).caches.get q.cell) := by
      rw [Middleware.pruned, Middleware.get_withCache]
      exact .filter hnodup _
    rw [responses, Middleware.get_withCache]
    refine ⟨Assoc.nodup_keys_insert hpruned.nodup _ _, fun key entry hheld => ?_⟩
    rw [Assoc.lookup_insert] at hheld
    by_cases hkey : q.keyOf ctx = key
    · rw [if_pos hkey] at hheld
      obtain rfl := Option.some.inj hheld
      exact .inr ⟨(Bool.or_eq_false_iff.1 hidle).1, rfl, hkey⟩
    · rw [if_neg hkey] at hheld
      exact .inl (hpruned.held key entry hheld)

/-! ### Around the call -/

variable {call : Context → Run σ Content} {turns : List (Turn σ)} {offers : List (Offer σ)}
  {ms : List (Middleware σ)} {f : Failure}

theorem spares_front : ∀ m ∈ q.front, m.Spares q.cell :=
  fun m hm => q.spares m (List.mem_append_left _ hm)

theorem spares_back : ∀ m ∈ q.back, m.Spares q.cell :=
  fun m hm => q.spares m (List.mem_append_right _ hm)

/-- Turns before the call leave the cell alone if their middleware do. -/
theorem responses_befores (hms : ∀ m ∈ ms, m.Spares q.cell) (hrelay : Relay ms ctx turns)
    (h : Walks call w (turns.map .before) st st') : q.responses st' = q.responses st := by
  refine h.keeps (List.forall_mem_map.2 fun t ht s s' hvisit => ?_)
  have hm := hms _ (hrelay.order.subset (List.mem_map_of_mem ht))
  have hkept := hm.before t.given w s
  rwa [show (t.middleware.before t.given).exec w s = (t.ended, s') from hvisit] at hkept

theorem responses_afters (hms : ∀ m ∈ ms, m.Spares q.cell) (hrelay : Relay ms ctx turns)
    (h : Walks call w (turns.map .after) st st') : q.responses st' = q.responses st := by
  refine h.keeps (List.forall_mem_map.2 fun t ht s s' hvisit => ?_)
  have hm := hms _ (hrelay.order.subset (List.mem_map_of_mem ht))
  have hkept := hm.after t.given w s
  rwa [show (t.middleware.after t.given).exec w s = (t.ended, s') from hvisit] at hkept

/-- Before the call nothing new is held, and the cache plants what is held. -/
theorem held_befores (hrelay : Relay (q.front ++ q.cache :: q.back) ctx turns)
    (h : Walks call w (turns.map .before) st st') (hnodup : (Assoc.keys (q.responses st)).Nodup) :
    Leaves (q.responses st) (q.responses st') ∧
      ∀ t c, turns[q.front.length]? = some t → t.given.usesCache = false →
        t.ended = .ok (t.given.plant c) →
        ∃ stored, Assoc.lookup (q.keyOf t.given) (q.responses st) = some (c, stored) := by
  rcases hrelay.split with ⟨hfront, hnone⟩ |
    ⟨ts, c, ended, ts', rfl, hlength, hfront, -, hrest⟩
  · rw [responses_befores spares_front hfront h]
    exact ⟨.refl hnodup, fun t c ht => nomatch hnone.symm.trans ht⟩
  · rw [List.map_append, List.map_cons] at h
    obtain ⟨st₁, hwalk, hwalk'⟩ := h.split
    have hsame := responses_befores spares_front hfront hwalk
    cases hwalk' with
    | cons hturn hlater =>
      rename_i st₂
      rw [← hsame] at hnodup
      obtain ⟨hleaves, hfinds⟩ := before_cache hturn hnodup
      have hback : q.responses st' = q.responses st₂ := by
        rcases hrest with ⟨f, -, rfl⟩ | ⟨c', -, hrelay'⟩
        · cases hlater
          rfl
        · exact responses_befores spares_back hrelay' hlater
      rw [← hsame, hback]
      refine ⟨hleaves, fun t v ht hmark hended => ?_⟩
      rw [← hlength, List.getElem?_append_right (Nat.le_refl _), Nat.sub_self] at ht
      obtain rfl := Option.some.inj ht
      exact hfinds v hmark hended

/-- After the response nothing new is held but what the cache was given to store. -/
theorem held_afters (hrelay : Relay (q.back.reverse ++ q.cache :: q.front.reverse) ctx turns)
    (h : Walks call w (turns.map .after) st st') (hnodup : (Assoc.keys (q.responses st)).Nodup) :
    (Assoc.keys (q.responses st')).Nodup ∧
      ∀ key entry, Assoc.lookup key (q.responses st') = some entry →
        Assoc.lookup key (q.responses st) = some entry ∨
          ∃ t, turns[q.back.length]? = some t ∧ t.given.usesCache = false ∧
            t.given.result = entry.1 ∧ q.keyOf t.given = key := by
  have hback : ∀ m ∈ q.back.reverse, m.Spares q.cell := fun m hm =>
    spares_back m (List.mem_reverse.1 hm)
  have hfront : ∀ m ∈ q.front.reverse, m.Spares q.cell := fun m hm =>
    spares_front m (List.mem_reverse.1 hm)
  rcases hrelay.split with ⟨hfirst, -⟩ | ⟨ts, c, ended, ts', rfl, hlength, hfirst, -, hrest⟩
  · rw [responses_afters hback hfirst h]
    exact ⟨hnodup, fun _ _ hheld => .inl hheld⟩
  · rw [List.map_append, List.map_cons] at h
    obtain ⟨st₁, hwalk, hwalk'⟩ := h.split
    have hsame := responses_afters hback hfirst hwalk
    cases hwalk' with
    | cons hturn hlater =>
      rename_i st₂
      rw [← hsame] at hnodup
      have hstored := after_cache hturn hnodup
      have hlast : q.responses st' = q.responses st₂ := by
        rcases hrest with ⟨f, -, rfl⟩ | ⟨c', -, hrelay'⟩
        · cases hlater
          rfl
        · exact responses_afters hfront hrelay' hlater
      rw [← hsame, hlast]
      refine ⟨hstored.1, fun key entry hheld => (hstored.2 key entry hheld).imp_right fun hnew => ?_⟩
      refine ⟨⟨q.cache, c, ended⟩, ?_, hnew⟩
      rw [← List.length_reverse, ← hlength, List.getElem?_append_right (Nat.le_refl _), Nat.sub_self]
      rfl

/-- Hooks on failures leave the responses alone, that of the cache included. -/
theorem responses_offers {ended : Except Failure (Option Context)}
    (hoffered : Offered q.pipeline.middlewares ctx f offers ended)
    (h : Walks call w (offers.map .offer) st st') : q.responses st' = q.responses st := by
  refine h.keeps (List.forall_mem_map.2 fun o ho s s' hvisit => ?_)
  obtain ⟨s₁, hexec, rfl⟩ := hvisit
  have hreport : q.responses (o.report s₁) = q.responses s₁ := by
    unfold Offer.report
    split <;> rfl
  have hkept : (o.middleware.onError o.given o.failure).Spares q.cell := by
    have hm := hoffered.order.subset (List.mem_map_of_mem ho)
    rcases List.mem_append.1 hm with hm | hm
    · exact (spares_front _ hm).onError o.given o.failure
    rcases List.mem_cons.1 hm with hcache | hm
    · rw [hcache]
      exact .pure none
    · exact (spares_back _ hm).onError o.given o.failure
  have hsame := hkept w s
  rw [hexec] at hsame
  exact hreport.trans hsame

theorem responses_call {made : Option Call} (hcall : ∀ ctx, (call ctx).Spares q.cell)
    (h : Walks call w (made.toList.map .call) st st') : q.responses st' = q.responses st := by
  refine h.keeps (List.forall_mem_map.2 fun c _ s s' hvisit => ?_)
  have hkept := hcall c.given w s
  rwa [show (call c.given).exec w s = (c.ended, s') from hvisit] at hkept

variable {a : Pass σ}

/-- **What an attempt does to a cache.** All that is held after it was held before it, or was stored by the cache;
and the cache finds nothing but what was held before. -/
theorem held (h : a.Happens call w q.pipeline ctx) (hcall : ∀ ctx, (call ctx).Spares q.cell)
    (hnodup : (Assoc.keys (q.responses a.entered)).Nodup) :
    (Assoc.keys (q.responses a.left)).Nodup ∧
      (∀ key entry, Assoc.lookup key (q.responses a.left) = some entry →
        Assoc.lookup key (q.responses a.entered) = some entry ∨ q.Stores a key entry.1) ∧
      ∀ key c, q.Finds a key c →
        ∃ stored, Assoc.lookup key (q.responses a.entered) = some (c, stored) := by
  obtain ⟨st₃, hwork, hoffers⟩ := h.walks.split
  obtain ⟨st₂, hwork, hafters⟩ := hwork.split
  obtain ⟨st₁, hbefores, hmade⟩ := hwork.split
  obtain ⟨hleaves, hfinds⟩ := held_befores h.brackets.befores hbefores hnodup
  -- Neither the call nor the offers touch the cell.
  have hsame : q.responses a.left = q.responses st₃ := by
    cases hout : a.outcome with
    | ok v =>
      rw [(h.accepted v hout).1] at hoffers
      cases hoffers
      rfl
    | error f => exact responses_offers (h.offered f hout) hoffers
  have hbetween := responses_call hcall hmade
  have hstored : (Assoc.keys (q.responses st₃)).Nodup ∧
      ∀ key entry, Assoc.lookup key (q.responses st₃) = some entry →
        Assoc.lookup key (q.responses st₂) = some entry ∨ q.Stores a key entry.1 := by
    rw [← hbetween] at hleaves
    rcases h.brackets.afters with ⟨hnone, -⟩ | ⟨c, v, -, -, hrelay, -⟩
    · rw [hnone] at hafters
      cases hafters
      exact ⟨hleaves.nodup, fun _ _ hheld => .inl hheld⟩
    · rw [reverse_middlewares] at hrelay
      exact held_afters hrelay hafters hleaves.nodup
  rw [hbetween] at hstored
  rw [hsame]
  refine ⟨hstored.1, fun key entry hheld => ?_, ?_⟩
  · exact (hstored.2 key entry hheld).imp_left (hleaves.held key entry)
  · rintro key c ⟨t, ht, hmark, hended, rfl⟩
    exact hfinds t c ht hmark hended

/-! ### The turns of the cache -/

variable {t : Turn σ}

/-- The cache has its turn before the call on what those before it have come to, and those behind it go on with
what it makes of that. -/
theorem turn_before (h : a.Happens call w q.pipeline ctx)
    (ht : a.trace.befores[q.front.length]? = some t) :
    ∃ ts ts', a.trace.befores = ts ++ t :: ts' ∧ t.middleware = q.cache ∧ Relay q.front ctx ts ∧
      relayed ctx ts = .ok t.given ∧ ∀ c, t.ended = .ok c →
        Relay q.back c ts' ∧ relayed ctx a.trace.befores = relayed c ts' := by
  rcases Relay.split h.brackets.befores with ⟨-, hnone⟩ |
    ⟨ts, given, ended, ts', hturns, hlength, hfront, hgiven, hrest⟩
  · exact nomatch hnone.symm.trans ht
  rw [hturns, ← hlength, List.getElem?_append_right (Nat.le_refl _), Nat.sub_self] at ht
  obtain rfl := Option.some.inj ht
  refine ⟨ts, ts', hturns, rfl, hfront, hgiven, ?_⟩
  rintro c rfl
  rcases hrest with ⟨f, hf, -⟩ | ⟨c', hc', hback⟩
  · exact nomatch hf
  · obtain rfl := Except.ok.inj hc'
    exact ⟨hback, by rw [hturns, relayed_append]⟩

/-- If no hook before the call fails, the cache has its turn and does not fail, either. -/
theorem exists_turn_before (h : a.Happens call w q.pipeline ctx) {c : Context}
    (hended : relayed ctx a.trace.befores = .ok c) :
    ∃ t made, a.trace.befores[q.front.length]? = some t ∧ t.ended = .ok made := by
  rcases Relay.split h.brackets.befores with ⟨hfront, hnone⟩ |
    ⟨ts, given, ended, ts', hturns, hlength, -, -, hrest⟩
  · -- The hooks have come to an end, so there is a turn for every middleware.
    have hall := congrArg List.length (h.brackets.befores.complete c hended)
    have hle := List.getElem?_eq_none_iff.1 hnone
    simp only [List.length_map, pipeline, List.length_append, List.length_cons] at hall
    omega
  rcases hrest with ⟨f, rfl, rfl⟩ | ⟨made, rfl, -⟩
  · rw [hturns] at hended
    simp [relayed] at hended
  · refine ⟨⟨q.cache, given, .ok made⟩, made, ?_, rfl⟩
    rw [hturns, ← hlength, List.getElem?_append_right (Nat.le_refl _), Nat.sub_self]
    rfl

/-- The cache has its turn after the response on what those behind it have made of the response. -/
theorem turn_after (h : a.Happens call w q.pipeline ctx)
    (ht : a.trace.afters[q.back.length]? = some t) :
    ∃ c v ts ts', relayed ctx a.trace.befores = .ok c ∧ Brackets.Responds c a.trace v ∧
      (∀ u, a.outcome = .ok u → u = v) ∧ a.trace.afters = ts ++ t :: ts' ∧
      Relay q.back.reverse { c with result := v } ts ∧
      relayed { c with result := v } ts = .ok t.given := by
  rcases h.brackets.afters with ⟨hnone, -⟩ | ⟨c, v, hended, hresponds, hrelay, houtcome⟩
  · rw [hnone] at ht
    exact nomatch ht
  rw [reverse_middlewares] at hrelay
  rcases hrelay.split with ⟨-, hnone⟩ | ⟨ts, given, ended, ts', hturns, hlength, hback, hgiven, -⟩
  · rw [List.length_reverse] at hnone
    exact nomatch hnone.symm.trans ht
  rw [hturns, ← List.length_reverse, ← hlength, List.getElem?_append_right (Nat.le_refl _),
    Nat.sub_self] at ht
  obtain rfl := Option.some.inj ht
  refine ⟨c, v, ts, ts', hended, hresponds, fun u hu => ?_, hturns, hback, hgiven⟩
  rw [hu] at houtcome
  rcases hended : relayed { c with result := v } a.trace.afters with f | c'
  · rw [hended] at houtcome
    exact nomatch houtcome
  · rw [hended] at houtcome
    exact Except.ok.inj houtcome

/-! ### Between attempts -/

/-- What lies between two attempts leaves the responses alone. -/
theorem responses_intermission {policy : RetryPolicy σ} (h : policy.Spares q.cell) {s : Setback}
    {left number : Nat} {ended : Except Failure Unit}
    (hexec : (s.intermission policy left number).exec w st = (ended, st')) :
    q.responses st' = q.responses st := by
  suffices hkept : (s.intermission policy left number).Spares q.cell by
    have hsame := hkept w st
    rwa [hexec] at hsame
  have hresume : (s.resume policy number).Spares q.cell :=
    keeps_resume (fun _ _ => rfl) s policy number
  refine hresume.bind fun wait => ?_
  cases left with
  | zero => exact .throw s.failure
  | succ left =>
    refine (Run.Keeps.ofArithmetic _).bind fun delay => ?_
    have htell : (policy.tell s.failure number delay).Spares q.cell := by
      unfold RetryPolicy.tell
      cases hnotify : policy.onRetry with
      | none => exact .pure ()
      | some notify => exact h notify hnotify s.failure number delay
    exact Run.Keeps.bind (.modify fun _ => rfl) fun _ => htell.bind fun _ =>
      Run.Keeps.bind .read fun _ => .modify fun _ => rfl

end CachedPipeline

end Pipeline

end Colloquy
