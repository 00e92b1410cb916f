import Colloquy.Proofs.Cache.Passage
import Colloquy.Proofs.Source.Delivery

/-!
# Rejected responses

A cache drops the response that has led to rejected content, by the key of the request.  The key under which it
has stored the response is that of the request only if the middleware in between keep what requests are told
apart by.  Then a rejected response is gone before the next attempt, and this one asks the generator, unless
its own request, which was not made in this run before, was answered in an earlier one (`getContent_forgets`).
Where the context is edited on its way to the cache, the response survives its rejection, and is handed out
once more (`getContent_repeats_rejected`).
-/

namespace Colloquy

variable {σ : Type}

/-! ### Requests -/

namespace Context

/-- What a cache makes of a context: its key, its mark, and the response that is planted in it. -/
def request (ctx : Context) : String × Bool × Content :=
  (ctx.cacheKey, ctx.usesCache, ctx.auxValue cachedKey)

/-- Neither the attempts at a request nor its response tell it apart. -/
theorem request_evolve (ctx : Context) (n : Nat) (f : Option Failure) (v : Content) :
    ({ ctx with attempt := n, previous := f, result := v } : Context).request = ctx.request := by
  have hidentity :
      ({ ctx with attempt := n, previous := f, result := v } : Context).identity = ctx.identity := rfl
  have husesCache :
      ({ ctx with attempt := n, previous := f, result := v } : Context).usesCache = ctx.usesCache := rfl
  rw [request, request, cacheKey, cacheKey, hidentity, husesCache]
  rfl

theorem request_attempt (ctx : Context) (n : Nat) (f : Option Failure) :
    ({ ctx with attempt := n, previous := f } : Context).request = ctx.request :=
  ctx.request_evolve n f ctx.result

theorem cacheKey_attempt (ctx : Context) (n : Nat) (f : Option Failure) :
    ({ ctx with attempt := n, previous := f } : Context).cacheKey = ctx.cacheKey :=
  congrArg Prod.fst (ctx.request_attempt n f)

theorem cacheKey_plant (ctx : Context) (c : Content) : (ctx.plant c).cacheKey = ctx.cacheKey := by
  have hcached : cachedKey ≠ feedbackKey := by decide
  have hmark : useCacheKey ≠ feedbackKey := by decide
  have hidentity : (ctx.plant c).identity = ctx.identity := by
    simp [identity, plant, withAux, auxValue, Assoc.overlay, Assoc.lookup_insert, hcached, hmark]
  rw [cacheKey, cacheKey, hidentity]

end Context

namespace Pipeline.CachedPipeline

/-- The other middleware keep what requests are told apart by. -/
structure Discreet (q : CachedPipeline σ) : Prop where
  keyOf : q.keyOf = Context.cacheKey
  before : ∀ m ∈ q.front ++ q.back, ∀ ctx, (m.before ctx).Ensures fun c => c.request = ctx.request
  after : ∀ m ∈ q.front ++ q.back, ∀ ctx, (m.after ctx).Ensures fun c => c.request = ctx.request
  onError : ∀ m ∈ q.front ++ q.back, ∀ ctx f, (m.onError ctx f).Ensures fun mended =>
    ∀ c ∈ mended, c.request = ctx.request

variable {q : CachedPipeline σ} {call : Context → Run σ Content} {w : Surroundings σ} {a : Pass σ}
  {ctx c : Context} {key : String} {st st' : State σ} {passes : List (Pass σ)}

/-! ### Attempts -/

/-- The cache answers the context itself or plants a response in it. -/
theorem ensures_before_cache (ctx : Context) :
    (q.cache.before ctx).Ensures fun c => c = ctx ∨ ∃ v, c = ctx.plant v := by
  intro w s c s' hexec
  obtain ⟨st', hplant, -, -⟩ := Middleware.exec_cachePlant q.name q.cell q.life
    (q.exec_key ctx w s)
  have hc := Except.ok.inj (Prod.mk.inj (hexec.symm.trans hplant)).1
  rw [hc]
  split
  · exact .inr ⟨_, rfl⟩
  · exact .inl rfl

variable (hq : q.Discreet)
include hq

/-- All hooks before the call keep the key. -/
theorem cacheKey_befores (h : a.Happens call w q.pipeline ctx)
    (hc : relayed ctx a.trace.befores = .ok c) : c.cacheKey = ctx.cacheKey := by
  refine h.brackets.befores.keeps (g := Context.cacheKey) (fun t ht c hc => ?_) hc
  have hm := h.brackets.befores.order.subset (List.mem_map_of_mem ht)
  by_cases hcache : t.middleware = q.cache
  · have hmade := h.of_before ht (hcache ▸ ensures_before_cache t.given) hc
    rcases hmade with rfl | ⟨v, rfl⟩
    · rfl
    · exact t.given.cacheKey_plant v
  · have hm : t.middleware ∈ q.front ++ q.back := by
      simpa [pipeline, hcache] using hm
    exact congrArg Prod.fst (h.of_before ht (hq.before _ hm t.given) hc)

/-- What is stored in an attempt is stored under the key of its request, and comes from the call. -/
theorem request_of_stores (h : a.Happens call w q.pipeline ctx) {v : Content}
    (hstores : q.Stores a key v) : key = ctx.cacheKey ∧ a.trace.call ≠ none := by
  obtain ⟨t, ht, hmark, -, rfl⟩ := hstores
  obtain ⟨c, v, ts, ts', hended, hresponds, -, hturns, hback, hgiven⟩ := turn_after h ht
  have hkept : t.given.request = c.request := by
    refine (hback.keeps (g := Context.request) (fun t ht c hc => ?_) hgiven).trans
      (c.request_evolve c.attempt c.previous v)
    have hm := List.mem_reverse.1 (hback.order.subset (List.mem_map_of_mem ht))
    have hkeeps := hq.after _ (List.mem_append_right _ hm) t.given
    exact h.of_after (hturns ▸ List.mem_append_left _ ht) hkeeps hc
  constructor
  · rw [hq.keyOf, ← cacheKey_befores hq h hended]
    exact congrArg Prod.fst hkept
  · have hunmarked : c.usesCache = false := by
      rw [← hmark]
      exact (congrArg (·.2.1) hkept).symm
    rcases hresponds with ⟨-, hcall⟩ | ⟨hmarked, -⟩
    · rw [hcall]
      exact Option.some_ne_none _
    · exact nomatch hunmarked.symm.trans hmarked

/-- An answer without a call is what the cache has found for the request. -/
theorem finds_of_replayed (h : a.Happens call w q.pipeline ctx) (hmark : ctx.usesCache = false)
    (hcall : a.trace.call = none) {u : Content} (hu : a.outcome = .ok u) :
    q.Finds a ctx.cacheKey u := by
  have hbrackets := h.brackets
  rw [hu] at hbrackets
  obtain ⟨c, hended, hmarked, rfl⟩ := hbrackets.replayed_of_ok hcall
  obtain ⟨t, made, ht, hmade⟩ := exists_turn_before h hended
  obtain ⟨ts, ts', hturns, hcache, hfront, hgiven, hrest⟩ := turn_before h ht
  obtain ⟨hback, hrelayed⟩ := hrest made hmade
  have hbefore : t.given.request = ctx.request := by
    refine hfront.keeps (g := Context.request) (fun t ht c hc => ?_) hgiven
    have hm := hfront.order.subset (List.mem_map_of_mem ht)
    have hkeeps := hq.before _ (List.mem_append_left _ hm) t.given
    exact h.of_before (hturns ▸ List.mem_append_left _ ht) hkeeps hc
  have hbehind : c.request = made.request := by
    rw [hrelayed] at hended
    refine hback.keeps (g := Context.request) (fun t ht c hc => ?_) hended
    have hm := hback.order.subset (List.mem_map_of_mem ht)
    have hkeeps := hq.before _ (List.mem_append_right _ hm) t.given
    exact h.of_before (hturns ▸ List.mem_append_right _ (List.mem_cons_of_mem _ ht)) hkeeps hc
  have hunmarked : t.given.usesCache = false := (congrArg (·.2.1) hbefore).trans hmark
  have hmem : t ∈ a.trace.befores := by
    rw [hturns]
    exact List.mem_append_right _ (List.mem_cons_self ..)
  rcases h.of_before hmem (hcache ▸ ensures_before_cache t.given) hmade with rfl | ⟨v, rfl⟩
  · -- Without a response in the cache nothing could have marked the context.
    have hsame : c.usesCache = t.given.usesCache := congrArg (·.2.1) hbehind
    rw [hunmarked, hmarked] at hsame
    exact nomatch hsame
  · have hvalue : c.auxValue Context.cachedKey = v :=
      (congrArg (·.2.2) hbehind).trans (auxValue_plant t.given v)
    rw [hvalue]
    refine ⟨t, ht, hunmarked, hmade, ?_⟩
    rw [hq.keyOf]
    exact congrArg Prod.fst hbefore

/-- A context that mends a failure is for the same request. -/
theorem request_mended (h : a.Happens call w q.pipeline ctx) {f : Failure}
    (hf : a.outcome = .error f) : ∀ c ∈ (a.setback f).mended, c.request = ctx.request := by
  intro c hc
  have hoffered := h.offered f hf
  have hsettled : a.settled = .ok (some c) := by
    unfold Pass.setback at hc
    cases hs : a.settled with
    | error g =>
      rw [hs] at hc
      exact absurd hc (Option.not_mem_none c)
    | ok mended =>
      rw [hs] at hc
      exact congrArg Except.ok hc
  have hended := hoffered.ended_eq
  rw [hsettled] at hended
  cases hlast : a.trace.offers.getLast? with
  | none =>
    rw [hlast] at hended
    exact absurd (Except.ok.inj hended) (Option.some_ne_none c)
  | some o =>
    rw [hlast] at hended
    have ho := List.mem_of_getLast? hlast
    have hvisit : Visit.offer o ∈ a.trace.visits := by
      simp [Trace.visits, ho]
    obtain ⟨s, s', s₁, hexec, -⟩ := h.walks.happens _ hvisit
    rw [← show Except.ok (some c) = o.ended from hended, (hoffered.same o ho).1] at hexec
    have hm := hoffered.order.subset (List.mem_map_of_mem ho)
    by_cases hcache : o.middleware = q.cache
    · rw [hcache] at hexec
      exact absurd (Except.ok.inj (Prod.mk.inj hexec).1) (Option.some_ne_none c).symm
    · have hm : o.middleware ∈ q.front ++ q.back := by
        simpa [pipeline, hcache] using hm
      exact hq.onError _ hm ctx o.failure w s (some c) s₁ hexec c rfl

/-! ### Runs of attempts -/

omit hq in
/-- What attempts at a request make of the cache: all that it holds after them it held before, or was stored under
the key of the request after a call.  If there was no call, it held before what they answer. -/
structure Serves (q : CachedPipeline σ) (key : String) (st : State σ) (passes : List (Pass σ))
    (res : Except Failure Content × State σ) : Prop where
  nodup : (Assoc.keys (q.responses res.2)).Nodup
  held : ∀ k entry, Assoc.lookup k (q.responses res.2) = some entry →
    Assoc.lookup k (q.responses st) = some entry ∨ k = key ∧ ∃ a ∈ passes, a.trace.call ≠ none
  replayed : (∀ a ∈ passes, a.trace.call = none) → ∀ u, res.1 = .ok u →
    ∃ stored, Assoc.lookup key (q.responses st) = some (u, stored)

/-- One attempt. -/
theorem serves_pass (h : a.Happens call w q.pipeline ctx) (hmark : ctx.usesCache = false)
    (hcall : ∀ ctx, (call ctx).Spares q.cell) (hnodup : (Assoc.keys (q.responses a.entered)).Nodup) :
    q.Serves ctx.cacheKey a.entered [a] (a.outcome, a.left) := by
  obtain ⟨hafter, hheld, hfinds⟩ := q.held h hcall hnodup
  refine ⟨hafter, fun k entry hentry => (hheld k entry hentry).imp_right fun hstores => ?_, ?_⟩
  · obtain ⟨hkey, hmade⟩ := request_of_stores hq h hstores
    exact ⟨hkey, a, List.mem_singleton_self a, hmade⟩
  · intro hnone u hu
    exact hfinds _ u (finds_of_replayed hq h hmark (hnone a (List.mem_singleton_self a)) hu)

omit hq in
/-- Attempts after an attempt that has failed. -/
theorem Serves.cons {st₁ : State σ} {res : Except Failure Content × State σ} {f : Failure}
    (h : q.Serves key st [a] (.error f, st₁)) (hrest : q.Serves key st₁ passes res) :
    q.Serves key st (a :: passes) res where
  nodup := hrest.nodup
  held := by
    intro k entry hentry
    rcases hrest.held k entry hentry with hbetween | ⟨rfl, b, hb, hmade⟩
    · refine (h.held k entry hbetween).imp_right fun ⟨hkey, b, hb, hmade⟩ => ⟨hkey, b, ?_, hmade⟩
      rw [List.mem_singleton.1 hb]
      exact List.mem_cons_self ..
    · exact .inr ⟨rfl, b, List.mem_cons_of_mem _ hb, hmade⟩
  replayed := by
    intro hnone u hu
    rw [List.forall_mem_cons] at hnone
    obtain ⟨stored, hentry⟩ := hrest.replayed hnone.2 u hu
    -- Nothing was stored before, either, as there was no call.
    rcases h.held key _ hentry with hbefore | ⟨-, b, hb, hmade⟩
    · exact ⟨stored, hbefore⟩
    · rw [List.mem_singleton.1 hb] at hmade
      exact absurd hnone.1 hmade

omit hq in
theorem Serves.of_eq {st₁ st₂ : State σ} {outcome outcome' : Except Failure Content}
    (h : q.Serves key st passes (outcome, st₁)) (hsame : q.responses st₂ = q.responses st₁)
    (houtcome : ∀ u, outcome' = .ok u → outcome = .ok u) : q.Serves key st passes (outcome', st₂) where
  nodup := by
    show (Assoc.keys (q.responses st₂)).Nodup
    rw [hsame]
    exact h.nodup
  held := by
    show ∀ k entry, Assoc.lookup k (q.responses st₂) = some entry → _
    rw [hsame]
    exact h.held
  replayed hnone u hu := h.replayed hnone u (houtcome u hu)

/-- All attempts of a run are for the same request. -/
theorem serves_passes {policy : RetryPolicy σ} (hcall : ∀ ctx, (call ctx).Spares q.cell)
    (hpolicy : policy.Spares q.cell) {left number : Nat} {current : Context}
    {previous : Option Failure} {res : Except Failure Content × State σ}
    (h : Passes call w q.pipeline policy left number current previous st passes res) :
    current.usesCache = false → (Assoc.keys (q.responses st)).Nodup →
      q.Serves current.cacheKey st passes res := by
  induction h with
  | done ha hok =>
    intro hmark hnodup
    have hserves := serves_pass hq ha hmark hcall hnodup
    rwa [hok, Context.cacheKey_attempt] at hserves
  | stopped ha hf hstop =>
    intro hmark hnodup
    have hserves := serves_pass hq ha hmark hcall hnodup
    rw [Context.cacheKey_attempt] at hserves
    exact hserves.of_eq (responses_intermission hpolicy hstop) nofun
  | again ha hf hgo hrest ih =>
    rename_i number current previous a f st₁ rest res
    intro hmark hnodup
    have hserves := serves_pass hq ha hmark hcall hnodup
    rw [hf, Context.cacheKey_attempt] at hserves
    have hpaused : q.Serves current.cacheKey a.entered [a] (.error f, st₁) :=
      hserves.of_eq (responses_intermission hpolicy hgo) fun _ hu => hu
    have hnext : ((a.setback f).mended.getD current).request = current.request := by
      cases hmended : (a.setback f).mended with
      | none => rfl
      | some c => exact (request_mended hq ha hf c hmended).trans (current.request_attempt _ _)
    have hlater := ih ((congrArg (·.2.1) hnext).trans hmark) hpaused.nodup
    rw [show ((a.setback f).mended.getD current).cacheKey = current.cacheKey from
      congrArg Prod.fst hnext] at hlater
    exact hpaused.cons hlater

/-! ### Content that is handed on or rejected -/

omit hq in
/-- No middleware touches the cache when it transforms content, the cache itself included. -/
theorem spares_transform (content : Content) (ctx : Context) :
    ∀ m ∈ q.pipeline.middlewares, (m.transform content ctx).Spares q.cell := by
  intro m hm
  rcases List.mem_append.1 hm with hm | hm
  · exact (spares_front m hm).transform content ctx
  rcases List.mem_cons.1 hm with rfl | hm
  · exact .pure content
  · exact (spares_back m hm).transform content ctx

omit hq in
/-- If no middleware fails when it is told of a rejection, the cache has dropped the response to the request. -/
theorem responses_rejected {ms : List (Middleware σ)} (hms : ∀ m ∈ ms, m.Spares q.cell)
    (h : (forM (ms ++ q.cache :: q.back) fun m => m.onRejected ctx : Run σ PUnit).exec w st =
      (.ok ⟨⟩, st')) : q.responses st' = TimedMap.evict (q.keyOf ctx) (q.responses st) := by
  induction ms generalizing st with
  | nil =>
    obtain ⟨st₁, hexec, -, hcell⟩ := Middleware.exec_cacheEvict q.name q.cell
      (q.exec_key ctx w st)
    have hevict : (q.cache.onRejected ctx).exec w st = (.ok (), st₁) := hexec
    rw [List.nil_append, List.forM_cons, Run.exec_bind_ok _ hevict] at h
    have hback : (forM q.back fun m => m.onRejected ctx : Run σ PUnit).Spares q.cell :=
      Run.keeps_iff_maintains.2 fun responses =>
        .forM fun m hm => (spares_back m hm responses).onRejected ctx
    have hsame := hback w st₁
    rw [h] at hsame
    exact hsame.trans hcell
  | cons m rest ih =>
    rw [List.forall_mem_cons] at hms
    rw [List.cons_append, List.forM_cons] at h
    obtain ⟨_, st₁, hfirst, hrest⟩ := Run.exec_of_bind_ok h
    have hsame := hms.1.onRejected ctx w st
    rw [hfirst] at hsame
    rw [ih hms.2 hrest]
    exact congrArg (TimedMap.evict (q.keyOf ctx)) hsame

end Pipeline.CachedPipeline

/-! ### Attempts at content -/

open Pipeline (CachedPipeline Passes)

namespace Source

/-- A source whose pipeline has a cache, which nothing that was handed over to the source touches. -/
structure Secludes (q : CachedPipeline σ) (src : Source σ) : Prop where
  pipeline : src.policy.pipeline = q.pipeline
  generate : ∀ s feedback, (generate src.origin s feedback).Spares q.cell
  validator : ∀ v ∈ src.policy.validator, ∀ responses,
    Validator.AllMaintain (·.caches.get q.cell = responses) v.functions
  retry : src.policy.retry.Spares q.cell

/-- The key of the request that an attempt with some feedback makes. -/
def requestKey (src : Source σ) (s : Session) (feedback : Option String) : String :=
  (src.contextFor s feedback).cacheKey

variable {src : Source σ} {q : CachedPipeline σ} {w : Surroundings σ} {s : Session}
  {feedback : Option String} {st st₁ : State σ}

variable (hsrc : src.Secludes q)
include hsrc

/-- A response is the answer of a run of attempts. -/
theorem exists_serves (hq : q.Discreet) {raw : Content}
    (hnodup : (Assoc.keys (q.responses st)).Nodup)
    (h : (src.response s feedback).exec w st = (.ok raw, st₁)) :
    ∃ limit passes, src.policy.retry.attempts = .ok limit ∧
      Passes (fun ctx => Source.generate src.origin ctx.session feedback) w q.pipeline src.policy.retry
        (limit - 1) 1 (src.contextFor s feedback) none st passes (.ok raw, st₁) ∧
      q.Serves (src.requestKey s feedback) st passes (.ok raw, st₁) := by
  obtain ⟨limit, passes, hlimit, hpasses⟩ := passes_of_response h
  rw [hsrc.pipeline] at hpasses
  have hcall : ∀ ctx : Context, (src.callFor feedback ctx).Spares q.cell :=
    fun ctx => hsrc.generate ctx.session feedback
  exact ⟨limit, passes, hlimit, hpasses, CachedPipeline.serves_passes hq hcall hsrc.retry hpasses
    (usesCache_contextFor src s feedback) hnodup⟩

theorem responses_transformation {raw transformed : Content}
    (h : (src.transformation s feedback raw).exec w st = (.ok transformed, st₁)) :
    q.responses st₁ = q.responses st := by
  have hkept : (src.transformation s feedback raw).Spares q.cell := by
    rw [transformation, hsrc.pipeline]
    exact Run.keeps_iff_maintains.2 fun responses => .foldlM (fun m hm content =>
      Run.keeps_iff_maintains.1 (CachedPipeline.spares_transform content _ m hm) responses) _
  have hsame := hkept w st
  rwa [h] at hsame

omit hsrc in
theorem responses_inspects {candidate content : Content} {own : Option Verdict}
    (h : src.Inspects w candidate st own content st₁) : q.responses st₁ = q.responses st := by
  have hsame := keeps_inspect (g := q.responses) (fun _ _ _ _ => rfl) (fun _ _ => rfl) src.origin candidate w st
  rwa [h.1] at hsame

theorem responses_judges {candidate : Content} {outcome : Except Failure (Verdict × Content)}
    (h : src.Judges w s candidate st outcome st₁) : q.responses st₁ = q.responses st := by
  cases h with
  | refused hinspect _ => exact responses_inspects hinspect
  | unvalidated hinspect _ _ => exact responses_inspects hinspect
  | @validated _ _ st₂ _ validator _ hinspect _ hsome hjudge =>
    have hkept : (validator.judge candidate.text s).Spares q.cell :=
      Run.keeps_iff_maintains.2 fun responses =>
        validator.maintains_judge (hsrc.validator validator hsome responses) candidate.text s
    have hsame := hkept w st₂
    rw [hjudge] at hsame
    exact hsame.trans (responses_inspects hinspect)

/-- After a rejection the cache holds no response to the request, and no new one to any other. -/
theorem forgets_of_rejected (hq : q.Discreet) {r : Round σ}
    (h : src.Ends w s r.feedback r.entered r.outcome r.left) (hrejected : r.IsRejected)
    (hnodup : (Assoc.keys (q.responses r.entered)).Nodup) :
    (Assoc.keys (q.responses r.left)).Nodup ∧
      ∀ key entry, Assoc.lookup key (q.responses r.left) = some entry →
        Assoc.lookup key (q.responses r.entered) = some entry ∧ key ≠ src.requestKey s r.feedback := by
  obtain ⟨verdict, content, hout, hinvalid⟩ := hrejected
  rw [hout] at h
  generalize houtcome : (Except.ok (verdict, content) : Except Failure (Verdict × Content)) = outcome at h
  generalize hfeedback : r.feedback = feedback at h
  cases h with
  | unproduced _ => cases houtcome
  | unjudged _ _ => cases houtcome
  | accepted _ _ hvalid =>
    obtain ⟨rfl, rfl⟩ := Prod.mk.inj (Except.ok.inj houtcome)
    exact absurd hvalid (hinvalid ▸ Bool.false_ne_true)
  | @rejected _ _ _ st₁ st₂ _ told hproduce hjudge _ htell =>
    obtain ⟨raw, generated, transformed, hresponse, htransform, -⟩ := hproduce
    obtain ⟨limit, passes, -, -, hserves⟩ := exists_serves hsrc hq hnodup hresponse
    have hjudged : q.responses st₂ = q.responses generated :=
      (responses_judges hsrc hjudge).trans (responses_transformation hsrc htransform)
    cases told with
    | error f => cases houtcome
    | ok u =>
      rw [rejection, hsrc.pipeline] at htell
      have hevicted := CachedPipeline.responses_rejected CachedPipeline.spares_front htell
      rw [hjudged, TimedMap.evict, hq.keyOf] at hevicted
      have hnodup' : (Assoc.keys (q.responses generated)).Nodup := hserves.nodup
      rw [hevicted]
      refine ⟨?_, fun key entry hentry => ?_⟩
      · rw [Assoc.erase_eq_filter hnodup']
        exact Assoc.nodup_keys_filter hnodup' _
      · rw [Assoc.lookup_erase hnodup'] at hentry
        by_cases hkey : (src.contextFor s feedback).cacheKey = key
        · rw [if_pos hkey] at hentry
          exact absurd hentry.symm (Option.some_ne_none entry)
        · rw [if_neg hkey] at hentry
          rcases hserves.held key entry hentry with hbefore | ⟨rfl, -⟩
          · exact ⟨hbefore, Ne.symm hkey⟩
          · exact absurd rfl hkey

/-! ### Runs -/

/-- What the cache holds when an attempt begins it held before the run, and not for a request of an attempt that
was rejected so far. -/
theorem held_of_rounds (hq : q.Discreet) {limit : Nat} {trials : List (Round σ)}
    (h : (src.rounds w s).Chain limit 1 none trials) (hentered : ∀ r ∈ trials.head?, r.entered = st)
    (hnodup : (Assoc.keys (q.responses st)).Nodup) (n : Nat) (hn : n < trials.length) :
    (Assoc.keys (q.responses trials[n].entered)).Nodup ∧
      ∀ key entry, Assoc.lookup key (q.responses trials[n].entered) = some entry →
        Assoc.lookup key (q.responses st) = some entry ∧
          ∀ m (hm : m < n), key ≠ src.requestKey s trials[m].feedback := by
  induction n with
  | zero =>
    rw [hentered trials[0] (by rw [List.head?_eq_getElem?]; exact List.getElem?_eq_getElem hn)]
    exact ⟨hnodup, fun key entry hentry => ⟨hentry, fun m hm => absurd hm (Nat.not_lt_zero m)⟩⟩
  | succ n ih =>
    have hn' : n < trials.length := Nat.lt_of_succ_lt hn
    obtain ⟨hnodup', hheld⟩ := ih hn'
    have hrejected : trials[n].IsRejected := ((h.continues n hn').1 hn).2
    obtain ⟨hleft, hforgets⟩ := forgets_of_rejected hsrc hq (h.starts n hn').2 hrejected hnodup'
    -- The report of the rejection lies in between.
    have hjoin : q.responses trials[n + 1].entered = q.responses trials[n].left := by
      rw [h.joins n hn]
      rfl
    rw [hjoin]
    refine ⟨hleft, fun key entry hentry => ?_⟩
    obtain ⟨hbefore, hkey⟩ := hforgets key entry hentry
    obtain ⟨hfirst, hearlier⟩ := hheld key entry hbefore
    refine ⟨hfirst, fun m hm => ?_⟩
    rcases Nat.lt_succ_iff_lt_or_eq.1 hm with hm | rfl
    · exact hearlier m hm
    · exact hkey

/-- **Rejected responses are forgotten.** In every run, whenever an attempt gets a response, it has asked the
generator for it, or the response was held before the run, for a request that no attempt before it has made. -/
theorem getContent_forgets (hq : q.Discreet) (s : Session) (w : Surroundings σ) (st : State σ)
    (hnodup : (Assoc.keys (q.responses st)).Nodup) :
    ∃ trials last, (src.rounds w s).Chain src.policy.maxAttempts 1 none trials ∧
      (∀ r ∈ trials.head?, r.entered = st) ∧ trials.getLast? = some last ∧
      (src.getContent s).exec w st = last.answer src ∧
      ∀ n (hn : n < trials.length) raw generated,
        (src.response s trials[n].feedback).exec w trials[n].entered = (.ok raw, generated) →
        ∃ limit passes, src.policy.retry.attempts = .ok limit ∧
          Passes (fun ctx => Source.generate src.origin ctx.session trials[n].feedback) w q.pipeline
            src.policy.retry (limit - 1) 1 (src.contextFor s trials[n].feedback) none
            trials[n].entered passes (.ok raw, generated) ∧
          ((∃ a ∈ passes, a.trace.call ≠ none) ∨
            (∃ stored, Assoc.lookup (src.requestKey s trials[n].feedback) (q.responses st) =
                some (raw, stored)) ∧
              ∀ m (hm : m < n), src.requestKey s trials[n].feedback ≠
                src.requestKey s trials[m].feedback) := by
  have hrounds := attemptsAt_rounds src w s (src.policy.maxAttempts - 1) 1 none st
  rw [Nat.sub_add_cancel src.policy.maxAttempts_pos] at hrounds
  obtain ⟨trials, last, hchain, hentered, hlast, hanswer⟩ := hrounds
  refine ⟨trials, last, hchain, hentered, hlast, hanswer, fun n hn raw generated hresponse => ?_⟩
  obtain ⟨hnodup', hheld⟩ := held_of_rounds hsrc hq hchain hentered hnodup n hn
  obtain ⟨limit, passes, hlimit, hpasses, hserves⟩ := exists_serves hsrc hq hnodup' hresponse
  refine ⟨limit, passes, hlimit, hpasses, ?_⟩
  refine or_iff_not_imp_left.2 fun hnone => ?_
  have huncalled : ∀ a ∈ passes, a.trace.call = none := fun a ha =>
    Classical.byContradiction fun hmade => hnone ⟨a, ha, hmade⟩
  obtain ⟨stored, hentry⟩ := hserves.replayed huncalled raw rfl
  obtain ⟨hfirst, hearlier⟩ := hheld _ _ hentry
  exact ⟨⟨stored, hfirst⟩, hearlier⟩

end Source

/-! ### A source whose content is never accepted -/

namespace Source

/-- A pipeline with a cache behind the given middleware. -/
def behind (front : List (Middleware Unit)) (h : ∀ m ∈ front, m.Spares 0)
    (keyOf : Context → String) : CachedPipeline Unit where
  front
  cell := 0
  life := 60.0
  keyOf
  spares := by simpa using h

/-- The first item. -/
def bad : Content := .plain (.str "bad")

/-- A source of two items that is asked twice, as its validator accepts neither of them. -/
def dismissed (p : Pipeline Unit) : Source Unit where
  origin := .list [bad, .plain (.str "good")] false 0
  policy := {
    validator := some (.function (fun _ _ => pure (.verdict { isValid := false })) "never")
    maxAttempts := 2
    raiseOnFailure := false
    pipeline := p }

theorem secludes_dismissed (q : CachedPipeline Unit) : (dismissed q.pipeline).Secludes q where
  pipeline := rfl
  generate _ _ := keeps_nextItem (fun _ _ => rfl) _ _ _
  validator := by
    rintro v ⟨⟩ responses f hf content s
    rw [List.mem_singleton.1 hf]
    exact .pure _
  retry := by
    rintro notify ⟨⟩

/-- A pipeline with nothing but a cache. -/
abbrev onlyCache : CachedPipeline Unit := behind [] Middleware.spares_of_nil Context.cacheKey

/-- With an empty cache and nothing else in the pipeline, every response comes from the generator. -/
theorem getContent_forgets_dismissed : ∃ trials last,
    ((dismissed onlyCache.pipeline).rounds (.alone Unit) {}).Chain 2 1 none trials ∧
    trials.getLast? = some last ∧
    ((dismissed onlyCache.pipeline).getContent {}).exec (.alone Unit) { host := () } =
      last.answer (dismissed onlyCache.pipeline) ∧
    ∀ n (hn : n < trials.length) raw generated,
      ((dismissed onlyCache.pipeline).response {} trials[n].feedback).exec (.alone Unit)
        trials[n].entered = (.ok raw, generated) →
      ∃ limit passes, Passes (fun ctx => Source.generate (dismissed onlyCache.pipeline).origin
          ctx.session trials[n].feedback) (.alone Unit) onlyCache.pipeline
          (dismissed onlyCache.pipeline).policy.retry (limit - 1) 1
          ((dismissed onlyCache.pipeline).contextFor {} trials[n].feedback) none trials[n].entered
          passes (.ok raw, generated) ∧
        ∃ a ∈ passes, a.trace.call ≠ none := by
  have hq : onlyCache.Discreet :=
    ⟨rfl, fun _ hm => absurd hm List.not_mem_nil, fun _ hm => absurd hm List.not_mem_nil,
      fun _ hm => absurd hm List.not_mem_nil⟩
  obtain ⟨trials, last, hchain, -, hlast, hanswer, hresponses⟩ :=
    getContent_forgets (secludes_dismissed onlyCache) hq {} (.alone Unit) { host := () }
      List.nodup_nil
  refine ⟨trials, last, hchain, hlast, hanswer, fun n hn raw generated hresponse => ?_⟩
  obtain ⟨limit, passes, -, hpasses, hcalled | ⟨⟨stored, hentry⟩, -⟩⟩ :=
    hresponses n hn raw generated hresponse
  · exact ⟨limit, passes, hpasses, hcalled⟩
  · cases hentry

/-! ### A hint on the way to the cache -/

/-- A middleware that adds a message to the session of every request. -/
def hinting : Middleware Unit where
  name := "hint"
  priority := -200
  before ctx := pure { ctx with session := ctx.session.append (.user "be good") }

theorem hinting_spares : hinting.Spares 0 := fun _ => {
  before := fun _ => .pure _
  after := .pure
  onError := fun _ _ => .pure none
  transform := fun content _ => .pure content
  onRejected := fun _ => .pure () }

/-- The pipeline in which the hint is added on the way to the cache. -/
def hintingFirst (keyOf : Context → String) : CachedPipeline Unit :=
  behind [hinting] (List.forall_mem_singleton.2 hinting_spares) keyOf

/-- The source over this pipeline. -/
abbrev hintedSource (keyOf : Context → String) : Source Unit :=
  dismissed (hintingFirst keyOf).pipeline

/-- The request as the source makes it. -/
def request : Context := { session := {} }

/-- The request as it reaches the cache. -/
def hinted : Context := { session := { messages := [.user "be good"] } }

/-- The same with the first item as its response. -/
def hintedBad : Context := { hinted with result := bad }

/-- What the cache holds once the first item was stored for the request with the hint. -/
def heldBad (keyOf : Context → String) : TimedMap Float Content :=
  [(keyOf hinted, (bad, 0.0))]

/-- The state after the first item was stored. -/
def afterFirst (keyOf : Context → String) : State Unit where
  cursors := ⟨[(0, 1)]⟩
  caches := ⟨[(0, heldBad keyOf)]⟩
  host := ()

section Repeating

variable {keyOf : Context → String} (hsame : keyOf hintedBad = keyOf hinted)
  (hne : keyOf hinted ≠ keyOf request) {st st' st₁ : State Unit}

theorem exec_produce
    (hattempt : ((hintingFirst keyOf).pipeline.attempt
      (fun ctx => Source.generate (hintedSource keyOf).origin ctx.session none) request).exec
      (.alone Unit) st = (.ok bad, st₁)) :
    ((hintedSource keyOf).produce request none).exec (.alone Unit) st = (.ok bad, st₁) := by
  have hcount : (hintedSource keyOf).policy.retry.attempts = .ok 1 := rfl
  have hexecute : ((hintedSource keyOf).policy.pipeline.execute
      (fun ctx => Source.generate (hintedSource keyOf).origin ctx.session none) request
      (hintedSource keyOf).policy.retry).exec (.alone Unit) st = (.ok bad, st₁) :=
    Pipeline.execute_of_attempt hcount hattempt
  exact Run.exec_bind_ok _ hexecute

include hsame in
theorem produce_first : ((hintedSource keyOf).produce request none).exec (.alone Unit)
    { host := () } = (.ok bad, afterFirst keyOf) := by
  have hattempt : ((hintingFirst keyOf).pipeline.attempt
      (fun ctx => Source.generate (hintedSource keyOf).origin ctx.session none) request).exec
      (.alone Unit) { host := () } = (.ok bad, { host := (), cursors := ⟨[(0, 1)]⟩, caches :=
        ⟨[(0, [(keyOf hintedBad, (bad, 0.0))])]⟩ }) := rfl
  rw [hsame] at hattempt
  exact exec_produce hattempt

/-- The response that is held is planted in place of the next item. -/
theorem produce_again (st : State Unit) (hcell : st.caches.get 0 = heldBad keyOf) (hclock : st.clock = 0.0) :
    ∃ st', ((hintedSource keyOf).produce request none).exec (.alone Unit) st = (.ok bad, st') ∧
      st'.caches.get 0 = heldBad keyOf ∧ st'.clock = 0.0 := by
  have hyoung : (0.0 : Float) - 0.0 < 60.0 := by decide +kernel
  have hfind : TimedMap.find (60.0 : Float) 0.0 (keyOf hinted) (heldBad keyOf) = .fresh bad := by
    rw [heldBad, TimedMap.find, Assoc.lookup, if_pos rfl]
    exact if_pos hyoung
  obtain ⟨st', hplant, hclock', hcell'⟩ := Middleware.exec_cachePlant "cache" 0 60.0
    ((hintingFirst keyOf).exec_key hinted (.alone Unit) st)
  have hkeyOf : (hintingFirst keyOf).keyOf hinted = keyOf hinted := rfl
  rw [hclock, hcell, hkeyOf, hfind] at hplant
  rw [hclock, hcell, hkeyOf, TimedMap.afterFind, hfind] at hcell'
  have hbefore : ((hintingFirst keyOf).pipeline.before request).exec (.alone Unit) st =
      (.ok (hinted.plant bad), st') := Run.exec_bind_ok _ hplant
  have hattempt : ((hintingFirst keyOf).pipeline.attempt
      (fun ctx => Source.generate (hintedSource keyOf).origin ctx.session none) request).exec
      (.alone Unit) st = (.ok bad, st') := by
    rw [Pipeline.attempt]
    exact Run.exec_bind_ok _ hbefore
  exact ⟨st', exec_produce hattempt, hcell', hclock'.trans hclock⟩

include hne in
/-- The rejection drops nothing, as the request without the hint has another key. -/
theorem attempt_of_produce
    (hproduce : ((hintedSource keyOf).produce request none).exec (.alone Unit) st = (.ok bad, st'))
    (hcell : st'.caches.get 0 = heldBad keyOf) (hclock : st'.clock = 0.0) :
    ∃ st₁, ((hintedSource keyOf).attempt {} none).exec (.alone Unit) st =
        (.ok ({ isValid := false }, bad), st₁) ∧ st₁.caches.get 0 = heldBad keyOf ∧
      st₁.clock = 0.0 := by
  obtain ⟨st₁, hevict, hclock', hcell'⟩ := Middleware.exec_cacheEvict "cache" 0
    ((hintingFirst keyOf).exec_key request (.alone Unit) st')
  have hkept : TimedMap.evict (keyOf request) (heldBad keyOf) = heldBad keyOf := by
    rw [TimedMap.evict, heldBad, Assoc.erase, if_neg hne]
    rfl
  refine ⟨st₁, ?_, ?_, hclock'.trans hclock⟩
  · rw [attempt, show (hintedSource keyOf).contextFor {} none = request from rfl,
      Run.exec_bind_ok _ hproduce]
    have hreject : ((hintingFirst keyOf).pipeline.reject request).exec (.alone Unit) st' =
        (.ok (), st₁) := by
      have hrun : ((hintingFirst keyOf).cache.onRejected request).exec (.alone Unit) st' =
        (.ok (), st₁) := hevict
      exact Run.exec_bind_ok _ hrun
    exact Run.exec_bind_ok _ hreject
  · rw [hcell', hcell]
    exact hkept

include hsame hne in
/-- The first item is handed out in the second attempt, too. -/
theorem getContent_of_ne :
    (((hintedSource keyOf).getContent {}).exec (.alone Unit) { host := () }).1 = .ok bad := by
  obtain ⟨st₁, hfirst, hcell, hclock⟩ := attempt_of_produce hne (produce_first hsame) rfl rfl
  obtain ⟨st₂, hproduce, hcell, hclock⟩ := produce_again { st₁ with
    events := st₁.events ++ [.revalidating "ListSource" 1 2 none] } hcell hclock
  obtain ⟨st₃, hsecond, -, -⟩ := attempt_of_produce hne hproduce hcell hclock
  have hlast : (((hintedSource keyOf).attemptsAt {} 0 2 none).exec (.alone Unit) { st₁ with
      events := st₁.events ++ [.revalidating "ListSource" 1 2 none] }).1 = .ok bad := by
    rw [exec_attemptsAt_ok hsecond]
    rfl
  rw [show (hintedSource keyOf).getContent {} = (hintedSource keyOf).attemptsAt {} 1 1 none from rfl,
    exec_attemptsAt_ok hfirst]
  exact hlast

end Repeating

theorem cacheKey_hinted_ne : hinted.cacheKey ≠ request.cacheKey := by decide +kernel

/-- **A rejected response is repeated.**  The response to the request with the hint is not dropped by the key of
the request without it, so the second attempt hands out the first item again, and never gets to the other one. -/
theorem getContent_repeats_rejected :
    (((hintedSource Context.cacheKey).getContent {}).exec (.alone Unit) { host := () }).1 =
      .ok bad :=
  getContent_of_ne (congrArg Prod.fst (hinted.request_evolve 1 none bad)) cacheKey_hinted_ne

end Source

end Colloquy
