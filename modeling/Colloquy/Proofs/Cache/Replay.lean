import Colloquy.Proofs.Cache.Passage

/-!
# What a replayed response is

A call that a cache answers should get what the call before it has got, which the response was stored from.  A
cache stores what its context carries at its place behind other hooks, though, and a call is answered with
the response itself (`execute_replays_edited`).  So the two are the same only where the hooks between the call
and the cache leave the response as it is: then over any history of a pipeline, whatever the cache finds was
stored in an earlier attempt, and neither attempt can answer anything else (`replays_answer`).
-/

namespace Colloquy

variable {σ : Type}

namespace Pipeline.CachedPipeline

variable {q : CachedPipeline σ} {call : Context → Run σ Content} {w : Surroundings σ} {a b : Pass σ}
  {ctx : Context} {key : String} {c : Content} {st st' : State σ} {as more earlier : List (Pass σ)}

/-! ### Histories -/

/-- The attempts of a pipeline whose cache was empty at first, and the states that they lead to: calls are executed
one after the other, and in between anything happens that leaves the cache alone. -/
inductive Served (q : CachedPipeline σ) (w : Surroundings σ) : List (Pass σ) → State σ → Prop
  | empty {st : State σ} (h : q.responses st = []) : Served q w [] st
  | elapse {as : List (Pass σ)} {st st' : State σ} (h : Served q w as st)
    (hsame : q.responses st' = q.responses st) : Served q w as st'
  | execute {as more : List (Pass σ)} {st st' : State σ} {call : Context → Run σ Content}
    {ctx : Context} {policy : RetryPolicy σ} {left : Nat} {outcome : Except Failure Content}
    (h : Served q w as st) (hcall : ∀ ctx, (call ctx).Spares q.cell)
    (hpolicy : policy.Spares q.cell)
    (hrun : Passes call w q.pipeline policy left 1 ctx none st more (outcome, st')) :
    Served q w (as ++ more) st'

/-- Whatever the cache finds was stored in an earlier attempt. -/
def Sourced (q : CachedPipeline σ) (as : List (Pass σ)) : Prop :=
  ∀ earlier b later, as = earlier ++ b :: later → ∀ key c, q.Finds b key c →
    ∃ a ∈ earlier, q.Stores a key c

/-- The attempts so far account for what is held: it was stored in one of them, and so was what was found. -/
structure Accounts (q : CachedPipeline σ) (as : List (Pass σ)) (st : State σ) : Prop where
  nodup : (Assoc.keys (q.responses st)).Nodup
  stored : ∀ key entry, Assoc.lookup key (q.responses st) = some entry →
    ∃ a ∈ as, q.Stores a key entry.1
  sourced : q.Sourced as

theorem Sourced.snoc (h : q.Sourced as)
    (hb : ∀ key c, q.Finds b key c → ∃ a ∈ as, q.Stores a key c) : q.Sourced (as ++ [b]) := by
  intro earlier b' later heq key c hfinds
  rcases List.eq_nil_or_concat later with rfl | ⟨rest, last, rfl⟩
  · obtain ⟨rfl, hlast⟩ := List.append_inj' heq rfl
    obtain rfl := (List.cons.inj hlast).1
    exact hb key c hfinds
  · rw [List.concat_eq_append, ← List.cons_append, ← List.append_assoc] at heq
    obtain ⟨rfl, -⟩ := List.append_inj' heq rfl
    exact h earlier b' rest rfl key c hfinds

namespace Accounts

/-- The responses are what is accounted for. -/
theorem of_eq (h : q.Accounts as st) (hsame : q.responses st' = q.responses st) : q.Accounts as st' where
  nodup := by
    rw [hsame]
    exact h.nodup
  stored := by
    rw [hsame]
    exact h.stored
  sourced := h.sourced

/-- One more attempt. -/
theorem pass (h : q.Accounts as a.entered) (ha : a.Happens call w q.pipeline ctx)
    (hcall : ∀ ctx, (call ctx).Spares q.cell) : q.Accounts (as ++ [a]) a.left := by
  obtain ⟨hnodup, hheld, hfinds⟩ := held ha hcall h.nodup
  refine ⟨hnodup, fun key entry hentry => ?_, h.sourced.snoc fun key c hfound => ?_⟩
  · rcases hheld key entry hentry with hbefore | hstored
    · obtain ⟨a', ha', hstored⟩ := h.stored key entry hbefore
      exact ⟨a', List.mem_append_left _ ha', hstored⟩
    · exact ⟨a, List.mem_append_right _ (List.mem_singleton_self a), hstored⟩
  · obtain ⟨stored, hentry⟩ := hfinds key c hfound
    exact h.stored key (c, stored) hentry

end Accounts

/-- A run of attempts. -/
theorem Accounts.passes {policy : RetryPolicy σ} (hcall : ∀ ctx, (call ctx).Spares q.cell)
    (hpolicy : policy.Spares q.cell) {left number : Nat} {current : Context}
    {previous : Option Failure} {res : Except Failure Content × State σ}
    (hrun : Passes call w q.pipeline policy left number current previous st more res) :
    ∀ as, q.Accounts as st → q.Accounts (as ++ more) res.2 := by
  induction hrun with
  | done ha _ => exact fun as h => h.pass ha hcall
  | stopped ha _ hstop =>
    exact fun as h => (h.pass ha hcall).of_eq (responses_intermission hpolicy hstop)
  | again ha _ hgo _ ih =>
    intro as h
    rw [List.append_cons]
    exact ih _ ((h.pass ha hcall).of_eq (responses_intermission hpolicy hgo))

theorem Served.accounts (h : Served q w as st) : q.Accounts as st := by
  induction h with
  | empty hempty =>
    refine ⟨?_, ?_, ?_⟩
    · rw [hempty]
      exact List.nodup_nil
    · rw [hempty]
      exact nofun
    · intro earlier b later heq
      exact absurd heq.symm (by simp)
  | elapse _ hsame ih => exact ih.of_eq hsame
  | execute _ hcall hpolicy hrun ih => exact Accounts.passes hcall hpolicy hrun _ ih

/-- Every attempt in a history has happened. -/
theorem Served.happens (h : Served q w as st) :
    ∀ a ∈ as, ∃ call ctx, a.Happens call w q.pipeline ctx := by
  induction h with
  | empty => simp
  | elapse _ _ ih => exact ih
  | execute _ _ _ hrun ih =>
    exact List.forall_mem_append.2 ⟨ih, fun a ha => ⟨_, hrun.happens a ha⟩⟩

/-! ### Answers -/

/-- The hooks between the call and the cache leave a response as it is, and those behind the cache one that is
planted. -/
structure Transparent (q : CachedPipeline σ) : Prop where
  result : ∀ m ∈ q.back, ∀ ctx, (m.after ctx).Ensures fun c => c.result = ctx.result
  planted : ∀ m ∈ q.back, ∀ ctx, (m.before ctx).Ensures fun c =>
    c.auxValue Context.cachedKey = ctx.auxValue Context.cachedKey

/-- An attempt from which the cache has stored a response answers nothing else. -/
theorem answer_of_stores (hq : q.Transparent) (ha : a.Happens call w q.pipeline ctx)
    (h : q.Stores a key c) {u : Content} (hu : a.outcome = .ok u) : u = c := by
  obtain ⟨t, ht, -, hresult, -⟩ := h
  obtain ⟨given, v, ts, ts', -, -, hanswer, hturns, hback, hgiven⟩ := turn_after ha ht
  have hkept : t.given.result = v := by
    refine hback.keeps (g := (·.result)) (fun t ht c hc => ?_) hgiven
    have hm := List.mem_reverse.1 (hback.order.subset (List.mem_map_of_mem ht))
    exact ha.of_after (hturns ▸ List.mem_append_left _ ht) (hq.result _ hm t.given) hc
  rw [hanswer u hu, ← hresult, hkept]

/-- An attempt for which the cache has found a response answers nothing else, unless it makes the call. -/
theorem answer_of_finds (hq : q.Transparent) (hb : b.Happens call w q.pipeline ctx)
    (h : q.Finds b key c) (hcall : b.trace.call = none) {u : Content} (hu : b.outcome = .ok u) :
    u = c := by
  obtain ⟨t, ht, -, hplant, -⟩ := h
  obtain ⟨ts, ts', hturns, -, -, -, hrest⟩ := turn_before hb ht
  obtain ⟨hback, hrelayed⟩ := hrest _ hplant
  have hout := hb.brackets
  rw [hu] at hout
  obtain ⟨last, hlast, -, hu⟩ := Brackets.replayed_of_ok hout hcall
  rw [hrelayed] at hlast
  have hkept : last.auxValue Context.cachedKey =
      (t.given.plant c).auxValue Context.cachedKey := by
    refine hback.keeps (g := (·.auxValue Context.cachedKey)) (fun t ht c hc => ?_) hlast
    have hm := hback.order.subset (List.mem_map_of_mem ht)
    refine hb.of_before (hturns ▸ ?_) (hq.planted _ hm t.given) hc
    exact List.mem_append_right _ (List.mem_cons_of_mem _ ht)
  rw [hu, hkept, auxValue_plant]

/-- **Replays answer what was answered.** Over any history of calls, what the cache finds was stored under the same
key in an earlier attempt.  That attempt has answered nothing else, if it has answered, and no more does the
one that goes without its call. -/
theorem replays_answer (hq : q.Transparent) {later : List (Pass σ)}
    (h : q.Served w (earlier ++ b :: later) st) (hfinds : q.Finds b key c) :
    (∃ a ∈ earlier, q.Stores a key c ∧ ∀ u, a.outcome = .ok u → u = c) ∧
      (b.trace.call = none → ∀ u, b.outcome = .ok u → u = c) := by
  constructor
  · obtain ⟨a, ha, hstores⟩ := h.accounts.sourced earlier b later rfl key c hfinds
    obtain ⟨call, ctx, hhappens⟩ := h.happens a (List.mem_append_left _ ha)
    exact ⟨a, ha, hstores, fun u hu => answer_of_stores hq hhappens hstores hu⟩
  · obtain ⟨call, ctx, hhappens⟩ := h.happens b (by simp)
    exact fun hcall u hu => answer_of_finds hq hhappens hfinds hcall hu

/-! ### A greeting -/

/-- The answer of a call. -/
def hello : Content := .plain (.str "Hello")

/-- A pipeline that tells requests apart by the last message alone, with some middleware behind the cache. -/
def greeting (back : List (Middleware Unit)) (h : ∀ m ∈ back, m.Spares 0) : CachedPipeline Unit where
  back
  cell := 0
  life := 60.0
  keyOf ctx := ctx.session.lastText
  spares := h

/-- The state after a response was stored. -/
def afterStoring (c : Content) : State Unit :=
  { host := (), caches := ⟨[(0, [("", (c, 0.0))])]⟩ }

/-- The request of an attempt. -/
def asked : Context := { session := {} }

/-- A response that was stored is found at once. -/
theorem exec_before_afterStoring {back : List (Middleware Unit)} {h : ∀ m ∈ back, m.Spares 0}
    (c : Content) : ∃ st, ((greeting back h).cache.before asked).exec (.alone Unit) (afterStoring c) =
      (.ok (asked.plant c), st) := by
  have hyoung : (0.0 : Float) - 0.0 < 60.0 := by decide +kernel
  have hfind : TimedMap.find (greeting back h).life (afterStoring c).clock ((greeting back h).keyOf asked)
      ((afterStoring c).caches.get (greeting back h).cell) = .fresh c := if_pos hyoung
  obtain ⟨st, hexec, -, -⟩ := Middleware.exec_cachePlant "cache" (greeting back h).cell
    (greeting back h).life
    ((greeting back h).exec_key asked (.alone Unit) (afterStoring c))
  rw [hfind] at hexec
  exact ⟨st, hexec⟩

/-- The same with no middleware but the cache. -/
def alone : CachedPipeline Unit := greeting [] Middleware.spares_of_nil

/-- An attempt that stores its response. -/
def storing : Pass Unit where
  trace := {
    befores := [⟨alone.cache, asked, .ok asked⟩]
    call := some ⟨asked, .ok hello⟩
    afters := [⟨alone.cache, { asked with result := hello }, .ok { asked with result := hello }⟩] }
  entered := { host := () }
  outcome := .ok hello
  settled := .ok none
  left := afterStoring hello

/-- An attempt for which this response is found. -/
def finding (left : State Unit) : Pass Unit where
  trace := {
    befores := [⟨alone.cache, asked, .ok (asked.plant hello)⟩]
    afters := [⟨alone.cache, { asked.plant hello with result := hello },
      .ok { asked.plant hello with result := hello }⟩] }
  entered := afterStoring hello
  outcome := .ok hello
  settled := .ok none
  left

theorem storing_happens :
    storing.Happens (fun _ => pure hello) (.alone Unit) alone.pipeline asked where
  walks := .cons rfl (.cons rfl (.cons rfl .nil))
  brackets := .called (c := asked) (.cons _ _ (.nil _)) rfl rfl rfl (.cons _ _ (.nil _))
  accepted _ _ := ⟨rfl, rfl⟩
  offered := nofun

theorem finding_happens {st : State Unit}
    (h : (alone.cache.before asked).exec (.alone Unit) (afterStoring hello) =
      (.ok (asked.plant hello), st)) :
    (finding st).Happens (fun _ => pure hello) (.alone Unit) alone.pipeline asked where
  walks := .cons h (.cons rfl .nil)
  brackets := .replayed (c := asked.plant hello) (.cons _ _ (.nil _)) rfl rfl rfl
    (.cons _ _ (.nil _))
  accepted _ _ := ⟨rfl, rfl⟩
  offered := nofun

theorem Served.one {a : Pass Unit} {as : List (Pass Unit)} (h : alone.Served (.alone Unit) as a.entered)
    (ha : a.Happens (fun _ => pure hello) (.alone Unit) alone.pipeline asked)
    (hok : a.outcome = .ok hello) : alone.Served (.alone Unit) (as ++ [a]) a.left := by
  have hrun : Passes (fun _ => pure hello) (.alone Unit) alone.pipeline {} 0 1 asked none a.entered [a]
      (.ok hello, a.left) := .done ha hok
  exact h.execute (fun _ => .pure hello) (by simp [RetryPolicy.Spares]) hrun

theorem replays_answer_greeting : ∃ st, alone.Finds (finding st) "" hello ∧
    (∃ a ∈ [storing], alone.Stores a "" hello ∧ ∀ u, a.outcome = .ok u → u = hello) ∧
    ((finding st).trace.call = none → ∀ u, (finding st).outcome = .ok u → u = hello) := by
  obtain ⟨st, hplant⟩ := exec_before_afterStoring hello
  have hfinds : alone.Finds (finding st) "" hello := ⟨_, rfl, rfl, rfl, rfl⟩
  have hserved : alone.Served (.alone Unit) ([storing] ++ finding st :: []) st :=
    Served.one (a := finding st) (Served.one (a := storing) (.empty rfl) storing_happens rfl)
      (finding_happens hplant) rfl
  have htransparent : alone.Transparent :=
    ⟨fun _ hm => absurd hm List.not_mem_nil, fun _ hm => absurd hm List.not_mem_nil⟩
  exact ⟨st, hfinds, replays_answer htransparent hserved hfinds⟩

/-! ### Edited responses -/

/-- A middleware that edits every response. -/
def editing : Middleware Unit where
  after ctx := pure { ctx with result := .plain (.str "edited") }

theorem editing_spares : editing.Spares 0 := fun _ => {
  before := .pure
  after := fun _ => .pure _
  onError := fun _ _ => .pure none
  transform := fun content _ => .pure content
  onRejected := fun _ => .pure () }

/-- The pipeline with this middleware behind the cache. -/
def withEditing : CachedPipeline Unit := greeting [editing] fun m hm => by
  rw [List.mem_singleton.1 hm]
  exact editing_spares

/-- **An edited response is replayed.**  A call is answered, and once its response was edited on the way to the
cache, the same request gets something else, whatever the call would answer now. -/
theorem execute_replays_edited : ∃ st : State Unit,
    (withEditing.pipeline.execute (fun _ => pure hello) asked {}).exec (.alone Unit) { host := () } =
      (.ok hello, st) ∧
    ∀ call, ∃ st', (withEditing.pipeline.execute call asked {}).exec (.alone Unit) st =
      (.ok (.plain (.str "edited")), st') := by
  refine ⟨afterStoring (.plain (.str "edited")), execute_of_attempt rfl rfl, fun call => ?_⟩
  obtain ⟨st, hplant⟩ := exec_before_afterStoring (.plain (.str "edited"))
  have hbefore : (withEditing.pipeline.before asked).exec (.alone Unit)
      (afterStoring (.plain (.str "edited"))) = (.ok (asked.plant (.plain (.str "edited"))), st) :=
    Run.exec_bind_ok _ hplant
  refine ⟨st, execute_of_attempt rfl ?_⟩
  rw [attempt]
  exact Run.exec_bind_ok _ hbefore

end Pipeline.CachedPipeline

end Colloquy
