import Colloquy.Pipeline.Execute
import Colloquy.Proofs.Pipeline.Hooks
import Colloquy.Proofs.Pipeline.Order
import Colloquy.Proofs.Run.Ensures
import Mathlib.Data.List.Chain

/-!
# Traces of attempts

A `Trace` lists what an attempt has called: the hooks before the call, the call itself, the hooks after the
response, and the hooks that were offered a failure.  `Brackets` and `Offered` say which traces there are,
wherever a hook or the call fails.  `Walks` ties a trace to a run: every visit starts in the state in which the
one before it has ended.

`execute_passes` puts the attempts of a run together: each attempt is a `Pass`, with such a trace, and what
lies between two attempts visits neither hooks nor the call.
-/

namespace Colloquy.Pipeline

variable {σ : Type}

/-! ### Visits -/

/-- A hook that maps contexts was called on a context. -/
structure Turn (σ : Type) where
  middleware : Middleware σ
  given : Context
  ended : Except Failure Context

/-- The call was made. -/
structure Call where
  given : Context
  ended : Except Failure Content

/-- A middleware was offered a failure. -/
structure Offer (σ : Type) where
  middleware : Middleware σ
  given : Context
  failure : Failure
  ended : Except Failure (Option Context)

/-- The state after an offer: a failure that was mended is reported. -/
def Offer.report (o : Offer σ) (st : State σ) : State σ :=
  match o.ended with
  | .ok (some _) => { st with events := st.events ++
      [.errorRecovered o.middleware.name o.given.attempt o.failure.text] }
  | _ => st

/-- What an attempt calls. -/
inductive Visit (σ : Type) where
  | before (t : Turn σ)
  | call (c : Call)
  | after (t : Turn σ)
  | offer (o : Offer σ)

variable (call : Context → Run σ Content) (w : Surroundings σ)

/-- A visit leads from one state to another one. -/
def Visit.Happens (st st' : State σ) : Visit σ → Prop
  | before t => (t.middleware.before t.given).exec w st = (t.ended, st')
  | .call c => (call c.given).exec w st = (c.ended, st')
  | after t => (t.middleware.after t.given).exec w st = (t.ended, st')
  | offer o => ∃ st₁, (o.middleware.onError o.given o.failure).exec w st = (o.ended, st₁) ∧
      st' = o.report st₁

/-- Visits one after the other lead from one state to another one. -/
inductive Walks : List (Visit σ) → State σ → State σ → Prop
  | nil {st : State σ} : Walks [] st st
  | cons {v : Visit σ} {vs : List (Visit σ)} {st st₁ st' : State σ} (h : v.Happens call w st st₁)
      (hrest : Walks vs st₁ st') : Walks (v :: vs) st st'

/-! ### Shapes of traces -/

/-- What turns that began with a context have come to. -/
def relayed (ctx : Context) (turns : List (Turn σ)) : Except Failure Context :=
  (turns.getLast?.map (·.ended)).getD (.ok ctx)

/-- Middleware take their turns in order, each on the context that the one before has made, and all of them
unless one fails. -/
structure Relay (ms : List (Middleware σ)) (ctx : Context) (turns : List (Turn σ)) : Prop where
  order : turns.map (·.middleware) <+: ms
  first : ∀ t ∈ turns.head?, t.given = ctx
  next : turns.IsChain fun t t' => t.ended = .ok t'.given
  complete : ∀ c, relayed ctx turns = .ok c → turns.map (·.middleware) = ms

/-- Middleware are offered a failure in order, all of them with the same context, until one of them answers a
context or fails itself. -/
structure Offered (ms : List (Middleware σ)) (ctx : Context) (f : Failure) (offers : List (Offer σ))
    (ended : Except Failure (Option Context)) : Prop where
  order : offers.map (·.middleware) <+: ms
  same : ∀ o ∈ offers, o.given = ctx ∧ o.failure = f
  unmended : offers.IsChain fun o _ => o.ended = .ok none
  ended_eq : ended = (offers.getLast?.map (·.ended)).getD (.ok none)
  complete : ended = .ok none → offers.map (·.middleware) = ms

/-- What an attempt has called. -/
structure Trace (σ : Type) where
  befores : List (Turn σ) := []
  call : Option Call := none
  afters : List (Turn σ) := []
  offers : List (Offer σ) := []

/-- What was called before a failure was offered to anyone. -/
def Trace.work (t : Trace σ) : List (Visit σ) :=
  t.befores.map .before ++ t.call.toList.map .call ++ t.afters.map .after

/-- The visits in their order. -/
def Trace.visits (t : Trace σ) : List (Visit σ) :=
  t.work ++ t.offers.map .offer

/-- The hooks of a pipeline stand around the call.  The call is made once, on the context that the hooks before it
have come to, unless one of them has failed or the context is marked for a planted response.  The hooks after
it, in the opposite order, begin with this context and the response.  The outcome is the response, or the
failure of whatever has failed first. -/
inductive Brackets (p : Pipeline σ) (ctx : Context) (t : Trace σ) : Except Failure Content → Prop
  | halted {f : Failure} (hbefore : Relay p.middlewares ctx t.befores)
      (hended : relayed ctx t.befores = .error f) (hcall : t.call = none) (hafter : t.afters = []) :
      Brackets p ctx t (.error f)
  | failed {c : Context} {f : Failure} (hbefore : Relay p.middlewares ctx t.befores)
      (hended : relayed ctx t.befores = .ok c) (hmark : c.usesCache = false)
      (hcall : t.call = some ⟨c, .error f⟩) (hafter : t.afters = []) : Brackets p ctx t (.error f)
  | called {c : Context} {v : Content} (hbefore : Relay p.middlewares ctx t.befores)
      (hended : relayed ctx t.befores = .ok c) (hmark : c.usesCache = false)
      (hcall : t.call = some ⟨c, .ok v⟩)
      (hafter : Relay p.middlewares.reverse { c with result := v } t.afters) :
      Brackets p ctx t ((relayed { c with result := v } t.afters).map fun _ => v)
  | replayed {c : Context} (hbefore : Relay p.middlewares ctx t.befores)
      (hended : relayed ctx t.befores = .ok c) (hmark : c.usesCache = true) (hcall : t.call = none)
      (hafter : Relay p.middlewares.reverse
        { c with result := c.auxValue Context.cachedKey } t.afters) :
      Brackets p ctx t ((relayed { c with result := c.auxValue Context.cachedKey } t.afters).map
        fun _ => c.auxValue Context.cachedKey)

/-- An attempt: what it has called, the states before and after, its outcome, and what the hooks on failures
have made of that. -/
structure Pass (σ : Type) where
  trace : Trace σ
  entered : State σ
  outcome : Except Failure Content
  settled : Except Failure (Option Context)
  left : State σ

/-- An attempt from a context runs through a pipeline.  Its failure is offered to the middleware, with the context
that it started from; a success is offered to nobody. -/
structure Pass.Happens (p : Pipeline σ) (start : Context) (a : Pass σ) : Prop where
  walks : Walks call w a.trace.visits a.entered a.left
  brackets : Brackets p start a.trace a.outcome
  accepted : ∀ v, a.outcome = .ok v → a.trace.offers = [] ∧ a.settled = .ok none
  offered : ∀ f, a.outcome = .error f → Offered p.middlewares start f a.trace.offers a.settled

/-- What the failure of an attempt leads to. -/
def Pass.setback (a : Pass σ) (f : Failure) : Setback :=
  match a.settled with
  | .ok mended => { cause := f, failure := f, mended }
  | .error g => { cause := f, failure := g, mended := none }

theorem Pass.setback_cause (a : Pass σ) (f : Failure) : (a.setback f).cause = f := by
  unfold setback
  cases a.settled <;> rfl

/-- What lies between a failed attempt and the next one.  It fails if there is no next one. -/
def Setback.intermission (s : Setback) (policy : RetryPolicy σ) (left number : Nat) : Run σ Unit := do
  let wait ← s.resume policy number
  match left with
  | 0 => throw s.failure
  | _ + 1 => do
    let delay ← Run.ofArithmetic wait.toFloat
    s.pause policy number delay

/-- Attempts one after the other, from the one with the given number on and with at most `left` further ones, and
what they come to.  Each of them starts from the context that is carried on, with its own number and the
failure of the one before. -/
inductive Passes (p : Pipeline σ) (policy : RetryPolicy σ) : (left number : Nat) → Context →
    Option Failure → State σ → List (Pass σ) → Except Failure Content × State σ → Prop
  | done {left number : Nat} {current : Context} {previous : Option Failure} {a : Pass σ} {v : Content}
      (h : a.Happens call w p { current with attempt := number, previous })
      (hok : a.outcome = .ok v) :
      Passes p policy left number current previous a.entered [a] (.ok v, a.left)
  | stopped {left number : Nat} {current : Context} {previous : Option Failure} {a : Pass σ}
      {f g : Failure} {st' : State σ} (h : a.Happens call w p { current with attempt := number, previous })
      (hf : a.outcome = .error f)
      (hstop : ((a.setback f).intermission policy left number).exec w a.left = (.error g, st')) :
      Passes p policy left number current previous a.entered [a] (.error g, st')
  | again {left number : Nat} {current : Context} {previous : Option Failure} {a : Pass σ}
      {f : Failure} {st₁ : State σ} {rest : List (Pass σ)} {res : Except Failure Content × State σ}
      (h : a.Happens call w p { current with attempt := number, previous })
      (hf : a.outcome = .error f)
      (hgo : ((a.setback f).intermission policy (left + 1) number).exec w a.left = (.ok (), st₁))
      (hrest : Passes p policy left (number + 1) ((a.setback f).mended.getD current) (some f) st₁ rest
        res) :
      Passes p policy (left + 1) number current previous a.entered (a :: rest) res

/-! ### Walks -/

variable {call w} {ms : List (Middleware σ)} {ctx c : Context} {f : Failure} {st st₁ st' : State σ}

theorem Walks.append {vs vs' : List (Visit σ)} (h : Walks call w vs st st₁)
    (h' : Walks call w vs' st₁ st') : Walks call w (vs ++ vs') st st' := by
  induction h with
  | nil => exact h'
  | cons h _ ih => exact .cons h (ih h')

theorem Walks.split {vs vs' : List (Visit σ)} (h : Walks call w (vs ++ vs') st st') :
    ∃ st₁, Walks call w vs st st₁ ∧ Walks call w vs' st₁ st' := by
  induction vs generalizing st with
  | nil => exact ⟨st, .nil, h⟩
  | cons v rest ih =>
    cases h with
    | cons h hrest =>
      obtain ⟨st₁, hwalk, hwalk'⟩ := ih hrest
      exact ⟨st₁, .cons h hwalk, hwalk'⟩

/-- A walk leaves alone what all of its visits leave alone. -/
theorem Walks.keeps {γ : Type} {g : State σ → γ} {vs : List (Visit σ)} (h : Walks call w vs st st')
    (hvs : ∀ v ∈ vs, ∀ s s', v.Happens call w s s' → g s' = g s) : g st' = g st := by
  induction h with
  | nil => rfl
  | cons h _ ih =>
    rw [List.forall_mem_cons] at hvs
    exact (ih hvs.2).trans (hvs.1 _ _ h)

theorem Walks.happens {vs : List (Visit σ)} (h : Walks call w vs st st') :
    ∀ v ∈ vs, ∃ s s', v.Happens call w s s' := by
  induction h with
  | nil => simp
  | cons h _ ih => exact List.forall_mem_cons.2 ⟨⟨_, _, h⟩, ih⟩

/-! ### Relays -/

theorem relayed_cons (m : Middleware σ) (ctx c : Context) (turns : List (Turn σ)) :
    relayed ctx (⟨m, ctx, .ok c⟩ :: turns) = relayed c turns := by
  cases turns with
  | nil => rfl
  | cons t rest => simp only [relayed, List.getLast?_cons, Option.map_some, Option.getD_some]

theorem relayed_append (ctx : Context) (ts : List (Turn σ)) (m : Middleware σ) (given c : Context)
    (ts' : List (Turn σ)) : relayed ctx (ts ++ ⟨m, given, .ok c⟩ :: ts') = relayed c ts' := by
  rw [← relayed_cons m given c ts']
  simp [relayed, List.getLast?_append, List.getLast?_cons]

namespace Relay

theorem nil (ctx : Context) : Relay ([] : List (Middleware σ)) ctx [] where
  order := List.prefix_rfl
  first := by simp
  next := .nil
  complete _ _ := rfl

/-- A turn that fails is the last one. -/
theorem stop (m : Middleware σ) (ms : List (Middleware σ)) (ctx : Context) (f : Failure) :
    Relay (m :: ms) ctx [⟨m, ctx, .error f⟩] where
  order := ⟨ms, rfl⟩
  first := by simp
  next := .singleton _
  complete := by
    rintro c ⟨⟩

theorem cons (m : Middleware σ) (ctx : Context) {turns : List (Turn σ)} (h : Relay ms c turns) :
    Relay (m :: ms) ctx (⟨m, ctx, .ok c⟩ :: turns) where
  order := List.cons_prefix_cons.2 ⟨rfl, h.order⟩
  first := by simp
  next := List.isChain_cons.2 ⟨fun t ht => by rw [h.first t ht], h.next⟩
  complete := by
    intro c' hc'
    rw [relayed_cons] at hc'
    exact congrArg (m :: ·) (h.complete c' hc')

/-- The first turn fails and is the only one, or the others go on with what it has made. -/
theorem cons_cases {m : Middleware σ} {turns : List (Turn σ)} (h : Relay (m :: ms) ctx turns) :
    (∃ f, turns = [⟨m, ctx, .error f⟩]) ∨
      ∃ c rest, turns = ⟨m, ctx, .ok c⟩ :: rest ∧ Relay ms c rest := by
  cases turns with
  | nil => exact absurd (h.complete ctx rfl) (by simp)
  | cons t rest =>
    obtain ⟨m', given, ended⟩ := t
    obtain ⟨rfl, hprefix⟩ := List.cons_prefix_cons.1 h.order
    obtain rfl : given = ctx := h.first _ rfl
    obtain ⟨hhead, hchain⟩ := List.isChain_cons.1 h.next
    cases ended with
    | error f =>
      cases rest with
      | nil => exact .inl ⟨f, rfl⟩
      | cons t' rest => exact nomatch hhead t' rfl
    | ok c =>
      refine .inr ⟨c, rest, rfl, hprefix, fun t ht => ?_, hchain, fun c' hc' => ?_⟩
      · exact (Except.ok.inj (hhead t ht)).symm
      · rw [← relayed_cons m' given] at hc'
        exact (List.cons.inj (h.complete c' hc')).2

/-- A middleware among others may not have its turn, as one before it fails; if it has, it is given what those
before it have come to, and those behind it go on with what it makes. -/
theorem split {m : Middleware σ} {ms' : List (Middleware σ)} {turns : List (Turn σ)}
    (h : Relay (ms ++ m :: ms') ctx turns) :
    Relay ms ctx turns ∧ turns[ms.length]? = none ∨
      ∃ ts c ended ts', turns = ts ++ ⟨m, c, ended⟩ :: ts' ∧ ts.length = ms.length ∧
        Relay ms ctx ts ∧ relayed ctx ts = .ok c ∧
        ((∃ f, ended = .error f ∧ ts' = []) ∨ ∃ c', ended = .ok c' ∧ Relay ms' c' ts') := by
  induction ms generalizing ctx turns with
  | nil =>
    rcases h.cons_cases with ⟨f, rfl⟩ | ⟨c, rest, rfl, hrest⟩
    · exact .inr ⟨[], ctx, .error f, [], rfl, rfl, .nil ctx, rfl, .inl ⟨f, rfl, rfl⟩⟩
    · exact .inr ⟨[], ctx, .ok c, rest, rfl, rfl, .nil ctx, rfl, .inr ⟨c, rfl, hrest⟩⟩
  | cons m' ms ih =>
    rcases h.cons_cases with ⟨f, rfl⟩ | ⟨c, rest, rfl, hrest⟩
    · exact .inl ⟨.stop m' ms ctx f, rfl⟩
    · rcases ih hrest with ⟨hrelay, hnone⟩ | ⟨ts, c', ended, ts', rfl, hlength, hrelay, hended, hrest⟩
      · exact .inl ⟨.cons m' ctx hrelay, hnone⟩
      · refine .inr ⟨⟨m', ctx, .ok c⟩ :: ts, c', ended, ts', rfl, congrArg (· + 1) hlength,
          .cons m' ctx hrelay, ?_, hrest⟩
        rw [relayed_cons, hended]

/-- What every turn keeps of its context is kept by all of them. -/
theorem keeps {γ : Type} {g : Context → γ} {turns : List (Turn σ)} (h : Relay ms ctx turns)
    (ht : ∀ t ∈ turns, ∀ c, t.ended = .ok c → g c = g t.given) (hc : relayed ctx turns = .ok c) :
    g c = g ctx := by
  induction ms generalizing ctx turns with
  | nil =>
    obtain rfl : turns = [] := List.map_eq_nil_iff.1 (List.prefix_nil.1 h.order)
    exact congrArg g (Except.ok.inj hc).symm
  | cons m ms ih =>
    rcases h.cons_cases with ⟨f, rfl⟩ | ⟨c', rest, rfl, hrest⟩
    · exact nomatch hc
    · rw [List.forall_mem_cons] at ht
      rw [relayed_cons] at hc
      exact (ih hrest ht.2 hc).trans (ht.1 c' rfl)

end Relay

/-- Hooks that map contexts, run one after the other, take turns. -/
theorem exists_relay (call : Context → Run σ Content) (w : Surroundings σ)
    (hook : Middleware σ → Context → Run σ Context) (visit : Turn σ → Visit σ)
    (hvisit : ∀ t st st', (hook t.middleware t.given).exec w st = (t.ended, st') →
      (visit t).Happens call w st st') (ms : List (Middleware σ)) (ctx : Context) (st : State σ) :
    ∃ turns st', Relay ms ctx turns ∧ Walks call w (turns.map visit) st st' ∧
      (ms.foldlM (fun c m => hook m c) ctx).exec w st = (relayed ctx turns, st') := by
  induction ms generalizing ctx st with
  | nil => exact ⟨[], st, .nil ctx, .nil, rfl⟩
  | cons m rest ih =>
    rw [List.foldlM_cons]
    rcases hexec : (hook m ctx).exec w st with ⟨f | c, st₁⟩
    · exact ⟨[⟨m, ctx, .error f⟩], st₁, .stop m rest ctx f, .cons (hvisit _ _ _ hexec) .nil,
        Run.exec_bind_error _ hexec⟩
    · obtain ⟨turns, st', hrelay, hwalk, hrun⟩ := ih c st₁
      refine ⟨⟨m, ctx, .ok c⟩ :: turns, st', .cons m ctx hrelay,
        .cons (hvisit _ _ _ hexec) hwalk, ?_⟩
      rw [Run.exec_bind_ok _ hexec, hrun, relayed_cons]

/-! ### Offers -/

namespace Offered

variable {offers : List (Offer σ)} {ended : Except Failure (Option Context)}

theorem nil (ctx : Context) (f : Failure) :
    Offered ([] : List (Middleware σ)) ctx f [] (.ok none) where
  order := List.prefix_rfl
  same := by simp
  unmended := .nil
  ended_eq := rfl
  complete _ := rfl

/-- A middleware that answers a context or fails itself is the last one. -/
theorem stop (m : Middleware σ) (ms : List (Middleware σ)) (ctx : Context) (f : Failure)
    (h : ended ≠ .ok none) : Offered (m :: ms) ctx f [⟨m, ctx, f, ended⟩] ended where
  order := ⟨ms, rfl⟩
  same := by simp
  unmended := .singleton _
  ended_eq := rfl
  complete hnone := absurd hnone h

theorem cons (m : Middleware σ) (h : Offered ms ctx f offers ended) :
    Offered (m :: ms) ctx f (⟨m, ctx, f, .ok none⟩ :: offers) ended where
  order := List.cons_prefix_cons.2 ⟨rfl, h.order⟩
  same := List.forall_mem_cons.2 ⟨⟨rfl, rfl⟩, h.same⟩
  unmended := List.isChain_cons.2 ⟨fun _ _ => rfl, h.unmended⟩
  ended_eq := by
    rw [h.ended_eq]
    cases offers with
    | nil => rfl
    | cons o rest => simp only [List.getLast?_cons, Option.map_some, Option.getD_some]
  complete hnone := congrArg (m :: ·) (h.complete hnone)

end Offered

/-- The hooks on failures are offered a failure one after the other. -/
theorem exists_offered (call : Context → Run σ Content) (w : Surroundings σ)
    (ms : List (Middleware σ)) (ctx : Context) (f : Failure) (st : State σ) :
    ∃ offers ended st', Offered ms ctx f offers ended ∧
      Walks call w (offers.map .offer) st st' ∧
      (runOnError ms ctx f).exec w st = (ended, st') := by
  induction ms generalizing st with
  | nil => exact ⟨[], .ok none, st, .nil ctx f, .nil, rfl⟩
  | cons m rest ih =>
    rw [runOnError]
    rcases hexec : (m.onError ctx f).exec w st with ⟨g | mended, st₁⟩
    · exact ⟨[⟨m, ctx, f, .error g⟩], .error g, st₁, .stop m rest ctx f (by simp),
        .cons ⟨st₁, hexec, rfl⟩ .nil, Run.exec_bind_error _ hexec⟩
    rw [Run.exec_bind_ok _ hexec]
    cases mended with
    | some c =>
      exact ⟨[⟨m, ctx, f, .ok (some c)⟩], .ok (some c), _, .stop m rest ctx f (by simp),
        .cons ⟨st₁, hexec, rfl⟩ .nil, rfl⟩
    | none =>
      obtain ⟨offers, ended, st', hoffered, hwalk, hrun⟩ := ih st₁
      exact ⟨⟨m, ctx, f, .ok none⟩ :: offers, ended, st', .cons m hoffered,
        .cons ⟨st₁, hexec, rfl⟩ hwalk, hrun⟩

/-! ### Attempts -/

/-- What follows a response: the hooks after it, and the response itself if none of them fails. -/
theorem exists_afters (call : Context → Run σ Content) (w : Surroundings σ)
    (p : Pipeline σ) (c : Context) (v : Content) (st : State σ) :
    ∃ afters st', Relay p.middlewares.reverse { c with result := v } afters ∧
      Walks call w (afters.map .after) st st' ∧
      (do let _ ← p.after { c with result := v }; return v : Run σ Content).exec w st =
        ((relayed { c with result := v } afters).map fun _ => v, st') := by
  obtain ⟨afters, st', hrelay, hwalk, hrun⟩ := exists_relay call w (fun m c => m.after c) .after
    (fun _ _ _ h => h) p.middlewares.reverse { c with result := v } st
  refine ⟨afters, st', hrelay, hwalk, ?_⟩
  rw [← runAfter_eq_foldlM] at hrun
  rcases hended : relayed { c with result := v } afters with f | c'
  · rw [hended] at hrun
    exact Run.exec_bind_error _ hrun
  · rw [hended] at hrun
    exact Run.exec_bind_ok _ hrun

/-- An attempt calls the hooks around the call. -/
theorem exists_brackets (call : Context → Run σ Content) (w : Surroundings σ)
    (p : Pipeline σ) (ctx : Context) (st : State σ) :
    ∃ befores made afters outcome st',
      (∀ offers, Brackets p ctx ⟨befores, made, afters, offers⟩ outcome) ∧
      Walks call w (Trace.work ⟨befores, made, afters, []⟩) st st' ∧
      (p.attempt call ctx).exec w st = (outcome, st') := by
  obtain ⟨befores, st₁, hrelay, hwalk, hrun⟩ := exists_relay call w (fun m c => m.before c) .before
    (fun _ _ _ h => h) p.middlewares ctx st
  rw [← runBefore_eq_foldlM] at hrun
  unfold attempt before
  rcases hended : relayed ctx befores with f | c
  · -- No hook stands behind the one that has failed.
    rw [hended] at hrun
    refine ⟨befores, none, [], .error f, st₁, fun _ => .halted hrelay hended rfl rfl, ?_,
      Run.exec_bind_error _ hrun⟩
    simpa only [Trace.work, Option.toList_none, List.map_nil, List.append_nil] using hwalk
  rw [hended] at hrun
  rw [Run.exec_bind_ok _ hrun]
  cases hmark : c.usesCache with
  | true =>
    rw [if_pos rfl, Run.exec_bind_ok _ (Run.exec_pure _)]
    obtain ⟨afters, st', hafters, hwalk', hrun'⟩ := exists_afters call w p c
      (c.auxValue Context.cachedKey) st₁
    refine ⟨befores, none, afters, _, st', fun _ => .replayed hrelay hended hmark rfl hafters, ?_, hrun'⟩
    simpa only [Trace.work, Option.toList_none, List.map_nil, List.append_nil] using
      hwalk.append hwalk'
  | false =>
    rw [if_neg Bool.false_ne_true]
    rcases hcall : (call c).exec w st₁ with ⟨f | v, st₂⟩
    · refine ⟨befores, some ⟨c, .error f⟩, [], .error f, st₂,
        fun _ => .failed hrelay hended hmark rfl rfl, ?_, Run.exec_bind_error _ hcall⟩
      rw [Trace.work, List.map_nil, List.append_nil]
      exact hwalk.append (.cons hcall .nil)
    · rw [Run.exec_bind_ok _ hcall]
      obtain ⟨afters, st', hafters, hwalk', hrun'⟩ := exists_afters call w p c v st₂
      have hmade : Walks call w [.call ⟨c, .ok v⟩] st₁ st₂ := .cons hcall .nil
      exact ⟨befores, some ⟨c, .ok v⟩, afters, _, st',
        fun _ => .called hrelay hended hmark rfl hafters, (hwalk.append hmade).append hwalk', hrun'⟩

/-- An attempt, and what becomes of its failure, is a pass. -/
theorem exists_pass (call : Context → Run σ Content) (w : Surroundings σ) (p : Pipeline σ)
    (ctx : Context) (st : State σ) :
    ∃ a : Pass σ, a.entered = st ∧ a.Happens call w p ctx ∧ ∃ st₁,
      (p.attempt call ctx).exec w st = (a.outcome, st₁) ∧
      (∀ v, a.outcome = .ok v → a.left = st₁) ∧
      ∀ f, a.outcome = .error f →
        (p.setback ctx f).exec w st₁ = (.ok (a.setback f), a.left) := by
  obtain ⟨befores, made, afters, outcome, st₁, hbrackets, hwalk, hrun⟩ :=
    exists_brackets call w p ctx st
  cases outcome with
  | ok v =>
    refine ⟨⟨⟨befores, made, afters, []⟩, st, .ok v, .ok none, st₁⟩, rfl, ⟨?_, hbrackets [], ?_, nofun⟩,
      st₁, hrun, fun _ _ => rfl, nofun⟩
    · exact hwalk.append .nil
    · exact fun _ _ => ⟨rfl, rfl⟩
  | error f =>
    obtain ⟨offers, settled, st', hoffered, hwalk', hrun'⟩ :=
      exists_offered call w p.middlewares ctx f st₁
    refine ⟨⟨⟨befores, made, afters, offers⟩, st, .error f, settled, st'⟩, rfl,
      ⟨hwalk.append hwalk', hbrackets offers, nofun, ?_⟩, st₁, hrun, nofun, ?_⟩
    · rintro g ⟨⟩
      exact hoffered
    · rintro g ⟨⟩
      have hsettled : (p.onError ctx f).exec w st₁ = (settled, st') := hrun'
      rw [setback, Run.exec_bind_ok _ (Run.exec_outcome _), hsettled]
      cases settled <;> rfl

namespace Brackets

variable {p : Pipeline σ} {t : Trace σ} {outcome : Except Failure Content} {v : Content}

theorem befores (h : Brackets p ctx t outcome) : Relay p.middlewares ctx t.befores := by
  cases h <;> assumption

/-- The response of an attempt whose hooks before the call have come to a context: that of the call, or the one
that is planted in the context. -/
def Responds (c : Context) (t : Trace σ) (v : Content) : Prop :=
  c.usesCache = false ∧ t.call = some ⟨c, .ok v⟩ ∨
    c.usesCache = true ∧ t.call = none ∧ v = c.auxValue Context.cachedKey

/-- Hooks after a response are only called if there is one, and they begin with it. -/
theorem afters (h : Brackets p ctx t outcome) : t.afters = [] ∧ (∃ f, outcome = .error f) ∨
    ∃ c v, relayed ctx t.befores = .ok c ∧ Responds c t v ∧
      Relay p.middlewares.reverse { c with result := v } t.afters ∧
      outcome = (relayed { c with result := v } t.afters).map fun _ => v := by
  cases h with
  | halted _ _ _ hafter => exact .inl ⟨hafter, _, rfl⟩
  | failed _ _ _ _ hafter => exact .inl ⟨hafter, _, rfl⟩
  | called _ hended hmark hcall hafter =>
    exact .inr ⟨_, _, hended, .inl ⟨hmark, hcall⟩, hafter, rfl⟩
  | replayed _ hended hmark hcall hafter =>
    exact .inr ⟨_, _, hended, .inr ⟨hmark, hcall, rfl⟩, hafter, rfl⟩

/-- An answer without a call is the response that is planted in the context of the hooks before the call. -/
theorem replayed_of_ok (h : Brackets p ctx t (.ok v)) (hcall : t.call = none) :
    ∃ c, relayed ctx t.befores = .ok c ∧ c.usesCache = true ∧ v = c.auxValue Context.cachedKey := by
  rcases h.afters with ⟨-, f, hf⟩ | ⟨c, u, hended, hresponds, -, houtcome⟩
  · exact nomatch hf
  rcases hresponds with ⟨-, hmade⟩ | ⟨hmark, -, rfl⟩
  · exact nomatch hcall.symm.trans hmade
  refine ⟨c, hended, hmark, ?_⟩
  rcases hafters : relayed { c with result := c.auxValue Context.cachedKey } t.afters with f | c'
  · rw [hafters] at houtcome
    exact nomatch houtcome
  · rw [hafters] at houtcome
    exact Except.ok.inj houtcome

end Brackets

namespace Pass.Happens

variable {p : Pipeline σ} {a : Pass σ} {P : Context → Prop} {t : Turn σ}

/-- What a turn has made of its context is an answer of its hook. -/
theorem of_before (h : a.Happens call w p ctx) (ht : t ∈ a.trace.befores)
    (hP : (t.middleware.before t.given).Ensures P) (hc : t.ended = .ok c) : P c := by
  have hmem : Visit.before t ∈ a.trace.visits := by
    simp [Trace.visits, Trace.work, ht]
  obtain ⟨s, s', hvisit⟩ := h.walks.happens _ hmem
  refine hP w s c s' ?_
  rw [← hc]
  exact hvisit

theorem of_after (h : a.Happens call w p ctx) (ht : t ∈ a.trace.afters)
    (hP : (t.middleware.after t.given).Ensures P) (hc : t.ended = .ok c) : P c := by
  have hmem : Visit.after t ∈ a.trace.visits := by
    simp [Trace.visits, Trace.work, ht]
  obtain ⟨s, s', hvisit⟩ := h.walks.happens _ hmem
  refine hP w s c s' ?_
  rw [← hc]
  exact hvisit

end Pass.Happens

/-! ### Runs -/

variable {p : Pipeline σ} {policy : RetryPolicy σ}

theorem Passes.happens {left number : Nat} {current : Context} {previous : Option Failure}
    {passes : List (Pass σ)} {res : Except Failure Content × State σ}
    (h : Passes call w p policy left number current previous st passes res) :
    ∀ a ∈ passes, ∃ start, a.Happens call w p start := by
  induction h with
  | done ha _ => simpa using ⟨_, ha⟩
  | stopped ha _ _ => simpa using ⟨_, ha⟩
  | again ha _ _ _ ih => exact List.forall_mem_cons.2 ⟨⟨_, ha⟩, ih⟩

/-- After the last attempt allowed nothing but a failure can follow. -/
theorem exec_intermission_last (s : Setback) (policy : RetryPolicy σ) (number : Nat) (w : Surroundings σ)
    (st : State σ) : ∃ g st', (s.intermission policy 0 number).exec w st = (.error g, st') ∧
      (do let _ ← s.resume policy number; throw s.failure : Run σ Content).exec w st =
        (.error g, st') := by
  rw [Setback.intermission]
  rcases hresume : (s.resume policy number).exec w st with ⟨g | wait, st'⟩
  · exact ⟨g, st', Run.exec_bind_error _ hresume, Run.exec_bind_error _ hresume⟩
  · exact ⟨s.failure, st', Run.exec_bind_ok _ hresume, Run.exec_bind_ok _ hresume⟩

theorem attempts_zero_of_error {number : Nat} {current : Context} {previous : Option Failure}
    {s : Setback}
    (hrun : (p.attempt call { current with attempt := number, previous }).exec w st = (.error f, st₁))
    (hset : (p.setback { current with attempt := number, previous } f).exec w st₁ = (.ok s, st')) :
    (attempts p call policy 0 number current previous).exec w st =
      (do let _ ← s.resume policy number; throw s.failure : Run σ Content).exec w st' := by
  rw [attempts, Run.exec_bind_ok _ (Run.exec_outcome _), hrun]
  exact Run.exec_bind_ok _ hset

theorem attempts_succ_of_error {left number : Nat} {current : Context} {previous : Option Failure}
    {s : Setback}
    (hrun : (p.attempt call { current with attempt := number, previous }).exec w st = (.error f, st₁))
    (hset : (p.setback { current with attempt := number, previous } f).exec w st₁ = (.ok s, st')) :
    (attempts p call policy (left + 1) number current previous).exec w st =
      (do
        s.intermission policy (left + 1) number
        attempts p call policy left (number + 1) (s.mended.getD current) (some s.cause)).exec w st' := by
  rw [attempts, Run.exec_bind_ok _ (Run.exec_outcome _), hrun, Setback.intermission]
  simp only [bind_assoc]
  exact Run.exec_bind_ok _ hset

theorem attempts_of_ok {left number : Nat} {current : Context} {previous : Option Failure}
    {v : Content}
    (hrun : (p.attempt call { current with attempt := number, previous }).exec w st = (.ok v, st₁)) :
    (attempts p call policy left number current previous).exec w st = (.ok v, st₁) := by
  rw [attempts, Run.exec_bind_ok _ (Run.exec_outcome _), hrun]
  rfl

/-- A call that is answered in the first attempt. -/
theorem execute_of_attempt {n : Nat} {v : Content} (hcount : policy.attempts = .ok n)
    (h : (p.attempt call { ctx with attempt := 1, previous := none }).exec w st = (.ok v, st')) :
    (p.execute call ctx policy).exec w st = (.ok v, st') := by
  rw [execute, hcount, Run.exec_bind_ok _ (Run.exec_ofExcept _)]
  exact attempts_of_ok h

/-- Attempts are passes one after the other.  The induction is on the attempts that are left. -/
theorem exists_passes (call : Context → Run σ Content) (w : Surroundings σ) (p : Pipeline σ)
    (policy : RetryPolicy σ) (left : Nat) : ∀ (number : Nat) (current : Context)
      (previous : Option Failure) (st : State σ),
      ∃ passes, Passes call w p policy left number current previous st passes
        ((attempts p call policy left number current previous).exec w st) := by
  induction left with
  | zero =>
    intro number current previous st
    obtain ⟨a, rfl, ha, st₁, hrun, hok, herror⟩ := exists_pass call w p
      { current with attempt := number, previous } st
    refine ⟨[a], ?_⟩
    cases hout : a.outcome with
    | ok v =>
      rw [hout, ← hok v hout] at hrun
      rw [attempts_of_ok hrun]
      exact .done ha hout
    | error f =>
      rw [hout] at hrun
      obtain ⟨g, st', hstop, hlast⟩ :=
        exec_intermission_last (a.setback f) policy number w a.left
      rw [attempts_zero_of_error hrun (herror f hout), hlast]
      exact .stopped ha hout hstop
  | succ left ih =>
    intro number current previous st
    obtain ⟨a, rfl, ha, st₁, hrun, hok, herror⟩ := exists_pass call w p
      { current with attempt := number, previous } st
    cases hout : a.outcome with
    | ok v =>
      rw [hout, ← hok v hout] at hrun
      rw [attempts_of_ok hrun]
      exact ⟨[a], .done ha hout⟩
    | error f =>
      rw [hout] at hrun
      rw [attempts_succ_of_error hrun (herror f hout)]
      rcases hgo : ((a.setback f).intermission policy (left + 1) number).exec w a.left with
        ⟨g | _, st'⟩
      · rw [Run.exec_bind_error _ hgo]
        exact ⟨[a], .stopped ha hout hgo⟩
      · rw [Run.exec_bind_ok _ hgo, Pass.setback_cause]
        obtain ⟨rest, hrest⟩ := ih (number + 1) ((a.setback f).mended.getD current) (some f) st'
        exact ⟨a :: rest, .again ha hout hgo hrest⟩

/-- **Hooks stand around every call.** However the middleware of a pipeline were added, replaced and removed, they
are in the order of their priorities, and everything that a call through them makes is a sequence of attempts,
each with the hooks around the call in this order and its reverse, and with its failure offered to them. -/
theorem execute_passes (edits : List (Edit σ)) (i : Nat) (call : Context → Run σ Content)
    (ctx : Context) (policy : RetryPolicy σ) (w : Surroundings σ) (st : State σ) :
    Ordered ((registered edits).get i) ((edited edits).get i).middlewares ∧
    match policy.attempts with
    | .error f => (((edited edits).get i).execute call ctx policy).exec w st = (.error f, st)
    | .ok n => ∃ passes, Passes call w ((edited edits).get i) policy (n - 1) 1 ctx none st passes
        ((((edited edits).get i).execute call ctx policy).exec w st) := by
  refine ⟨ordered_edited edits i, ?_⟩
  rw [execute]
  cases hcount : policy.attempts with
  | error f => exact Run.exec_bind_error _ (Run.exec_ofExcept _)
  | ok n =>
    rw [Run.exec_bind_ok _ (Run.exec_ofExcept _)]
    exact exists_passes call w ((edited edits).get i) policy (n - 1) 1 ctx none st

end Colloquy.Pipeline
