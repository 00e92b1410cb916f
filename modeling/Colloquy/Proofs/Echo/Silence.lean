import Colloquy.Aggregation.Strategy
import Colloquy.Proofs.Source.Upkeep

/-!
# Silence

A run is silent towards an observer if it shows it no message; towards no observer means in the log.  What
callers hand over may show messages by itself, so that it does not is a promise of theirs (`Source.Silent`).
From these promises it follows that sources are silent (`Source.Silent.getContent`): nothing on the way from a
generator to accepted content shows a message.
-/

namespace Colloquy

variable {σ α : Type}

/-! ### Silent runs -/

/-- A run that shows no message to an observer, or in the log. -/
abbrev Run.Silent (target : Option Observer) (r : Run σ α) : Prop :=
  r.Keeps (·.echoes target)

variable {target : Option Observer}

open Run (Keeps Maintains KeepsBooks Booked)

theorem Run.KeepsBooks.silent {r : Run σ α} (h : r.KeepsBooks) : r.Silent target :=
  fun w s => congrFun (congrArg Prod.snd (h w s)) target

theorem Run.booked_echoes (ms : List Message) :
    Booked (σ := σ) (·.echoes target = ms) :=
  fun _ _ h hs => (congrFun (congrArg Prod.snd h) target).trans hs

theorem Run.Silent.log {e : Event} (h : e.echoed? = none) : (log e : Run σ Unit).Silent target :=
  (keepsBooks_log h).silent

open Run.Silent

/-! ### What callers promise -/

/-- A middleware all of whose hooks are silent. -/
structure Middleware.Silent (target : Option Observer) (m : Middleware σ) : Prop where
  before : ∀ ctx, (m.before ctx).Silent target
  after : ∀ ctx, (m.after ctx).Silent target
  onError : ∀ ctx f, (m.onError ctx f).Silent target
  transform : ∀ content ctx, (m.transform content ctx).Silent target
  onRejected : ∀ ctx, (m.onRejected ctx).Silent target

/-- A policy that tells of failures silently. -/
def RetryPolicy.Silent (target : Option Observer) (p : RetryPolicy σ) : Prop :=
  ∀ notify ∈ p.onRetry, ∀ f attempt delay, (notify f attempt delay).Silent target

/-- Functions that judge silently. -/
def Validator.AllSilent (target : Option Observer) (fs : List (Value → Session → Run σ Finding)) :
    Prop :=
  ∀ f ∈ fs, ∀ content s, (f content s).Silent target

/-- An origin whose function, prompter or backend is silent, if it is the caller's. -/
def Origin.Silent (target : Option Observer) : Origin σ → Prop
  | .callback f => ∀ s, (f s).Silent target
  | .prompt _ _ (.console ask) => ∀ text, (ask text).Silent target
  | .model access => ∀ cell respond, access.backend = some (.computed cell respond) →
    ∀ s o, (respond s o).Silent target
  | _ => True

/-- A source in which everything that callers have handed over is silent. -/
structure Source.Silent (target : Option Observer) (src : Source σ) : Prop where
  origin : src.origin.Silent target
  validator : ∀ v ∈ src.policy.validator, Validator.AllSilent target v.functions
  middlewares : ∀ m ∈ src.policy.pipeline.middlewares, m.Silent target
  retry : src.policy.retry.Silent target

/-! ### What callers have promised to maintain -/

/-- A silent middleware maintains what was shown. -/
theorem Middleware.Silent.maintains {m : Middleware σ} (h : m.Silent target) (ms : List Message) :
    m.Maintains (·.echoes target = ms) where
  before ctx := Run.keeps_iff_maintains.1 (h.before ctx) ms
  after ctx := Run.keeps_iff_maintains.1 (h.after ctx) ms
  onError ctx f := Run.keeps_iff_maintains.1 (h.onError ctx f) ms
  transform content ctx := Run.keeps_iff_maintains.1 (h.transform content ctx) ms
  onRejected ctx := Run.keeps_iff_maintains.1 (h.onRejected ctx) ms

theorem RetryPolicy.Silent.maintains {p : RetryPolicy σ} (h : p.Silent target) (ms : List Message) :
    p.Maintains (·.echoes target = ms) :=
  fun notify hnotify f attempt delay =>
    Run.keeps_iff_maintains.1 (h notify hnotify f attempt delay) ms

theorem Validator.AllSilent.maintain {fs : List (Value → Session → Run σ Finding)}
    (h : AllSilent target fs) (ms : List Message) : AllMaintain (·.echoes target = ms) fs :=
  fun f hf content s => Run.keeps_iff_maintains.1 (h f hf content s) ms

/-! ### Generators -/

/-- A backend is silent if the function that computes its answers is. -/
theorem Backend.silent_generate (b : Backend σ)
    (h : ∀ cell respond, b = .computed cell respond → ∀ s o, (respond s o).Silent target)
    (s : Session) (o : Options) : (b.generate s o).Silent target := by
  refine Run.keeps_iff_maintains.2 fun ms => b.maintains_generate (Run.booked_echoes ms) s o ?_ ?_
  · exact fun cell _ => .modify fun st hst => hst
  · exact fun cell respond hb => Run.keeps_iff_maintains.1 (h cell respond hb s o) ms

theorem Budget.silent_acquire (b : Budget) : (b.acquire : Run σ Nat).Silent target :=
  b.keeps_acquire (fun _ _ => rfl) fun _ _ => log rfl

namespace Source

theorem silent_askModel (access : ModelAccess σ) (h : (Origin.model access).Silent target)
    (s : Session) : (askModel access s).Silent target := by
  have hask : (do (← backendOf access).generate s access.options : Run σ Output).Silent target := by
    refine Run.keeps_iff_maintains.2 fun ms => maintains_askBackend (Run.booked_echoes ms) ?_
    intro b hb
    refine Run.keeps_iff_maintains.1 (b.silent_generate (fun cell respond hcomputed => ?_) s _) ms
    exact h cell respond (hb.trans (congrArg some hcomputed))
  refine access.budget.silent_acquire.bind fun _ => hask.outcome.bind fun ended => ?_
  cases ended with
  | error f => exact .throw _
  | ok out => exact .ite (.pure _) (.throw _)

/-- A generator is silent if the caller's part in it is. -/
theorem silent_generate {origin : Origin σ} (h : origin.Silent target) (s : Session)
    (feedback : Option String) : (generate origin s feedback).Silent target := by
  cases origin with
  | literal template => exact Keeps.read.bind fun w => (Keeps.ofExcept _).bind fun text => .pure _
  | list items loop cell => exact (keepsBooks_nextItem items loop cell).silent
  | random items cell => exact (keepsBooks_drawItem items cell).silent
  | callback f => exact h s
  | prompt prompt default prompter =>
    refine Run.keeps_iff_maintains.2 fun ms =>
      maintains_askPerson (Run.booked_echoes ms) prompt default ?_ s feedback
    rintro read rfl text
    exact Run.keeps_iff_maintains.1 (h text) ms
  | model access => exact silent_askModel access h s

namespace Silent

variable {src : Source σ}

/-- A silent source maintains what was shown. -/
theorem maintains (h : src.Silent target) (ms : List Message) :
    src.Maintains (·.echoes target = ms) where
  generate s feedback := Run.keeps_iff_maintains.1 (silent_generate h.origin s feedback) ms
  validator v hv := (h.validator v hv).maintain ms
  middlewares m hm := (h.middlewares m hm).maintains ms
  retry := h.retry.maintains ms

/-- **Sources are silent.** If everything that callers have handed over to a source is silent, then so is the
source, whatever session it is asked on, and whether it answers or fails. -/
theorem getContent (h : src.Silent target) (s : Session) : (src.getContent s).Silent target :=
  Run.keeps_iff_maintains.2 fun ms => (h.maintains ms).getContent (Run.booked_echoes ms) s

end Silent

end Source

end Colloquy
