import Colloquy.Event
import Colloquy.Interpolation
import Colloquy.Options
import Colloquy.Output
import Colloquy.Session.Basic
import Colloquy.Store.Cells
import Colloquy.Store.TimedMap
import Colloquy.Store.TokenBucket

/-!
# Runs

A run reads its surroundings, changes a state and may fail; what was changed before a failure stays changed.
The surroundings answer what lies outside of the library: how observers and tool handlers react, how time
passes, which chances are drawn, what things of the callers' language there are besides values, how it is worded
that a value does not fit, and what the providers' services reply.  The state holds the clock, the events and
deliveries so far, the contents of all numbered cells, what shared outputs were read as, and the callers' own
state `σ`, which their callbacks work on.
-/

namespace Colloquy

/-! ### Surroundings -/

/-- What a provider's client is made for. -/
structure ClientKey where
  kind : ProviderKind
  apiKey : String
  baseUrl : Option String
  deriving DecidableEq, Repr, Inhabited

/-- What items are drawn by: a generator with a seed, or one that has started by itself, with its cell. -/
inductive Generator where
  | seeded (seed : Int)
  | unseeded (cell : Nat)
  deriving DecidableEq, Repr, Inhabited

/-- A generator and the number of items that were drawn by it. -/
structure Draws where
  generator : Generator
  taken : Nat := 0
  deriving Inhabited

/-- The answers of the world outside. -/
structure Surroundings (σ : Type) where
  /-- How an observer reacts to a message: it may fail. -/
  observe : Observer → Message → Option Failure
  /-- The clock's reading after a sleep of some length that began at some reading. -/
  afterSleep : Float → Float → Float
  /-- The chances that waits are spread with, one after the other, between zero and one. -/
  chance : Nat → Float
  /-- The place of the item that is drawn next, out of so many. -/
  choose : Draws → Nat → Nat
  /-- The things that there are besides values. -/
  things : Things
  /-- How it is worded that a value does not fit its record. -/
  wording : Wording
  /-- Makes a client for a provider, or says why its library cannot be loaded. -/
  connect : ClientKey → σ → Option String × σ
  /-- A service's reply to a request. -/
  send : ClientKey → Entries → σ → Except Failure Value × σ
  /-- A handler's answer to the arguments of a call. -/
  handle : Handler → Entries → σ → Except Failure Value × σ

/-- Surroundings without services, handlers and things besides values: observers accept everything, and a sleep takes
as long as was asked for. -/
def Surroundings.alone (σ : Type) : Surroundings σ where
  observe _ _ := none
  afterSleep clock delay := clock + delay
  chance _ := 0.5
  choose _ _ := 0
  things := .numeric
  wording := .plain
  connect _ host := (some "no library", host)
  send _ _ host := (.error (.fault .connection "no service"), host)
  handle _ _ host := (.error (.fault .runtime "no handler"), host)

/-! ### State -/

/-- Everything that changes while templates run. -/
structure State (σ : Type) where
  clock : Float := 0.0
  /-- The sleeps asked for, in order. -/
  sleeps : List Float := []
  /-- The events reported, in order. -/
  events : List Event := []
  /-- The messages that observers were given, in order. -/
  deliveries : List (Observer × Message) := []
  /-- The number of chances drawn for waits. -/
  draws : Nat := 0
  /-- The number of tool-call ids given out. -/
  callIds : Nat := 0
  /-- The number of shared outputs. -/
  objects : Nat := 0
  /-- What the structures of shared outputs were read as. -/
  readings : Cells (Option Value) := {}
  /-- The number of cells given out. -/
  cells : Nat := 0
  /-- The positions of lists. -/
  cursors : Cells Nat := {}
  /-- The model calls counted against budgets. -/
  spent : Cells Nat := {}
  /-- The draws of random choices. -/
  choices : Cells Draws := {}
  caches : Cells (TimedMap Float Content) := {}
  buckets : Cells (TokenBucket Float) := {}
  /-- The turns that scripted backends have taken. -/
  turns : Cells Nat := {}
  /-- What scripted backends were called with. -/
  asked : Cells (List (Session × Options)) := {}
  /-- The clients that provider backends have made. -/
  clients : Cells (List ClientKey) := {}
  /-- The provider backends that model sources have made for themselves. -/
  attached : Cells (Option Nat) := {}
  /-- The answers that scripted prompters have left. -/
  answers : Cells (List String) := {}
  /-- The prompts that scripted prompters have shown. -/
  shown : Cells (List String) := {}
  /-- The callers' own state. -/
  host : σ

/-! ### Runs -/

/-- A computation in surroundings that changes the state and may fail. -/
abbrev Run (σ α : Type) := ReaderT (Surroundings σ) (ExceptT Failure (StateM (State σ))) α

namespace Run

variable {σ α : Type}

/-- Runs in surroundings from a state. -/
def exec (r : Run σ α) (w : Surroundings σ) (s : State σ) : Except Failure α × State σ :=
  r w s

/-- Reports an event. -/
def log (e : Event) : Run σ Unit :=
  modify fun s => { s with events := s.events ++ [e] }

/-- Fails if something is wrong. -/
def ofExcept (x : Except Failure α) : Run σ α :=
  match x with
  | .ok a => pure a
  | .error f => throw f

/-- What was read from a value, or the failure that the value does not fit its record. -/
def ofChecked (record : String) (x : Checked α) : Run σ α := do
  ofExcept (x.mapError (.ofIssues (← read).wording record))

/-- Numbers tool calls with the ids that are still free. -/
def number (x : Numbered α) : Run σ α := do
  let s ← get
  let (a, callIds) := x.run s.callIds
  set { s with callIds }
  return a

/-- Gives out the number of a new cell. -/
def newCell : Run σ Nat := do
  let s ← get
  set { s with cells := s.cells + 1 }
  return s.cells

/-- Gives out the number of a new shared output. -/
def newObject : Run σ Nat := do
  let s ← get
  set { s with objects := s.objects + 1 }
  return s.objects

/-- Draws the next chance. -/
def draw : Run σ Float := do
  let w ← read
  let s ← get
  set { s with draws := s.draws + 1 }
  return w.chance s.draws

/-- Works on the callers' state. -/
def onHost (step : σ → Except Failure α × σ) : Run σ α := do
  let s ← get
  let (result, host) := step s.host
  set { s with host }
  ofExcept result

/-- The outcome of a run that fails nothing. -/
def outcome (r : Run σ α) : Run σ (Except Failure α) :=
  tryCatch (Except.ok <$> r) fun f => pure (.error f)

/-- Sleeps. -/
def sleep (delay : Float) : Run σ Unit := do
  let w ← read
  modify fun s => { s with sleeps := s.sleeps ++ [delay], clock := w.afterSleep s.clock delay }

/-- The failure that a fault of arithmetic amounts to. -/
def ofFault : Number.Fault → Failure
  | .overflow => .fault .overflow "(34, 'Numerical result out of range')"
  | .tooLarge => .fault .overflow "int too large to convert to float"
  | .zeroToNegativePower =>
    .fault .divisionByZero "0.0 cannot be raised to a negative power"
  | .notNumber => .fault .wrongType "a number is required"

/-- Fails if an arithmetic operation has no result. -/
def ofArithmetic (x : Except Number.Fault α) : Run σ α :=
  match x with
  | .ok a => pure a
  | .error f => throw (ofFault f)

/-! ### Executing

What each operation answers and how it leaves the state.  A run that is followed by another one is opened by
`exec_bind_ok` or `exec_bind_error`, once it is known how it ends. -/

variable {β : Type} {w : Surroundings σ} {s s' : State σ}

theorem ext {r r' : Run σ α} (h : ∀ w s, r.exec w s = r'.exec w s) : r = r' := by
  funext w s
  exact h w s

@[simp]
theorem exec_pure (a : α) : (pure a : Run σ α).exec w s = (.ok a, s) := rfl

@[simp]
theorem exec_throw (f : Failure) : (throw f : Run σ α).exec w s = (.error f, s) := rfl

@[simp]
theorem exec_read : (read : Run σ (Surroundings σ)).exec w s = (.ok w, s) := rfl

@[simp]
theorem exec_get : (get : Run σ (State σ)).exec w s = (.ok s, s) := rfl

@[simp]
theorem exec_set : (set s' : Run σ PUnit).exec w s = (.ok ⟨⟩, s') := rfl

@[simp]
theorem exec_modify (f : State σ → State σ) : (modify f : Run σ PUnit).exec w s = (.ok ⟨⟩, f s) :=
  rfl

theorem exec_bind (r : Run σ α) (f : α → Run σ β) : (r >>= f).exec w s =
    match r.exec w s with
    | (.ok a, s') => (f a).exec w s'
    | (.error e, s') => (.error e, s') := by
  show ((r >>= f) w s : Except Failure β × State σ) = match r w s with
    | (.ok a, s') => f a w s'
    | (.error e, s') => (.error e, s')
  simp only [bind, ReaderT.bind, ExceptT.bind, ExceptT.mk, StateT.bind]
  rcases r w s with ⟨_ | _, _⟩ <;> rfl

theorem exec_bind_ok {r : Run σ α} {a : α} (f : α → Run σ β) (h : r.exec w s = (.ok a, s')) :
    (r >>= f).exec w s = (f a).exec w s' := by
  rw [exec_bind, h]

theorem exec_bind_error {r : Run σ α} {e : Failure} (f : α → Run σ β)
    (h : r.exec w s = (.error e, s')) : (r >>= f).exec w s = (.error e, s') := by
  rw [exec_bind, h]

/-- A run that is followed by another one ends if both of them do. -/
theorem exec_of_bind_ok {r : Run σ α} {f : α → Run σ β} {b : β}
    (h : (r >>= f).exec w s = (.ok b, s')) :
    ∃ a s₁, r.exec w s = (.ok a, s₁) ∧ (f a).exec w s₁ = (.ok b, s') := by
  rw [exec_bind] at h
  rcases hr : r.exec w s with ⟨_ | a, s₁⟩
  · rw [hr] at h
    exact absurd (Prod.mk.inj h).1 (by simp)
  · rw [hr] at h
    exact ⟨a, s₁, rfl, h⟩

@[simp]
theorem exec_log (e : Event) :
    (log e : Run σ Unit).exec w s = (.ok (), { s with events := s.events ++ [e] }) := rfl

@[simp]
theorem exec_draw :
    (draw : Run σ Float).exec w s = (.ok (w.chance s.draws), { s with draws := s.draws + 1 }) := rfl

@[simp]
theorem exec_sleep (delay : Float) : (sleep delay : Run σ Unit).exec w s =
    (.ok (), { s with sleeps := s.sleeps ++ [delay], clock := w.afterSleep s.clock delay }) := rfl

@[simp]
theorem exec_ofExcept (x : Except Failure α) : (ofExcept x : Run σ α).exec w s = (x, s) := by
  cases x <;> rfl

theorem ofChecked_ok (record : String) (a : α) : (ofChecked record (.ok a) : Run σ α) = pure a := rfl

theorem exec_ofChecked (record : String) (x : Checked α) : (ofChecked record x : Run σ α).exec w s =
    (x.mapError (.ofIssues w.wording record), s) := exec_ofExcept _

theorem exec_onHost (step : σ → Except Failure α × σ) :
    (onHost step).exec w s = ((step s.host).1, { s with host := (step s.host).2 }) := by
  show (ofExcept (step s.host).1).exec w { s with host := (step s.host).2 } = _
  rw [exec_ofExcept]

/-- A run whose failure is an answer never fails, and leaves the state as the run does. -/
@[simp]
theorem exec_outcome (r : Run σ α) :
    (outcome r).exec w s = (.ok (r.exec w s).1, (r.exec w s).2) := by
  show outcome r w s = (.ok (r w s).1, (r w s).2)
  simp only [outcome, tryCatch, tryCatchThe, MonadExceptOf.tryCatch, ExceptT.tryCatch, ExceptT.mk,
    Functor.map, ExceptT.map, StateT.bind, bind]
  rcases r w s with ⟨_ | _, _⟩ <;> rfl

end Run

end Colloquy
