import Colloquy.Proofs.Run.Keeps

/-!
# The books

Of all that changes while sources are asked, three things are of interest from outside: which model calls were
counted, which calls backends have recorded, and which messages were shown.  These are the books of a state
(`State.books`).  Everything else that the library does to a state by itself leaves them as they are.
-/

namespace Colloquy

variable {σ α : Type}

/-! ### Messages shown -/

/-- The message that an event shows. -/
def Event.echoed? : Event → Option Message
  | .messageEchoed m => some m
  | _ => none

namespace State

/-- The messages that were shown to an observer so far, or that were shown in the log. -/
def echoes (s : State σ) : Option Observer → List Message
  | some o => (s.deliveries.filter (·.1 = o)).map (·.2)
  | none => s.events.filterMap Event.echoed?

/-! ### The books of a state -/

/-- The model calls that were counted, and those that backends have recorded. -/
def calls (s : State σ) : Cells Nat × Cells (List (Session × Options)) :=
  (s.spent, s.asked)

/-- The calls that were counted and recorded, and the messages that were shown. -/
def books (s : State σ) :
    (Cells Nat × Cells (List (Session × Options))) × (Option Observer → List Message) :=
  (s.calls, s.echoes)

end State

namespace Run

/-- A property of states that only depends on the books. -/
def Booked (P : State σ → Prop) : Prop :=
  ∀ s s', s'.books = s.books → P s → P s'

/-- A property of states that only depends on the calls in the books. -/
def CallsOnly (P : State σ → Prop) : Prop :=
  ∀ s s', s'.calls = s.calls → P s → P s'

theorem CallsOnly.booked {P : State σ → Prop} (hP : CallsOnly P) : Booked P :=
  fun s s' h => hP s s' (Prod.mk.inj h).1

/-- A run that leaves the books as they are. -/
abbrev KeepsBooks (r : Run σ α) : Prop := r.Keeps State.books

theorem KeepsBooks.maintains {P : State σ → Prop} {r : Run σ α} (h : r.KeepsBooks) (hP : Booked P) :
    r.Maintains P :=
  Keeps.maintains h hP

/-! ### What leaves the books as they are -/

theorem keepsBooks_log {e : Event} (h : e.echoed? = none) : (log e : Run σ Unit).KeepsBooks := by
  intro w s
  refine Prod.ext rfl (funext fun target => ?_)
  rw [exec_log]
  cases target with
  | some o => rfl
  | none =>
    show (s.events ++ [e]).filterMap Event.echoed? = s.events.filterMap Event.echoed?
    rw [List.filterMap_append, List.filterMap_cons_none h, List.filterMap_nil, List.append_nil]

theorem keepsBooks_sleep (delay : Float) : (sleep delay : Run σ Unit).KeepsBooks :=
  Keeps.bind .read fun _ => .modify fun _ => rfl

theorem keepsBooks_newCell : (newCell : Run σ Nat).KeepsBooks := fun _ _ => rfl

theorem keepsBooks_newObject : (newObject : Run σ Nat).KeepsBooks := fun _ _ => rfl

theorem keepsBooks_draw : (draw : Run σ Float).KeepsBooks := fun _ _ => rfl

theorem keepsBooks_onHost (step : σ → Except Failure α × σ) : (onHost step).KeepsBooks := by
  intro w s
  rw [exec_onHost]
  rfl

end Run

end Colloquy
