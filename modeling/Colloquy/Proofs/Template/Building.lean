import Colloquy.Proofs.Template.Resolution
import Colloquy.Proofs.Twin.Run
import Colloquy.Template.Agent

/-!
# Building and composing

A program may be built by calls on an agent, with functions for the bodies in it, or composed of templates at once.
Both ways make programs that run alike (`execute_built`): a builder only puts a sequence around every body, which
nothing sees but a loop that looks for its parts (`runsAs_loop`).

So a loop that a builder has left without any steps is not refused as an empty loop is (`executeBuilt_idling`), and
the law holds of the calls in which every loop has a step.

The proof is an induction on the calls: both ways construct their parts in the same order, and what they construct
corresponds (`Run.Agrees`).
-/

namespace Colloquy

variable {σ α α' β β' : Type}

/-! ### Runs that agree -/

/-- Runs that leave the same state, and fail alike or answer what is related. -/
def Run.Agrees (R : α → α' → Prop) (r : Run σ α) (r' : Run σ α') : Prop :=
  ∀ w st, Ended R (r.exec w st).1 (r'.exec w st).1 ∧ (r'.exec w st).2 = (r.exec w st).2

namespace Run.Agrees

variable {R : α → α' → Prop} {S : β → β' → Prop} {r : Run σ α} {r' : Run σ α'}

protected theorem pure {a : α} {a' : α'} (h : R a a') :
    Agrees R (pure a : Run σ α) (pure a') :=
  fun _ _ => ⟨.ok h, rfl⟩

protected theorem refl (r : Run σ α) : Agrees Eq r r := by
  intro w st
  refine ⟨?_, rfl⟩
  cases (r.exec w st).1 with
  | ok a => exact .ok rfl
  | error f => exact .error f

protected theorem bind {k : α → Run σ β} {k' : α' → Run σ β'} (hr : Agrees R r r')
    (hk : ∀ a a', R a a' → Agrees S (k a) (k' a')) : Agrees S (r >>= k) (r' >>= k') := by
  intro w st
  obtain ⟨hended, hleft⟩ := hr w st
  rcases hexec : r.exec w st with ⟨_ | a, st₁⟩ <;>
    rcases hexec' : r'.exec w st with ⟨_ | a', st₁'⟩ <;>
    rw [hexec, hexec'] at hended hleft
  · cases hended
    rw [exec_bind_error k hexec, exec_bind_error k' hexec']
    exact ⟨.error _, hleft⟩
  · cases hended
  · cases hended
  · cases hended with
    | ok hanswer =>
      obtain rfl : st₁' = st₁ := hleft
      rw [exec_bind_ok k hexec, exec_bind_ok k' hexec']
      exact hk a a' hanswer w st₁'

/-- The same construction, followed by what agrees. -/
theorem same_bind {r : Run σ α} {k : α → Run σ β} {k' : α → Run σ β'}
    (hk : ∀ a, Agrees S (k a) (k' a)) : Agrees S (r >>= k) (r >>= k') :=
  .bind (.refl r) fun a _ h => h ▸ hk a

/-- Runs that agree on their answers are the same. -/
theorem eq {r r' : Run σ α} (h : Agrees Eq r r') : r = r' := by
  refine Run.ext fun w st => ?_
  obtain ⟨hended, hleft⟩ := h w st
  refine Prod.ext ?_ hleft.symm
  generalize (r.exec w st).1 = x at hended
  generalize (r'.exec w st).1 = x' at hended
  cases hended with
  | ok h => rw [h]
  | error f => rfl

end Run.Agrees

/-! ### Calls -/

namespace Agent

mutual

/-- A call on an agent. -/
inductive Call (σ : Type) where
  | system (content : ContentInput σ)
  | user (content : ContentInput σ)
  | assistant (content : ContentInput σ) (extract : Extract)
  | transform (functions : List (Reshaping σ))
  | add (t : Template σ)
  | conditional (condition : Predicate σ) (positive : Callback σ) (negative : Option (Callback σ))
  | loop (body : Callback σ) (done : Option (Predicate σ)) (rounds : Option Int)
  | subroutine (body : Callback σ) (start : Option (Session → Run σ Session))
      (squash : Option (Squashing σ))
  | sequence (body : Callback σ)

/-- A function for a body: the calls that it makes on the agent that it is given, and whether it answers this agent
or nothing. -/
inductive Callback (σ : Type) where
  | calling (calls : List (Call σ)) (answers : Bool)

end

/-! ### Two ways to a program -/

mutual

/-- Makes a call on an agent. -/
def Call.apply : Call σ → Agent σ → Run σ (Agent σ)
  | .system content, a => a.system content
  | .user content, a => a.user content
  | .assistant content extract, a => a.assistant content extract
  | .transform functions, a => a.transform functions
  | .add t, a => return a.add t
  | .conditional condition positive negative, a =>
    a.conditional condition positive.builder (Callback.builder? negative)
  | .loop body done rounds, a => a.loop body.builder done rounds
  | .subroutine body start squash, a => a.subroutine body.builder start squash
  | .sequence body, a => a.sequence body.builder

/-- The function that makes the calls of a callback. -/
def Callback.builder : Callback σ → Builder σ
  | .calling calls answers => fun a => do
    let a ← applyAll calls a
    return ⟨a, if answers then some a else none⟩

/-- The function for a callback that may be missing. -/
def Callback.builder? : Option (Callback σ) → Option (Builder σ)
  | none => none
  | some body => some body.builder

/-- Makes calls on an agent, one after the other. -/
def applyAll : List (Call σ) → Agent σ → Run σ (Agent σ)
  | [], a => return a
  | c :: rest, a => do applyAll rest (← c.apply a)

end

mutual

/-- The template that a call stands for, where loops have a limit on their rounds. -/
def Call.compose (limit : Int) : Call σ → Run σ (Template σ)
  | .system content => Template.ofSystem content
  | .user content => return .user (← content.resolve)
  | .assistant content extract => return .assistant (← content.resolve) extract
  | .transform functions => Run.ofExcept (Template.ofFunctions functions)
  | .add t => return t
  | .conditional condition positive negative => do
    let positive ← positive.parts limit
    return .conditional condition (.sequence positive {}) (← Callback.otherwise limit negative)
  | .loop body done rounds => return .loop (← body.parts limit) done (rounds.getD limit) {}
  | .subroutine body start squash => return .subroutine (← body.parts limit) start squash {}
  | .sequence body => return .sequence (← body.parts limit) {}

/-- The templates that the calls of a callback stand for. -/
def Callback.parts (limit : Int) : Callback σ → Run σ (List (Template σ))
  | .calling calls _ => composeAll limit calls

/-- The sequence that a callback which may be missing stands for. -/
def Callback.otherwise (limit : Int) : Option (Callback σ) → Run σ (Option (Template σ))
  | none => return none
  | some body => return some (.sequence (← body.parts limit) {})

/-- The templates that calls stand for. -/
def composeAll (limit : Int) : List (Call σ) → Run σ (List (Template σ))
  | [] => return []
  | c :: rest => do
    let t ← c.compose limit
    return t :: (← composeAll limit rest)

end

/-! ### Loops with steps -/

/-- Whether a callback makes any calls. -/
def Callback.callsAny : Callback σ → Bool
  | .calling calls _ => !calls.isEmpty

mutual

/-- Whether every loop that a call makes has a step. -/
def Call.busy : Call σ → Bool
  | .conditional _ positive negative => positive.busy && Callback.busy? negative
  | .loop body _ _ => body.callsAny && body.busy
  | .subroutine body _ _ => body.busy
  | .sequence body => body.busy
  | _ => true

/-- Whether every loop in a body has a step. -/
def Callback.busy : Callback σ → Bool
  | .calling calls _ => busyAll calls

/-- Whether every loop in a body that may be missing has a step. -/
def Callback.busy? : Option (Callback σ) → Bool
  | none => true
  | some body => body.busy

/-- Whether every loop that some calls make has a step. -/
def busyAll : List (Call σ) → Bool
  | [] => true
  | c :: rest => c.busy && busyAll rest

end

end Agent

/-! ### Templates that run alike -/

namespace Template

/-- Templates that run alike in every scope. -/
def RunsAs (t t' : Template σ) : Prop :=
  ∀ outer s, t.runIn outer s = t'.runIn outer s

variable {ts ts' : List (Template σ)}

theorem runsAs_refl (t : Template σ) : t.RunsAs t := fun _ _ => rfl

theorem runAllIn_congr (h : List.Forall₂ RunsAs ts ts') (outer : Defaults σ) (s : Session) :
    runAllIn ts outer s = runAllIn ts' outer s := by
  induction h generalizing s with
  | nil => rfl
  | @cons t t' rest rest' hfirst hrest ih =>
    show (t.runIn outer s >>= fun s => runAllIn rest outer s) =
      (t'.runIn outer s >>= fun s => runAllIn rest' outer s)
    rw [hfirst outer s]
    exact bind_congr fun s => ih s

/-- A sequence without sources of its own may be put around a body. -/
theorem runAllIn_wrapped (h : List.Forall₂ RunsAs ts ts') (outer : Defaults σ) (s : Session) :
    runAllIn [sequence ts {}] outer s = runAllIn ts' outer s := by
  show (runAllIn ts (Defaults.within {} outer) s >>= pure) = _
  rw [bind_pure, Defaults.nothing_within, runAllIn_congr h]

theorem runsAs_sequence (h : List.Forall₂ RunsAs ts ts') (defaults : Defaults σ) :
    (sequence ts defaults).RunsAs (sequence ts' defaults) :=
  fun _ s => runAllIn_congr h _ s

theorem runsAs_conditional (condition : Predicate σ) {positive positive' : Template σ}
    {negative negative' : Option (Template σ)} (hpositive : positive.RunsAs positive')
    (hnegative : Option.Rel RunsAs negative negative') :
    (conditional condition positive negative).RunsAs (conditional condition positive' negative') := by
  intro outer s
  refine bind_congr fun held => ?_
  rw [hpositive outer s]
  cases hnegative with
  | none => rfl
  | some h => rw [runOptionIn, runOptionIn, h outer s]

theorem runsAs_subroutine (h : List.Forall₂ RunsAs ts ts') (start : Option (Session → Run σ Session))
    (squash : Option (Squashing σ)) :
    (subroutine [sequence ts {}] start squash {}).RunsAs (subroutine ts' start squash {}) := by
  intro outer s
  rw [runIn, runIn, funext (runAllIn_wrapped h _)]

/-- A loop looks whether it has any parts, so the sequence must not be put around nothing. -/
theorem runsAs_loop (h : List.Forall₂ RunsAs ts ts') (hts' : ts' ≠ []) (done : Option (Predicate σ))
    (rounds : Int) : (loop [sequence ts {}] done rounds {}).RunsAs (loop ts' done rounds {}) := by
  intro outer s
  have hempty : ts'.isEmpty = false := List.isEmpty_eq_false_iff.2 hts'
  rw [runIn, runIn, funext (runAllIn_wrapped h _)]
  unfold runLoop
  rw [hempty, List.isEmpty_cons]

end Template

/-! ### Building what is composed -/

namespace Agent

open Template

/-- What a call has made of an agent goes with the template that it stands for: one more step, which runs alike. -/
def Added (a b : Agent σ) (t : Template σ) : Prop :=
  ∃ t₁ : Template σ, t₁.RunsAs t ∧ b = a.add t₁

/-- What calls have made of an agent goes with the templates that they stand for. -/
def Grown (a b : Agent σ) (ts : List (Template σ)) : Prop :=
  ∃ ts₁ : List (Template σ), List.Forall₂ RunsAs ts₁ ts ∧ b = { a with steps := a.steps ++ ts₁ }

/-- A body goes with the parts of which it is a sequence. -/
def Wraps (t : Template σ) (ts : List (Template σ)) : Prop :=
  ∃ ts₁ : List (Template σ), List.Forall₂ RunsAs ts₁ ts ∧ t = .sequence ts₁ {}

theorem Wraps.runsAs {t : Template σ} {ts : List (Template σ)} (h : Wraps t ts) :
    t.RunsAs (.sequence ts {}) := by
  obtain ⟨ts₁, hsame, rfl⟩ := h
  exact runsAs_sequence hsame {}

/-- A step that both make in the same way. -/
theorem agrees_added (r : Run σ (Template σ)) (a : Agent σ) :
    Run.Agrees (Added a) (do return a.add (← r)) r := by
  have hstep : Run.Agrees (Added a) (do return a.add (← r)) (r >>= pure) :=
    .same_bind fun t => .pure ⟨t, runsAs_refl t, rfl⟩
  rwa [bind_pure] at hstep

mutual

/-- A call adds one step, which runs like the template that the call stands for. -/
theorem Call.agrees : ∀ (c : Call σ) (a : Agent σ), c.busy = true →
    Run.Agrees (Added a) (c.apply a) (c.compose a.maxRounds)
  | .system content, a, _ => agrees_added (Template.ofSystem content) a
  | .user _, _, _ => .same_bind fun _ => .pure ⟨_, runsAs_refl _, rfl⟩
  | .assistant _ _, _, _ => .same_bind fun _ => .pure ⟨_, runsAs_refl _, rfl⟩
  | .transform functions, a, _ => agrees_added (Run.ofExcept (Template.ofFunctions functions)) a
  | .add t, _, _ => .pure ⟨t, runsAs_refl t, rfl⟩
  | .conditional condition positive none, a, h => by
    rw [Call.busy, Bool.and_eq_true] at h
    refine (positive.agrees a h.1).bind ?_
    rintro t ts ⟨hpositive, -⟩
    exact .pure ⟨_, runsAs_conditional condition hpositive.runsAs .none, rfl⟩
  | .conditional condition positive (some negative), a, h => by
    rw [Call.busy, Bool.and_eq_true] at h
    refine (positive.agrees a h.1).bind ?_
    rintro t ts ⟨hpositive, -⟩
    rw [Callback.otherwise, bind_assoc]
    refine (negative.agrees a h.2).bind ?_
    rintro t' ts' ⟨hnegative, -⟩
    exact .pure ⟨_, runsAs_conditional condition hpositive.runsAs (.some hnegative.runsAs), rfl⟩
  | .loop body done rounds, a, h => by
    rw [Call.busy, Bool.and_eq_true] at h
    refine (body.agrees a h.2).bind ?_
    rintro _ ts ⟨⟨ts₁, hsame, rfl⟩, hany⟩
    exact .pure ⟨_, runsAs_loop hsame (hany h.1) done (rounds.getD a.maxRounds), rfl⟩
  | .subroutine body start squash, a, h => by
    refine (body.agrees a h).bind ?_
    rintro _ ts ⟨⟨ts₁, hsame, rfl⟩, -⟩
    exact .pure ⟨_, runsAs_subroutine hsame start squash, rfl⟩
  | .sequence body, a, h => by
    refine (body.agrees a h).bind ?_
    rintro t ts ⟨hwraps, -⟩
    exact .pure ⟨t, hwraps.runsAs, rfl⟩

/-- A builder makes a sequence of what its calls stand for, whether it answers its agent or nothing. -/
theorem Callback.agrees : ∀ (body : Callback σ) (a : Agent σ), body.busy = true →
    Run.Agrees (fun t ts => Wraps t ts ∧ (body.callsAny = true → ts ≠ [])) (a.body body.builder)
      (body.parts a.maxRounds)
  | .calling calls answers, a, h => by
    rw [Agent.body, Callback.builder, bind_assoc, Callback.parts,
      ← bind_pure (composeAll a.maxRounds calls)]
    refine (agrees_applyAll calls { maxRounds := a.maxRounds } h).bind ?_
    rintro _ ts ⟨⟨ts₁, hsame, rfl⟩, hlength⟩
    refine .pure ⟨⟨ts₁, hsame, ?_⟩, fun hany hts => ?_⟩
    · cases answers <;> rfl
    · rw [hts, List.length_nil] at hlength
      rw [Callback.callsAny, List.length_eq_zero_iff.1 hlength.symm] at hany
      exact absurd hany Bool.false_ne_true

/-- Calls add the steps that they stand for. -/
theorem agrees_applyAll : ∀ (calls : List (Call σ)) (a : Agent σ), busyAll calls = true →
    Run.Agrees (fun b ts => Grown a b ts ∧ ts.length = calls.length) (applyAll calls a)
      (composeAll a.maxRounds calls)
  | [], a, _ => by
    refine .pure ⟨⟨[], .nil, ?_⟩, rfl⟩
    rw [List.append_nil]
  | c :: rest, a, h => by
    rw [busyAll, Bool.and_eq_true] at h
    refine (c.agrees a h.1).bind ?_
    rintro _ t ⟨t₁, hfirst, rfl⟩
    rw [← bind_pure (applyAll rest (a.add t₁))]
    refine (agrees_applyAll rest (a.add t₁) h.2).bind ?_
    rintro _ ts ⟨⟨ts₁, hrest, rfl⟩, hlength⟩
    refine .pure ⟨⟨t₁ :: ts₁, .cons hfirst hrest, ?_⟩, congrArg (· + 1) hlength⟩
    rw [add, List.append_assoc, List.singleton_append]

end

/-! ### Executing either -/

/-- What is built by calls on a new agent, with a limit on rounds and default sources, and executed. -/
def executeBuilt (limit : Int) (defaults : Defaults σ) (calls : List (Call σ)) (s : Option Session) :
    Run σ Session := do
  let a ← applyAll calls { defaults, maxRounds := limit }
  a.toTemplate.execute s

/-- What calls stand for, composed with the same limit and default sources, and executed. -/
def executeComposed (limit : Int) (defaults : Defaults σ) (calls : List (Call σ))
    (s : Option Session) : Run σ Session := do
  let steps ← composeAll limit calls
  (Template.sequence steps defaults).execute s

/-- **Building is composing.** For all calls on an agent in which every loop has a step, nested however deep, with
functions that answer their agent or nothing, executing the agent is the same as executing what was composed
directly: the same session or failure, from every state to the same state. -/
theorem execute_built (limit : Int) (defaults : Defaults σ) {calls : List (Call σ)}
    (h : busyAll calls = true) (s : Option Session) :
    executeBuilt limit defaults calls s = executeComposed limit defaults calls s := by
  refine Run.Agrees.eq ((agrees_applyAll calls { defaults, maxRounds := limit } h).bind ?_)
  rintro _ steps ⟨⟨steps₁, hsame, rfl⟩, -⟩
  have hexec : (Agent.toTemplate { steps := steps₁, defaults, maxRounds := limit }).execute s =
      (Template.sequence steps defaults).execute s := by
    rw [execute_eq_runIn, execute_eq_runIn]
    exact runAllIn_congr hsame _ (s.getD {})
  rw [List.nil_append, hexec]
  exact .refl _

/-! ### Loops in a builder's hands -/

/-- The contents of the messages that a run ends with. -/
def contentsOf (r : Run Unit Session) : Option (List String) :=
  (r.exec (.alone Unit) { host := () }).1.toOption.map (·.messages.map (·.content))

/-- A system message, a subroutine that says the same until there are three messages, and nothing in a sequence; the
function for the loop's body answers nothing. -/
def insisting : List (Call Unit) :=
  [.system (.value (.str "Be brief.")),
    .subroutine (.calling [.loop (.calling [.user (.value (.str "Well?"))] false)
        (some fun s => return .bool (3 ≤ s.messages.length)) none] true)
      (some Session.inheritParent) (some (.of Session.appendNewMessages)),
    .sequence (.calling [] true)]

/-- Built or composed, the loop in the subroutine ends after two rounds. -/
theorem execute_built_insisting :
    busyAll insisting = true ∧
      executeBuilt 5 {} insisting none = executeComposed 5 {} insisting none ∧
      contentsOf (executeBuilt 5 {} insisting none) = some ["Be brief.", "Well?", "Well?"] := by
  refine ⟨by decide, execute_built 5 {} (by decide) none, by decide +kernel⟩

/-- A loop without any steps, whose predicate holds. -/
def idling : List (Call Unit) :=
  [.loop (.calling [] true) (some fun _ => return .bool true) none]

/-- **A builder hides that a loop is empty.** Composed directly, a loop without steps is refused; built, it has one
part, which is an empty sequence, and passes the session on. -/
theorem executeBuilt_idling :
    ((executeBuilt 5 {} idling none).exec (.alone Unit) { host := () }).1 = .ok {} ∧
      ((executeComposed 5 {} idling none).exec (.alone Unit) { host := () }).1 =
        .error (.emptyComposite "Loop") :=
  ⟨rfl, rfl⟩

end Agent

end Colloquy
