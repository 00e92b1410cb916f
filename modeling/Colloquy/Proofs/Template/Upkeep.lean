import Colloquy.Proofs.Parallel.Sequence
import Colloquy.Proofs.Run.Books
import Colloquy.Proofs.Template.Resolution

/-!
# What programs maintain

A program adds messages to sessions, which only shows them; all else that it does to a state it does through its
sources and the callers' functions in it.  So a property that only depends on the calls in the books is
maintained by a program if its sources and functions maintain it (`Template.MadeOf.runIn`).

The proof is an induction on how the program is put together, with the scope as an argument.
-/

namespace Colloquy

variable {σ : Type} {P : State σ → Prop} {Q Q' : Source σ → Prop} {change : Source σ → Source σ}

open Run

/-! ### What programs are made of -/

/-- A strategy whose functions maintain a property, and whose judge is of some kind. -/
def Strategy.MadeOf (P : State σ → Prop) (Q : Source σ → Prop) : Strategy σ → Prop
  | keepAll => True
  | best scorer => ∀ f ∈ scorer, ∀ s, (f s).Maintains P
  | custom f => ∀ outcomes, (f outcomes).Maintains P
  | judged judge => Q judge

/-- Branches with sources and a strategy of some kind. -/
structure Parallel.MadeOf (P : State σ → Prop) (Q : Source σ → Prop) (p : Parallel σ) : Prop where
  branches : ∀ b ∈ p.branches, Q b.source
  strategy : p.strategy.MadeOf P Q

/-- Default sources of some kind. -/
structure Defaults.MadeOf (Q : Source σ → Prop) (d : Defaults σ) : Prop where
  user : ∀ src ∈ d.user, Q src
  assistant : ∀ src ∈ d.assistant, Q src

/-- A program with sources of some kind, and with functions that maintain a property. -/
inductive Template.MadeOf (P : State σ → Prop) (Q : Source σ → Prop) : Template σ → Prop
  | system {source} (h : Q source) : MadeOf P Q (system source)
  | user {source} (h : ∀ src ∈ source, Q src) : MadeOf P Q (user source)
  | assistant {source extract} (h : ∀ src ∈ source, Q src) : MadeOf P Q (assistant source extract)
  | conditional {condition positive negative} (hcondition : ∀ s, (condition s).Maintains P)
    (hpositive : MadeOf P Q positive) (hnegative : ∀ t ∈ negative, MadeOf P Q t) :
    MadeOf P Q (conditional condition positive negative)
  | transform {functions} (h : ∀ f ∈ functions, ∀ s, (f s).Maintains P) :
    MadeOf P Q (transform functions)
  | sequence {body defaults} (hdefaults : defaults.MadeOf Q) (hbody : ∀ t ∈ body, MadeOf P Q t) :
    MadeOf P Q (sequence body defaults)
  | loop {body done rounds defaults} (hdone : ∀ p ∈ done, ∀ s, (p s).Maintains P)
    (hdefaults : defaults.MadeOf Q) (hbody : ∀ t ∈ body, MadeOf P Q t) :
    MadeOf P Q (loop body done rounds defaults)
  | subroutine {body start squash defaults} (hstart : ∀ f ∈ start, ∀ s, (f s).Maintains P)
    (hsquash : ∀ f ∈ squash, ∀ s s', (f s s').Maintains P) (hdefaults : defaults.MadeOf Q)
    (hbody : ∀ t ∈ body, MadeOf P Q t) : MadeOf P Q (subroutine body start squash defaults)
  | parallel {p} (h : p.MadeOf P Q) : MadeOf P Q (parallel p)
  | agent {steps defaults} (hdefaults : defaults.MadeOf Q) (hsteps : ∀ t ∈ steps, MadeOf P Q t) :
    MadeOf P Q (agent steps defaults)

/-! ### Other sources -/

theorem forall_mem_or {source outer : Option (Source σ)} (h : ∀ src ∈ source, Q src)
    (houter : ∀ src ∈ outer, Q src) : ∀ src ∈ source.or outer, Q src := by
  cases source with
  | none => exact houter
  | some own => exact h

theorem Defaults.MadeOf.within {own outer : Defaults σ} (hown : own.MadeOf Q)
    (houter : outer.MadeOf Q) : (own.within outer).MadeOf Q :=
  ⟨forall_mem_or hown.user houter.user, forall_mem_or hown.assistant houter.assistant⟩

section Change

variable (hchange : ∀ src, Q src → Q' (change src))
include hchange

theorem forall_mem_map {source : Option (Source σ)} (h : ∀ src ∈ source, Q src) :
    ∀ src ∈ source.map change, Q' src := by
  intro src hsrc
  cases source with
  | none => exact absurd hsrc (Option.not_mem_none src)
  | some own =>
    rw [← Option.some.inj hsrc]
    exact hchange own (h own rfl)

theorem Defaults.MadeOf.mapSources {d : Defaults σ} (h : d.MadeOf Q) :
    (d.mapSources change).MadeOf Q' :=
  ⟨forall_mem_map hchange h.user, forall_mem_map hchange h.assistant⟩

theorem Parallel.MadeOf.mapSources {p : Parallel σ} (h : p.MadeOf P Q) :
    (p.mapSources change).MadeOf P Q' := by
  obtain ⟨branches, scorer, strategy⟩ := p
  refine ⟨fun b hb => ?_, ?_⟩
  · obtain ⟨own, hown, rfl⟩ := List.mem_map.1 hb
    exact hchange own.source (h.branches own hown)
  · have hstrategy := h.strategy
    cases strategy with
    | judged judge => exact hchange judge hstrategy
    | _ => exact hstrategy

namespace Template

omit hchange in
theorem mapSourcesAll_eq_map (body : List (Template σ)) :
    mapSourcesAll change body = body.map (mapSources change) := by
  induction body with
  | nil => rw [mapSourcesAll, List.map_nil]
  | cons t rest ih => rw [mapSourcesAll, ih, List.map_cons]

omit hchange in
theorem forall_mem_mapSourcesAll {body : List (Template σ)} {R : Template σ → Prop}
    (h : ∀ t ∈ body, R (t.mapSources change)) : ∀ t ∈ mapSourcesAll change body, R t := by
  rw [mapSourcesAll_eq_map]
  exact List.forall_mem_map.2 h

/-- A program keeps its shape when its sources are changed. -/
theorem MadeOf.mapSources {t : Template σ} (h : t.MadeOf P Q) :
    (t.mapSources change).MadeOf P Q' := by
  induction h with
  | system h =>
    rw [Template.mapSources]
    exact .system (hchange _ h)
  | user h =>
    rw [Template.mapSources]
    exact .user (forall_mem_map hchange h)
  | assistant h =>
    rw [Template.mapSources]
    exact .assistant (forall_mem_map hchange h)
  | @conditional _ _ negative hcondition _ _ ihpositive ihnegative =>
    rw [Template.mapSources]
    refine .conditional hcondition ihpositive fun t ht => ?_
    cases negative with
    | none =>
      rw [mapSourcesOption] at ht
      exact absurd ht (Option.not_mem_none t)
    | some own =>
      rw [mapSourcesOption] at ht
      rw [← Option.some.inj ht]
      exact ihnegative own rfl
  | transform h =>
    rw [Template.mapSources]
    exact .transform h
  | sequence hdefaults _ ih =>
    rw [Template.mapSources]
    exact .sequence (hdefaults.mapSources hchange) (forall_mem_mapSourcesAll ih)
  | loop hdone hdefaults _ ih =>
    rw [Template.mapSources]
    exact .loop hdone (hdefaults.mapSources hchange) (forall_mem_mapSourcesAll ih)
  | subroutine hstart hsquash hdefaults _ ih =>
    rw [Template.mapSources]
    exact .subroutine hstart hsquash (hdefaults.mapSources hchange) (forall_mem_mapSourcesAll ih)
  | parallel h =>
    rw [Template.mapSources]
    exact .parallel (h.mapSources hchange)
  | agent hdefaults _ ih =>
    rw [Template.mapSources]
    exact .agent (hdefaults.mapSources hchange) (forall_mem_mapSourcesAll ih)

end Template

end Change

/-! ### Sessions -/

/-- A run that leaves the calls in the books as they are. -/
abbrev Run.KeepsCalls {α : Type} (r : Run σ α) : Prop := r.Keeps State.calls

namespace Session

theorem keepsCalls_announce (s : Session) (m : Message) : (s.announce m : Run σ Unit).KeepsCalls := by
  unfold announce
  cases s.observer with
  | none => exact .modify fun _ => rfl
  | some o =>
    refine Keeps.read.bind fun w => Keeps.bind (.modify fun _ => rfl) fun _ => ?_
    cases w.observe o m with
    | none => exact .pure ()
    | some f => exact .modify fun _ => rfl

theorem keepsCalls_add (s : Session) (m : Message) : (s.add m : Run σ Session).KeepsCalls := by
  unfold add
  exact .ite ((s.keepsCalls_announce m).bind fun _ => .pure _) (.pure _)

theorem keepsCalls_addAll (s : Session) (ms : List Message) :
    (s.addAll ms : Run σ Session).KeepsCalls := by
  induction ms generalizing s with
  | nil => exact .pure s
  | cons m rest ih => exact (s.keepsCalls_add m).bind ih

theorem keepsCalls_rejoin (parent merged : Session) :
    (parent.rejoin merged : Run σ Session).KeepsCalls :=
  .ite (.pure _) (.ite (.pure _) (keepsCalls_addAll _ _))

theorem keepsCalls_appendResults (s : Session) (rs : List ToolResult) :
    (s.appendResults rs : Run σ Session).KeepsCalls := by
  induction rs generalizing s with
  | nil => exact .pure s
  | cons r rest ih => exact (Keeps.ofExcept _).bind fun m => (s.keepsCalls_add m).bind ih

theorem keepsCalls_appendOutput (s : Session) (content : Content) :
    (s.appendOutput content : Run σ Session).KeepsCalls :=
  (Keeps.ofChecked _ _).bind fun _ => (Keeps.ofChecked _ _).bind fun m =>
    (s.keepsCalls_add m).bind fun s => s.keepsCalls_appendResults _

theorem keepsCalls_appendText (s : Session) (role : Role) (content : Content) :
    (s.appendText role content : Run σ Session).KeepsCalls :=
  (Keeps.ofChecked _ _).bind fun _ => (Keeps.ofChecked _ _).bind fun _ => s.keepsCalls_add _

end Session

/-! ### Strategies and branches -/

section Runs

variable (hP : CallsOnly P)

namespace Strategy

variable {scorer : Option (Scorer σ)}

theorem maintains_score (h : ∀ f ∈ scorer, ∀ s, (f s).Maintains P) (s : Session) :
    (score scorer s).Maintains P := by
  cases scorer with
  | none => exact .pure _
  | some f => exact (h f rfl s).bind fun v => .ofExcept _

theorem maintains_bestOf (h : ∀ f ∈ scorer, ∀ s, (f s).Maintains P) (chosen : Session) (x : Float)
    (rest : List Session) : (bestOf scorer chosen x rest).Maintains P := by
  induction rest generalizing chosen x with
  | nil => exact .pure _
  | cons s rest ih => exact (maintains_score h s).bind fun y => .ite (ih s y) (ih chosen x)

include hP

theorem maintains_aggregateBest (h : ∀ f ∈ scorer, ∀ s, (f s).Maintains P) (parent : Session)
    (outcomes : List Session) : (aggregateBest scorer parent outcomes).Maintains P := by
  unfold aggregateBest
  split
  · exact .pure parent
  · refine (maintains_score h _).bind fun x => (maintains_bestOf h _ x _).bind fun best => ?_
    exact ((keepsBooks_log rfl).maintains hP.booked).bind fun _ => .pure best.1

theorem maintains_aggregateJudged {judge : Source σ} (h : ∀ s, (judge.getContent s).Maintains P)
    (parent : Session) (outcomes : List Session) :
    (aggregateJudged judge parent outcomes).Maintains P := by
  unfold aggregateJudged
  split
  · exact .pure parent
  · exact .pure _
  · refine (h _).bind fun content => (Maintains.ofExcept _).bind fun answer => ?_
    refine (Maintains.ofExcept _).bind fun named => ?_
    cases named with
    | some chosen => exact .pure chosen
    | none =>
      refine ((keepsBooks_log rfl).maintains hP.booked).bind fun _ => ?_
      have hnone : ∀ f ∈ (none : Option (Scorer σ)), ∀ s, (f s).Maintains P := fun f h =>
        absurd h (Option.not_mem_none f)
      exact maintains_aggregateBest hP hnone parent _

theorem MadeOf.aggregate {strategy : Strategy σ}
    (h : strategy.MadeOf P fun src => ∀ s, (src.getContent s).Maintains P) (parent : Session)
    (outcomes : List Session) : (strategy.aggregate parent outcomes).Maintains P := by
  cases strategy with
  | keepAll => exact (parent.keepsCalls_addAll _).maintains hP
  | best scorer => exact maintains_aggregateBest hP h parent outcomes
  | custom f => exact h outcomes
  | judged judge => exact maintains_aggregateJudged hP h parent outcomes

end Strategy

namespace Parallel

variable {src : Source σ} {srcs : List (Source σ)}

include hP

theorem maintains_runBranch (h : ∀ s, (src.getContent s).Maintains P) (s : Session) (index : Nat) :
    (runBranch s index src).Maintains P := by
  refine (h s).outcome.bind fun ended => ?_
  cases ended with
  | ok content => exact (s.keepsCalls_appendOutput content).maintains hP
  | error f => exact ((keepsBooks_log rfl).maintains hP.booked).bind fun _ => .pure s

theorem maintains_runBranches (h : ∀ src ∈ srcs, ∀ s, (src.getContent s).Maintains P) (s : Session)
    (index : Nat) : (runBranches s index srcs).Maintains P := by
  induction srcs generalizing index with
  | nil => exact .pure []
  | cons src rest ih =>
    rw [List.forall_mem_cons] at h
    refine (maintains_runBranch hP h.1 s index).outcome.bind fun first => ?_
    exact (ih h.2 (index + 1)).bind fun others => .pure _

theorem MadeOf.run {p : Parallel σ} (h : p.MadeOf P fun src => ∀ s, (src.getContent s).Maintains P)
    (s : Session) : (p.run s).Maintains P := by
  have hsources : ∀ src ∈ p.issueOrder, ∀ s, (src.getContent s).Maintains P := by
    intro src hsrc
    obtain ⟨b, hb, hmem⟩ := List.mem_flatMap.1 hsrc
    rw [List.eq_of_mem_replicate hmem]
    exact h.branches b hb
  rw [run_eq]
  refine .ite (.pure s) ?_
  refine (maintains_runBranches hP hsources _ 0).bind fun ended => ?_
  refine (Maintains.ofExcept _).bind fun outcomes => ?_
  refine (h.strategy.aggregate hP _ outcomes).bind fun merged => ?_
  exact (Session.keepsCalls_rejoin s merged).maintains hP

end Parallel

/-! ### Steps of programs -/

namespace Template

theorem maintains_holds {p : Predicate σ} (h : ∀ s, (p s).Maintains P) (s : Session) :
    (holds p s).Maintains P :=
  (h s).bind fun _ => .pure _

theorem maintains_applyAll {functions : List (Reshaping σ)}
    (h : ∀ f ∈ functions, ∀ s, (f s).Maintains P) (s : Session) :
    (applyAll functions s).Maintains P := by
  induction functions generalizing s with
  | nil => exact .pure s
  | cons f rest ih =>
    rw [List.forall_mem_cons] at h
    refine (h.1 s).bind fun made => ?_
    cases made with
    | session s' => exact (Maintains.pure s').bind fun s' => ih h.2 s'
    | value v => exact (Maintains.throw _).bind fun s' => ih h.2 s'

include hP

theorem maintains_runSystem {source : Source σ} (h : ∀ s, (source.getContent s).Maintains P)
    (s : Session) : (runSystem source s).Maintains P :=
  (h s).bind fun content => (s.keepsCalls_appendText .system content).maintains hP

theorem maintains_runUser {source : Option (Source σ)}
    (h : ∀ src ∈ source, ∀ s, (src.getContent s).Maintains P) (s : Session) :
    (runUser source s).Maintains P := by
  cases source with
  | none => exact .throw _
  | some src =>
    exact (h src rfl s).bind fun content => (s.keepsCalls_appendText .user content).maintains hP

theorem maintains_runAssistant {source : Option (Source σ)}
    (h : ∀ src ∈ source, ∀ s, (src.getContent s).Maintains P) (extract : Extract) (s : Session) :
    (runAssistant source extract s).Maintains P := by
  cases source with
  | none => exact .throw _
  | some src =>
    refine (h src rfl s).bind fun content => (Maintains.ofChecked _ _).bind fun out => ?_
    refine ((s.keepsCalls_appendOutput content).maintains hP).bind fun s' => ?_
    split
    · exact .pure _
    · exact .pure s'

theorem maintains_repeatUntil {done : Predicate σ} {step : Session → Run σ Session}
    (hdone : ∀ s, (done s).Maintains P) (hstep : ∀ s, (step s).Maintains P) (limit : Int)
    (rounds : Nat) (s : Session) : (repeatUntil done step limit rounds s).Maintains P := by
  induction rounds generalizing s with
  | zero =>
    refine (maintains_holds hdone s).bind fun held => ?_
    exact .ite (((keepsBooks_log rfl).maintains hP.booked).bind fun _ => .pure s) (.pure s)
  | succ rounds ih =>
    exact (maintains_holds hdone s).bind fun held => .ite (.pure s) ((hstep s).bind ih)

theorem maintains_runLoop {body : List (Template σ)} {done : Option (Predicate σ)}
    {step : Session → Run σ Session} (hdone : ∀ p ∈ done, ∀ s, (p s).Maintains P)
    (hstep : ∀ s, (step s).Maintains P) (rounds : Int) (s : Session) :
    (runLoop body done rounds step s).Maintains P := by
  refine .ite (.throw _) ?_
  cases done with
  | none => exact ((keepsBooks_log rfl).maintains hP.booked).bind fun _ => hstep s
  | some done => exact maintains_repeatUntil hP (hdone done rfl) hstep rounds _ s

theorem maintains_squashChild {squash : Option (Squashing σ)}
    (h : ∀ f ∈ squash, ∀ s s', (f s s').Maintains P) (parent child : Session) :
    (squashChild squash parent child).Maintains P := by
  cases squash with
  | none => exact .pure parent
  | some f =>
    refine (h f rfl parent child).bind fun made => ?_
    cases made with
    | value v => exact .throw _
    | session merged =>
      exact .ite (.pure merged) ((Session.keepsCalls_rejoin parent merged).maintains hP)

theorem maintains_runSubroutine {start : Option (Session → Run σ Session)}
    {squash : Option (Squashing σ)} {step : Session → Run σ Session}
    (hstart : ∀ f ∈ start, ∀ s, (f s).Maintains P)
    (hsquash : ∀ f ∈ squash, ∀ s s', (f s s').Maintains P) (hstep : ∀ s, (step s).Maintains P)
    (parent : Session) : (runSubroutine start squash step parent).Maintains P := by
  have hchild : (startChild start parent).Maintains P := by
    cases start with
    | none => exact .pure _
    | some f => exact hstart f rfl parent
  refine hchild.bind fun child => (hstep _).bind fun child => ?_
  exact maintains_squashChild hP hsquash parent child

/-! ### Programs -/

omit hP in
theorem maintains_runAllIn {body : List (Template σ)} {outer : Defaults σ}
    (h : ∀ t ∈ body, ∀ s, (t.runIn outer s).Maintains P) (s : Session) :
    (runAllIn body outer s).Maintains P := by
  induction body generalizing s with
  | nil => exact .pure s
  | cons t rest ih =>
    rw [List.forall_mem_cons] at h
    exact (h.1 s).bind fun s' => ih h.2 s'

/-- **What programs maintain.** A property of the calls in the books that the sources of a program and the callers'
functions in it maintain is maintained by the program, in every scope whose sources maintain it. -/
theorem MadeOf.runIn {t : Template σ}
    (h : t.MadeOf P fun src => ∀ s, (src.getContent s).Maintains P) {outer : Defaults σ}
    (houter : outer.MadeOf fun src => ∀ s, (src.getContent s).Maintains P) (s : Session) :
    (t.runIn outer s).Maintains P := by
  -- Bodies run in the scope that their template declares, so the induction is for every scope.
  induction h generalizing outer s with
  | system h => exact maintains_runSystem hP h s
  | user h => exact maintains_runUser hP (forall_mem_or h houter.user) s
  | assistant h => exact maintains_runAssistant hP (forall_mem_or h houter.assistant) _ s
  | @conditional _ _ negative hcondition _ _ ihpositive ihnegative =>
    refine (maintains_holds hcondition s).bind fun held => .ite (ihpositive houter s) ?_
    cases negative with
    | none => exact .pure s
    | some t => exact ihnegative t rfl houter s
  | transform h => exact maintains_applyAll h s
  | sequence hdefaults _ ih =>
    exact maintains_runAllIn (fun t ht => ih t ht (hdefaults.within houter)) s
  | loop hdone hdefaults _ ih =>
    have hbody := maintains_runAllIn fun t ht => ih t ht (hdefaults.within houter)
    exact maintains_runLoop hP hdone hbody _ s
  | subroutine hstart hsquash hdefaults _ ih =>
    have hbody := maintains_runAllIn fun t ht => ih t ht (hdefaults.within houter)
    exact maintains_runSubroutine hP hstart hsquash hbody s
  | parallel h => exact h.run hP s
  | agent hdefaults _ ih =>
    exact maintains_runAllIn (fun t ht => ih t ht (hdefaults.within houter)) s

end Template

end Runs

end Colloquy
