import Colloquy.Proofs.Echo.Parallel
import Colloquy.Proofs.Template.Lexical
import Colloquy.Proofs.Template.Upkeep

/-!
# What programs show

An appending program is put together from messages, branches, loops, subroutines and functions that set vars,
with sources and predicates that show nothing by themselves.  `run_appends` is its law: the messages of the
session that it is run on stay, and of those that it adds each is shown once, in order, if the echo of the
session is on, and none otherwise, whatever the observer does.

The proof is an induction on how the program is put together (`Appending.runIn`), with the scope as an
argument.  Sessions that echo and quiet ones are treated alike: a quiet session shows nothing of what it gets
(`Run.Appends.bind_quiet`), and what was built on a quiet copy is shown when it is rejoined.
-/

namespace Colloquy

variable {σ : Type} {target : Option Observer}

open Run (Keeps Ensures)
open Run.Silent

/-! ### Appending programs -/

/-- Default sources that are silent. -/
structure Defaults.Silent (target : Option Observer) (d : Defaults σ) : Prop where
  user : ∀ src ∈ d.user, src.Silent target
  assistant : ∀ src ∈ d.assistant, src.Silent target

theorem Defaults.Silent.within {own outer : Defaults σ} (hown : own.Silent target)
    (houter : outer.Silent target) : (own.within outer).Silent target :=
  ⟨forall_mem_or hown.user houter.user, forall_mem_or hown.assistant houter.assistant⟩

/-- A function that is silent and changes nothing but vars and attributes. -/
def Reshaping.SetsOnly (target : Option Observer) (f : Reshaping σ) : Prop :=
  ∀ s, (f s).Silent target ∧
    (f s).Ensures fun reshaped => ∀ s', reshaped = .session s' → s.ExtendsBy s' []

namespace Template

/-- A subroutine that starts with an empty session, or with that of its caller. -/
inductive Starts : Option (Session → Run σ Session) → Prop
  | empty : Starts none
  | inherit : Starts (some Session.inheritParent)

/-- How a subroutine starts and is folded back: nothing is kept, or what is new, or everything; or the session
of a subroutine that has started with that of its caller takes its place. -/
inductive Folds : Option (Session → Run σ Session) → Option (Squashing σ) → Prop
  | nothing {start} (h : Starts start) : Folds start none
  | newMessages {start} (h : Starts start) :
    Folds start (some (.of Session.appendNewMessages))
  | childMessages {start} (h : Starts start) :
    Folds start (some (.of Session.appendChildMessages))
  | child : Folds (some Session.inheritParent) (some (.of fun _ child => return child))

/-- A program that only appends. -/
inductive Appending (target : Option Observer) : Template σ → Prop
  | system {source} (h : source.Silent target) : Appending target (system source)
  | user {source} (h : ∀ src ∈ source, src.Silent target) : Appending target (user source)
  | assistant {source extract} (h : ∀ src ∈ source, src.Silent target) :
    Appending target (assistant source extract)
  | conditional {condition positive negative} (hcondition : ∀ s, (condition s).Silent target)
    (hpositive : Appending target positive) (hnegative : ∀ t ∈ negative, Appending target t) :
    Appending target (conditional condition positive negative)
  | transform {functions} (h : ∀ f ∈ functions, Reshaping.SetsOnly target f) :
    Appending target (transform functions)
  | sequence {body defaults} (hdefaults : defaults.Silent target)
    (hbody : ∀ t ∈ body, Appending target t) : Appending target (sequence body defaults)
  | loop {body done rounds defaults} (hdone : ∀ p ∈ done, ∀ s, (p s).Silent target)
    (hdefaults : defaults.Silent target) (hbody : ∀ t ∈ body, Appending target t) :
    Appending target (loop body done rounds defaults)
  | subroutine {body start squash defaults} (hfolds : Folds start squash)
    (hdefaults : defaults.Silent target) (hbody : ∀ t ∈ body, Appending target t) :
    Appending target (subroutine body start squash defaults)
  | parallel {p} (h : p.Silent target) : Appending target (parallel p)
  | agent {steps defaults} (hdefaults : defaults.Silent target)
    (hsteps : ∀ t ∈ steps, Appending target t) : Appending target (agent steps defaults)

/-! ### Steps of programs -/

theorem silent_holds {p : Predicate σ} (h : ∀ s, (p s).Silent target) (s : Session) :
    (holds p s).Silent target :=
  (h s).bind fun _ => .pure _

theorem appends_appendText (s : Session) (role : Role) (content : Content) :
    (s.appendText role content : Run σ Session).Appends target s := by
  refine .after_silent (.ofChecked _ _) fun out => ?_
  exact .after_silent (.ofChecked _ _) fun text => s.appends_add _

theorem appends_runSystem {source : Source σ} (h : source.Silent target) (s : Session) :
    (runSystem source s).Appends target s :=
  .after_silent (h.getContent s) fun content => appends_appendText s .system content

theorem appends_runUser {source : Option (Source σ)} (h : ∀ src ∈ source, src.Silent target)
    (s : Session) : (runUser source s).Appends target s := by
  cases source with
  | none => exact .throw _
  | some src =>
    exact .after_silent ((h src rfl).getContent s) fun content => appends_appendText s .user content

theorem appends_runAssistant {source : Option (Source σ)} (h : ∀ src ∈ source, src.Silent target)
    (extract : Extract) (s : Session) : (runAssistant source extract s).Appends target s := by
  cases source with
  | none => exact .throw _
  | some src =>
    refine .after_silent ((h src rfl).getContent s) fun content => ?_
    refine .after_silent (.ofChecked _ _) fun out => ?_
    refine .bind (s.appends_appendOutput content) fun s' ms _ => ?_
    split
    · refine .pure ?_
      split
      · exact s'.extendsBy_withVars _
      · exact .refl s'
    · exact .pure (.refl s')

theorem appends_applyAll {functions : List (Reshaping σ)}
    (h : ∀ f ∈ functions, Reshaping.SetsOnly target f) (s : Session) :
    (applyAll functions s).Appends target s := by
  induction functions generalizing s with
  | nil => exact .pure (.refl s)
  | cons f rest ih =>
    rw [List.forall_mem_cons] at h
    obtain ⟨hsilent, hsets⟩ := h.1 s
    refine .after hsilent hsets fun made hmade => ?_
    cases made with
    | session s' => exact .bind (.pure (hmade s' rfl)) fun s' _ _ => ih h.2 s'
    | value v => exact .bind (.throw _) fun s' _ _ => ih h.2 s'

theorem appends_repeatUntil {done : Predicate σ} {step : Session → Run σ Session}
    (hdone : ∀ s, (done s).Silent target) (hstep : ∀ s, (step s).Appends target s) (limit : Int)
    (rounds : Nat) (s : Session) :
    (repeatUntil done step limit rounds s).Appends target s := by
  induction rounds generalizing s with
  | zero =>
    refine .after_silent (silent_holds hdone s) fun held => ?_
    refine .ite ?_ (.pure (.refl s))
    exact .after_silent (log rfl) fun _ => .pure (.refl s)
  | succ rounds ih =>
    refine .after_silent (silent_holds hdone s) fun held => ?_
    exact .ite (.pure (.refl s)) (.bind (hstep s) fun s' _ _ => ih s')

theorem appends_runLoop {body : List (Template σ)} {done : Option (Predicate σ)}
    {step : Session → Run σ Session} (hdone : ∀ p ∈ done, ∀ s, (p s).Silent target)
    (hstep : ∀ s, (step s).Appends target s) (rounds : Int) (s : Session) :
    (runLoop body done rounds step s).Appends target s := by
  refine .ite (.throw _) ?_
  cases done with
  | none => exact .after_silent (log rfl) fun _ => hstep s
  | some done => exact appends_repeatUntil (hdone done rfl) hstep rounds _ s

theorem silent_startChild {start : Option (Session → Run σ Session)} (h : Starts start)
    (parent : Session) : (startChild start parent).Silent target := by
  cases h with
  | empty => exact .pure _
  | inherit => exact .pure _

/-- A subroutine is folded back by a function that appends to the caller's session; this needs no rejoining. -/
theorem appends_squashChild {f : Session → Session → Run σ Session} {parent child : Session}
    (h : (f parent child).Appends target parent) :
    (squashChild (some (.of f)) parent child).Appends target parent := by
  have hfold : squashChild (some (.of f)) parent child = (do
      let merged ← f parent child
      if merged.echo = parent.echo && merged.observer = parent.observer then return merged
      else parent.rejoin merged) := by
    simp only [squashChild, Squashing.of, bind_assoc, pure_bind]
  rw [hfold]
  refine .bind h fun merged ms hextends => ?_
  simp only [hextends.echo, hextends.observer, decide_true, Bool.and_self, if_true]
  exact .pure (.refl merged)

/-- The session of a subroutine that has started with that of its caller takes its place: as it is if the caller
is quiet, and rejoined otherwise. -/
theorem appends_squashChild_child {parent child : Session} {ms : List Message}
    (h : (parent.withEcho false none).ExtendsBy child ms) :
    (squashChild (some (.of fun _ child => return child)) parent child : Run σ Session).Appends target
      parent := by
  have hfold : squashChild (some (.of fun _ child => return child)) parent child =
      if child.echo = parent.echo && child.observer = parent.observer
      then (return child : Run σ Session) else parent.rejoin child := by
    simp only [squashChild, Squashing.of, pure_bind]
  rw [hfold]
  split
  · -- A session that is like the quiet one in its echo is quiet itself.
    rename_i hsame
    rw [Bool.and_eq_true, decide_eq_true_iff, decide_eq_true_iff] at hsame
    have hquiet : parent.echo = false := hsame.1.symm.trans h.echo
    exact .of_quiet hquiet (.pure child) (.pure ⟨ms, h.messages, hsame.1, hsame.2⟩)
  · exact Session.appends_rejoin h.messages h.observer

theorem appends_runSubroutine {start : Option (Session → Run σ Session)}
    {squash : Option (Squashing σ)} (hfolds : Folds start squash) {step : Session → Run σ Session}
    (hstep : ∀ s, (step s).Appends target s) (s : Session) :
    (runSubroutine start squash step s).Appends target s := by
  cases hfolds with
  | nothing h =>
    refine .after_silent (silent_startChild h s) fun child => ?_
    exact .bind_quiet rfl (hstep _) fun _ _ _ => .pure (.refl s)
  | newMessages h =>
    -- The body runs on a quiet session; what is shown is what the caller's session gets.
    refine .after_silent (silent_startChild h s) fun child => ?_
    refine .bind_quiet rfl (hstep _) fun child _ _ => appends_squashChild ?_
    refine .bind (s.appends_addAll _) fun merged _ _ => .pure (merged.extendsBy_withVars _)
  | childMessages h =>
    refine .after_silent (silent_startChild h s) fun child => ?_
    exact .bind_quiet rfl (hstep _) fun child _ _ => appends_squashChild (s.appends_addAll _)
  | child =>
    refine .after (P := (· = s)) (.pure s) (.pure rfl) fun child hchild => ?_
    subst hchild
    exact .bind_quiet rfl (hstep _) fun child _ hextends => appends_squashChild_child hextends

/-! ### The law of echoing -/

theorem Appending.runAllIn {body : List (Template σ)} {outer : Defaults σ}
    (h : ∀ t ∈ body, ∀ s, (t.runIn outer s).Appends target s) (s : Session) :
    (runAllIn body outer s).Appends target s := by
  induction body generalizing s with
  | nil => exact .pure (.refl s)
  | cons t rest ih =>
    rw [List.forall_mem_cons] at h
    exact .bind (h.1 s) fun s' _ _ => ih h.2 s'

theorem Appending.runIn {t : Template σ} (h : t.Appending target) {outer : Defaults σ}
    (houter : outer.Silent target) (s : Session) : (t.runIn outer s).Appends target s := by
  -- Bodies run in the scope that their template declares, so the induction is for every silent scope.
  induction h generalizing outer s with
  | system h => exact appends_runSystem h s
  | user h => exact appends_runUser (forall_mem_or h houter.user) s
  | assistant h => exact appends_runAssistant (forall_mem_or h houter.assistant) _ s
  | @conditional _ _ negative hcondition hpositive hnegative ihpositive ihnegative =>
    refine .after_silent (silent_holds hcondition s) fun held => .ite (ihpositive houter s) ?_
    cases negative with
    | none => exact .pure (.refl s)
    | some t => exact ihnegative t rfl houter s
  | transform h => exact appends_applyAll h s
  | sequence hdefaults hbody ih =>
    exact runAllIn (fun t ht => ih t ht (hdefaults.within houter)) s
  | loop hdone hdefaults hbody ih =>
    exact appends_runLoop hdone (runAllIn fun t ht => ih t ht (hdefaults.within houter)) _ s
  | subroutine hfolds hdefaults hbody ih =>
    exact appends_runSubroutine hfolds (runAllIn fun t ht => ih t ht (hdefaults.within houter)) s
  | parallel h => exact Parallel.appends_run h s
  | agent hdefaults hsteps ih =>
    exact runAllIn (fun t ht => ih t ht (hdefaults.within houter)) s

/-- **Echoing.** An appending program keeps the messages of the session that it is run on and adds others, and
it keeps the echo and the observer.  If the echo is on, the observer is shown exactly the messages that are
added, each once and in order, and nothing is shown if it is off.  This holds of every scope, every state and
all surroundings, also of those in which the observer fails. -/
theorem run_appends {t : Template σ} (ht : t.Appending target) {outer : Defaults σ}
    (houter : outer.Silent target) {s s' : Session} {w : Surroundings σ} {st st' : State σ}
    {scope : Defaults σ} (h : (t.run s).exec w outer st = (.ok s', scope, st')) :
    ∃ ms, s'.messages = s.messages ++ ms ∧ s'.echo = s.echo ∧ s'.observer = s.observer ∧
      st'.echoes target =
        st.echoes target ++ if s.echo ∧ s.observer = target then ms else [] := by
  rw [run_eq_reading, Scoped.exec_reading] at h
  have hexec : (t.runIn outer s).exec w st = (.ok s', st') := by
    obtain ⟨hx, hrest⟩ := Prod.mk.inj h
    exact Prod.ext hx (Prod.mk.inj hrest).2
  obtain ⟨ms, hextends, hechoes⟩ := ht.runIn houter s w st s' st' hexec
  exact ⟨ms, hextends.messages, hextends.echo, hextends.observer, hechoes⟩

/-- A source that always says the same. -/
def saying (text : String) : Source Unit :=
  .callback (fun _ => return .plain (.str text)) (.ofRetry {})

theorem silent_saying (text : String) : (saying text).Silent target where
  origin := fun _ => .pure _
  validator := fun _ h => (Option.not_mem_none _ h).elim
  middlewares := fun _ h => (List.not_mem_nil h).elim
  retry := fun _ h => (Option.not_mem_none _ h).elim

/-- A program with a greeting and, in a subroutine, an answer whose source is a default. -/
def greeting : Template Unit :=
  .sequence [.user (some (saying "Hello")),
    .subroutine [.assistant none .nothing] (some Session.inheritParent)
      (some (.of fun _ child => return child)) {}] { assistant := some (saying "Hi") }

theorem silent_of_saying {src : Source Unit} {text : String} (h : src ∈ some (saying text)) :
    src.Silent target := by
  rw [← Option.some.inj h]
  exact silent_saying text

theorem silent_nothing : (({} : Defaults σ)).Silent target :=
  ⟨fun _ h => (Option.not_mem_none _ h).elim, fun _ h => (Option.not_mem_none _ h).elim⟩

theorem appending_greeting : greeting.Appending target := by
  refine .sequence ⟨silent_nothing.user, fun src hsrc => silent_of_saying hsrc⟩ ?_
  rw [List.forall_mem_cons, List.forall_mem_singleton]
  refine ⟨.user fun src hsrc => silent_of_saying hsrc, .subroutine .child silent_nothing ?_⟩
  rw [List.forall_mem_singleton]
  exact .assistant silent_nothing.assistant

/-- Surroundings in which every observer fails. -/
def deaf : Surroundings Unit :=
  { Surroundings.alone Unit with observe := fun _ _ => some (.fault .runtime "deaf") }

/-- An observer that fails on every message is shown both messages of the greeting. -/
theorem run_appends_greeting : ∃ s' scope st',
    (greeting.run { echo := true, observer := some ⟨0⟩ }).exec deaf {} { host := () } =
      (.ok s', scope, st') ∧
    s'.messages.map (·.content) = ["Hello", "Hi"] ∧ st'.echoes (some ⟨0⟩) = s'.messages := by
  have hcontents : ((greeting.run { echo := true, observer := some ⟨0⟩ }).exec deaf {}
      { host := () }).1.toOption.map (·.messages.map (·.content)) = some ["Hello", "Hi"] := by
    decide +kernel
  rcases hended : (greeting.run { echo := true, observer := some ⟨0⟩ }).exec deaf {}
    { host := () } with ⟨_ | s', scope, st'⟩
  · rw [hended] at hcontents
    exact nomatch hcontents
  · rw [hended] at hcontents
    obtain ⟨ms, hmessages, -, -, hechoes⟩ := run_appends appending_greeting silent_nothing hended
    refine ⟨s', scope, st', rfl, Option.some.inj hcontents, ?_⟩
    rw [hechoes, hmessages]
    rfl

end Template

end Colloquy
