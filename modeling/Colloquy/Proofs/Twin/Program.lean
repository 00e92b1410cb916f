import Colloquy.Proofs.Echo.Program
import Colloquy.Proofs.Template.Upkeep
import Colloquy.Proofs.Twin.Middleware
import Colloquy.Proofs.Twin.Session

/-!
# Programs on twins

A program hands the settings of its session on to every part of it, and switches the echo off in branches and
subroutines.  If neither its sources nor the callers' functions in it tell twins apart, then it makes twins of
twins: whether and to whom messages are echoed has no part in what they are, in what fails, or in what backends
are called with (`Template.execute_twins`).

There are two ways in which the settings do have a part, so two promises are needed.  The keys of caches have to
be blind, as the default key only is to observers.  And a subroutine has to come back honestly: its session is
rejoined if it has lost the settings of its caller, and what only seems to be unchanged would then be dropped.

The proof is an induction on how the program is put together, with the scope as an argument.
-/

namespace Colloquy

variable {σ : Type} {d : Leeway}

open Run

/-! ### What callers promise -/

/-- What callers' functions have made of twins: twins, or the same value. -/
inductive Reshaped.Twin (d : Leeway) : Reshaped → Reshaped → Prop
  | session {s s' : Session} (h : s.Twin d s') : Twin d (.session s) (.session s')
  | value (v : Value) : Twin d (.value v) (.value v)

/-- A strategy whose functions are blind, and so is its judge. -/
def Strategy.Blind (d : Leeway) : Strategy σ → Prop
  | keepAll => True
  | best scorer => ∀ f ∈ scorer, OnTwins d Eq f
  | custom f => ∀ outcomes outcomes', List.Forall₂ (Session.Twin d) outcomes outcomes' →
    Run.Twin d (Session.Twin d) (f outcomes) (f outcomes')
  | judged judge => judge.Blind d

/-- Branches with blind sources and a blind strategy. -/
structure Parallel.Blind (d : Leeway) (p : Parallel σ) : Prop where
  branches : ∀ b ∈ p.branches, b.source.Blind d
  strategy : p.strategy.Blind d

/-- A session that needs no rejoining with that of its caller, or is the same after it but for its settings. -/
def Session.Returns (parent merged : Session) : Prop :=
  merged.echo = parent.echo ∧ merged.observer = parent.observer ∨ parent.Honest merged

namespace Template

/-- What a subroutine comes back with. -/
def returned (start : Option (Session → Run σ Session)) (squash : Squashing σ)
    (step : Session → Run σ Session) (parent : Session) : Run σ Reshaped := do
  let child ← startChild start parent
  let child ← step (child.withEcho false none)
  squash parent child

/-- A subroutine whose body is a step, and which comes back with sessions that may be rejoined. -/
def Returns (start : Option (Session → Run σ Session)) (squash : Squashing σ)
    (step : Session → Run σ Session) : Prop :=
  ∀ parent, (returned start squash step parent).Ensures fun made =>
    ∀ merged, made = .session merged → parent.Returns merged

/-- A program in which everything that callers have handed over is blind, and whose subroutines come back
honestly. -/
inductive Blind (d : Leeway) : Template σ → Prop
  | system {source} (h : source.Blind d) : Blind d (system source)
  | user {source} (h : ∀ src ∈ source, src.Blind d) : Blind d (user source)
  | assistant {source extract} (h : ∀ src ∈ source, src.Blind d) : Blind d (assistant source extract)
  | conditional {condition positive negative} (hcondition : OnTwins d Eq condition)
    (hpositive : Blind d positive) (hnegative : ∀ t ∈ negative, Blind d t) :
    Blind d (conditional condition positive negative)
  | transform {functions} (h : ∀ f ∈ functions, OnTwins d (Reshaped.Twin d) f) :
    Blind d (transform functions)
  | sequence {body defaults} (hdefaults : defaults.MadeOf (Source.Blind d))
    (hbody : ∀ t ∈ body, Blind d t) : Blind d (sequence body defaults)
  | loop {body done rounds defaults} (hdone : ∀ p ∈ done, OnTwins d Eq p)
    (hdefaults : defaults.MadeOf (Source.Blind d)) (hbody : ∀ t ∈ body, Blind d t) :
    Blind d (loop body done rounds defaults)
  | subroutine {body start squash defaults} (hstart : ∀ f ∈ start, OnTwins d (Session.Twin d) f)
    (hsquash : ∀ f ∈ squash, ∀ parent parent' child child', parent.Twin d parent' →
      child.Twin d child' → Run.Twin d (Reshaped.Twin d) (f parent child) (f parent' child'))
    (hreturns : ∀ f ∈ squash, ∀ outer : Defaults σ, outer.MadeOf (Source.Blind d) →
      Returns start f (runAllIn body (defaults.within outer)))
    (hdefaults : defaults.MadeOf (Source.Blind d)) (hbody : ∀ t ∈ body, Blind d t) :
    Blind d (subroutine body start squash defaults)
  | parallel {p} (h : p.Blind d) : Blind d (parallel p)
  | agent {steps defaults} (hdefaults : defaults.MadeOf (Source.Blind d))
    (hsteps : ∀ t ∈ steps, Blind d t) : Blind d (agent steps defaults)

end Template

/-! ### Messages of content -/

namespace Session

variable {s s' : Session}

theorem twin_appendResults (hs : s.Twin d s') (rs : List ToolResult) :
    Run.Twin (σ := σ) d (Session.Twin d) (s.appendResults rs) (s'.appendResults rs) := by
  induction rs generalizing s s' with
  | nil => exact .pure hs
  | cons r rest ih => exact (Blind.ofExcept _).bind fun m => (twin_add hs m).bind fun s s' hs => ih hs

theorem twin_appendOutput (hs : s.Twin d s') (content : Content) :
    Run.Twin (σ := σ) d (Session.Twin d) (s.appendOutput content) (s'.appendOutput content) :=
  (Blind.ofChecked _ _).bind fun out => (Blind.ofChecked _ _).bind fun m =>
    (twin_add hs m).bind fun _ _ hs => twin_appendResults hs out.toolResults

theorem twin_appendText (hs : s.Twin d s') (role : Role) (content : Content) :
    Run.Twin (σ := σ) d (Session.Twin d) (s.appendText role content)
      (s'.appendText role content) :=
  (Blind.ofChecked _ _).bind fun _ => (Blind.ofChecked _ _).bind fun _ => twin_add hs _

end Session

/-! ### Strategies -/

namespace Strategy

variable {scorer : Option (Scorer σ)} {s s' parent parent' : Session}
  {outcomes outcomes' : List Session}

theorem newMessages_of_twin (hparent : parent.Twin d parent') (hs : s.Twin d s') :
    newMessages parent' s' = newMessages parent s := by
  unfold newMessages
  rw [hparent.messages, hs.messages]

theorem twin_succeeded (hparent : parent.Twin d parent')
    (houtcomes : List.Forall₂ (Session.Twin d) outcomes outcomes') :
    List.Forall₂ (Session.Twin d) (succeeded parent outcomes) (succeeded parent' outcomes') := by
  refine List.rel_filter (fun s s' hs => ?_) houtcomes
  simp only [newMessages_of_twin hparent hs]

theorem flatMap_newMessages_of_twin (hparent : parent.Twin d parent')
    (houtcomes : List.Forall₂ (Session.Twin d) outcomes outcomes') :
    outcomes'.flatMap (newMessages parent') = outcomes.flatMap (newMessages parent) := by
  induction houtcomes with
  | nil => rfl
  | cons hs _ ih => rw [List.flatMap_cons, List.flatMap_cons, newMessages_of_twin hparent hs, ih]

theorem twin_score (h : ∀ f ∈ scorer, OnTwins d Eq f) (hs : s.Twin d s') :
    Run.Twin d Eq (score scorer s) (score scorer s') := by
  cases scorer with
  | none =>
    have hscore : heuristicScore s' = heuristicScore s := by
      rw [hs.eq_with]
      rfl
    exact .pure hscore.symm
  | some f =>
    refine (h f rfl s s' hs).bind fun v _ hv => ?_
    cases hv
    exact Blind.ofExcept _

theorem twin_bestOf (h : ∀ f ∈ scorer, OnTwins d Eq f) (hs : s.Twin d s') (x : Float)
    (houtcomes : List.Forall₂ (Session.Twin d) outcomes outcomes') :
    Run.Twin d (fun best best' => best.1.Twin d best'.1 ∧ best'.2 = best.2)
      (bestOf scorer s x outcomes) (bestOf scorer s' x outcomes') := by
  induction houtcomes generalizing s s' x with
  | nil => exact .pure ⟨hs, rfl⟩
  | cons hnext _ ih =>
    refine (twin_score h hnext).bind fun y _ hy => ?_
    cases hy
    exact .ite Iff.rfl (ih hnext y) (ih hs x)

theorem twin_aggregateBest (h : ∀ f ∈ scorer, OnTwins d Eq f) (hparent : parent.Twin d parent')
    (houtcomes : List.Forall₂ (Session.Twin d) outcomes outcomes') :
    Run.Twin d (Session.Twin d) (aggregateBest scorer parent outcomes)
      (aggregateBest scorer parent' outcomes') := by
  have hsucceeded := twin_succeeded hparent houtcomes
  unfold aggregateBest
  generalize succeeded parent outcomes = candidates at hsucceeded
  generalize succeeded parent' outcomes' = candidates' at hsucceeded
  cases hsucceeded with
  | nil => exact .pure hparent
  | cons hfirst hrest =>
    refine (twin_score h hfirst).bind fun x _ hx => ?_
    cases hx
    refine (twin_bestOf h hfirst x hrest).bind fun best best' hbest => ?_
    simp only [hbest.2, hrest.length_eq]
    exact (Blind.log _).bind fun _ => .pure hbest.1

/-! ### Judges -/

theorem contextLines_of_twin (hs : s.Twin d s') : contextLines s' = contextLines s := by
  rw [hs.eq_with]
  rfl

theorem responseLines_of_twin (hs : s.Twin d s') (number : Nat) :
    responseLines number s' = responseLines number s := by
  rw [hs.eq_with]
  rfl

theorem enumerateLines_of_twin (houtcomes : List.Forall₂ (Session.Twin d) outcomes outcomes')
    (number : Nat) :
    enumerateLines responseLines number outcomes' = enumerateLines responseLines number outcomes := by
  induction houtcomes generalizing number with
  | nil => rfl
  | cons hs _ ih => rw [enumerateLines, enumerateLines, responseLines_of_twin hs, ih]

theorem twin_getElem? (houtcomes : List.Forall₂ (Session.Twin d) outcomes outcomes') (i : Nat) :
    Option.Rel (Session.Twin d) outcomes[i]? outcomes'[i]? := by
  induction houtcomes generalizing i with
  | nil => exact .none
  | cons hs _ ih =>
    cases i with
    | zero => exact .some hs
    | succ i => exact ih i

/-- A judge names twins by the same number. -/
theorem twin_named? (answer : String)
    (houtcomes : List.Forall₂ (Session.Twin d) outcomes outcomes') :
    Ended (Option.Rel (Session.Twin d)) (named? answer outcomes) (named? answer outcomes') := by
  unfold named?
  cases firstNumber? answer with
  | none => exact .ok .none
  | some digits =>
    cases hn : Number.integerOf digits with
    | error f =>
      simp only [hn]
      exact .error f
    | ok n =>
      simp only [hn]
      show Ended _ (.ok (if 1 ≤ n then outcomes[n.toNat - 1]? else none))
        (.ok (if 1 ≤ n then outcomes'[n.toNat - 1]? else none))
      by_cases h : 1 ≤ n
      · rw [if_pos h, if_pos h]
        exact .ok (twin_getElem? houtcomes _)
      · rw [if_neg h, if_neg h]
        exact .ok .none

theorem twin_aggregateJudged {judge : Source σ} (h : judge.Blind d) (hparent : parent.Twin d parent')
    (houtcomes : List.Forall₂ (Session.Twin d) outcomes outcomes') :
    Run.Twin d (Session.Twin d) (aggregateJudged judge parent outcomes)
      (aggregateJudged judge parent' outcomes') := by
  have hsucceeded := twin_succeeded hparent houtcomes
  unfold aggregateJudged
  generalize succeeded parent outcomes = candidates at hsucceeded
  generalize succeeded parent' outcomes' = candidates' at hsucceeded
  cases hsucceeded with
  | nil => exact .pure hparent
  | cons hfirst hrest =>
    cases hrest with
    | nil => exact .pure hfirst
    | cons hsecond hothers =>
      have hcandidates := List.Forall₂.cons hfirst (.cons hsecond hothers)
      have hprompt : ∀ candidates candidates', List.Forall₂ (Session.Twin d) candidates candidates' →
          evaluationPrompt parent' candidates' = evaluationPrompt parent candidates := by
        intro candidates candidates' hcandidates
        unfold evaluationPrompt
        rw [contextLines_of_twin hparent, enumerateLines_of_twin hcandidates]
      simp only [hprompt _ _ hcandidates]
      refine (h.getContent (.refl _)).bind fun content _ hcontent => ?_
      cases hcontent
      refine (Blind.ofExcept _).bind fun answer => ?_
      refine (Run.Twin.ofExcept (twin_named? answer hcandidates)).bind fun named _ hnamed => ?_
      cases hnamed with
      | some hchosen => exact .pure hchosen
      | none =>
        refine (Blind.log _).bind fun _ => ?_
        have hscorer : ∀ f ∈ (none : Option (Scorer σ)), OnTwins d Eq f := fun f h =>
          absurd h (Option.not_mem_none f)
        exact twin_aggregateBest hscorer hparent hcandidates

/-- A blind strategy reduces twins to twins. -/
theorem Blind.aggregate {strategy : Strategy σ} (h : strategy.Blind d) (hparent : parent.Twin d parent')
    (houtcomes : List.Forall₂ (Session.Twin d) outcomes outcomes') :
    Run.Twin d (Session.Twin d) (strategy.aggregate parent outcomes)
      (strategy.aggregate parent' outcomes') := by
  cases strategy with
  | keepAll =>
    unfold Strategy.aggregate aggregateAll
    rw [flatMap_newMessages_of_twin hparent houtcomes]
    exact Session.twin_addAll hparent _
  | best scorer => exact twin_aggregateBest h hparent houtcomes
  | custom f => exact h outcomes outcomes' houtcomes
  | judged judge => exact twin_aggregateJudged h hparent houtcomes

end Strategy

/-! ### Branches -/

namespace Parallel

variable {s s' : Session} {src : Source σ} {srcs : List (Source σ)}
  {ended ended' : List (Except Failure Session)}

theorem twin_runBranch (h : src.Blind d) (hs : s.Twin d s') (index : Nat) :
    Run.Twin d (Session.Twin d) (runBranch s index src) (runBranch s' index src) := by
  refine (h.getContent hs).outcome.bind fun ended ended' hended => ?_
  cases hended with
  | ok hcontent =>
    cases hcontent
    exact Session.twin_appendOutput hs _
  | error f => exact (Blind.log _).bind fun _ => .pure hs

theorem twin_runBranches (h : ∀ src ∈ srcs, src.Blind d) (hs : s.Twin d s') (index : Nat) :
    Run.Twin d (List.Forall₂ (Ended (Session.Twin d))) (runBranches s index srcs)
      (runBranches s' index srcs) := by
  induction srcs generalizing index with
  | nil => exact .pure .nil
  | cons src rest ih =>
    rw [List.forall_mem_cons] at h
    refine (twin_runBranch h.1 hs index).outcome.bind fun first first' hfirst => ?_
    exact (ih h.2 (index + 1)).bind fun others others' hothers => .pure (.cons hfirst hothers)

theorem twin_allAnswers (h : List.Forall₂ (Ended (Session.Twin d)) ended ended') :
    Ended (List.Forall₂ (Session.Twin d)) (Task.allAnswers ended) (Task.allAnswers ended') := by
  induction h with
  | nil => exact .ok .nil
  | @cons _ _ rest rest' hfirst _ ih =>
    cases hfirst with
    | error f => exact .error f
    | ok hs =>
      unfold Task.allAnswers
      generalize Task.allAnswers rest = others at ih
      generalize Task.allAnswers rest' = others' at ih
      cases ih with
      | ok hothers => exact .ok (.cons hs hothers)
      | error f => exact .error f

/-- Blind branches with a blind strategy make twins of twins. -/
theorem Blind.run {p : Parallel σ} (h : p.Blind d) (hs : s.Twin d s') :
    Run.Twin d (Session.Twin d) (p.run s) (p.run s') := by
  have hsources : ∀ src ∈ p.issueOrder, src.Blind d := by
    intro src hsrc
    obtain ⟨b, hb, hmem⟩ := List.mem_flatMap.1 hsrc
    rw [List.eq_of_mem_replicate hmem]
    exact h.branches b hb
  have hquiet := hs.withEcho false none none
  rw [run_eq, run_eq]
  refine .ite Iff.rfl (.pure hs) ?_
  refine (twin_runBranches hsources hquiet 0).bind fun ended ended' hended => ?_
  refine (Run.Twin.ofExcept (twin_allAnswers hended)).bind fun outcomes outcomes' houtcomes => ?_
  refine (h.strategy.aggregate hquiet houtcomes).bind fun merged merged' hmerged => ?_
  exact Session.twin_rejoin hs hmerged

end Parallel

/-! ### Steps of programs -/

namespace Template

variable {s s' parent parent' merged merged' : Session}

theorem twin_holds {p : Predicate σ} (h : OnTwins d Eq p) (hs : s.Twin d s') :
    Run.Twin d Eq (holds p s) (holds p s') :=
  (h s s' hs).bind fun _ _ hv => .pure (congrArg Value.truthy hv)

theorem twin_applyAll {functions : List (Reshaping σ)}
    (h : ∀ f ∈ functions, OnTwins d (Reshaped.Twin d) f) (hs : s.Twin d s') :
    Run.Twin d (Session.Twin d) (applyAll functions s) (applyAll functions s') := by
  induction functions generalizing s s' with
  | nil => exact .pure hs
  | cons f rest ih =>
    rw [List.forall_mem_cons] at h
    refine (h.1 s s' hs).bind fun made made' hmade => ?_
    cases hmade with
    | session hs => exact Run.Twin.bind (.pure hs) fun s s' hs => ih h.2 hs
    | value v => exact Run.Twin.bind (R := Session.Twin d) (.throw _) fun s s' hs => ih h.2 hs

theorem twin_runSystem {source : Source σ} (h : source.Blind d) (hs : s.Twin d s') :
    Run.Twin d (Session.Twin d) (runSystem source s) (runSystem source s') := by
  refine (h.getContent hs).bind fun content _ hcontent => ?_
  cases hcontent
  exact Session.twin_appendText hs .system _

theorem twin_runUser {source : Option (Source σ)} (h : ∀ src ∈ source, src.Blind d)
    (hs : s.Twin d s') : Run.Twin d (Session.Twin d) (runUser source s) (runUser source s') := by
  cases source with
  | none => exact .throw _
  | some src =>
    refine ((h src rfl).getContent hs).bind fun content _ hcontent => ?_
    cases hcontent
    exact Session.twin_appendText hs .user _

theorem twin_runAssistant {source : Option (Source σ)} (h : ∀ src ∈ source, src.Blind d)
    (extract : Extract) (hs : s.Twin d s') :
    Run.Twin d (Session.Twin d) (runAssistant source extract s) (runAssistant source extract s') := by
  cases source with
  | none => exact .throw _
  | some src =>
    refine ((h src rfl).getContent hs).bind fun content _ hcontent => ?_
    cases hcontent
    refine (Blind.ofChecked _ _).bind fun out => ?_
    refine (Session.twin_appendOutput hs _).bind fun s s' hs => ?_
    cases out.structured with
    | none => exact .pure hs
    | some data =>
      refine .pure ?_
      split
      · exact hs.withVars _
      · exact hs

theorem twin_repeatUntil {done : Predicate σ} {step : Session → Run σ Session}
    (hdone : OnTwins d Eq done) (hstep : OnTwins d (Session.Twin d) step) (limit : Int)
    (rounds : Nat) (hs : s.Twin d s') :
    Run.Twin d (Session.Twin d) (repeatUntil done step limit rounds s)
      (repeatUntil done step limit rounds s') := by
  induction rounds generalizing s s' with
  | zero =>
    refine (twin_holds hdone hs).bind fun held _ hheld => ?_
    cases hheld
    exact .ite Iff.rfl ((Blind.log _).bind fun _ => .pure hs) (.pure hs)
  | succ rounds ih =>
    refine (twin_holds hdone hs).bind fun held _ hheld => ?_
    cases hheld
    exact .ite Iff.rfl (.pure hs) ((hstep s s' hs).bind fun s s' hs => ih hs)

theorem twin_runLoop {body : List (Template σ)} {done : Option (Predicate σ)}
    {step : Session → Run σ Session} (hdone : ∀ p ∈ done, OnTwins d Eq p)
    (hstep : OnTwins d (Session.Twin d) step) (rounds : Int) (hs : s.Twin d s') :
    Run.Twin d (Session.Twin d) (runLoop body done rounds step s)
      (runLoop body done rounds step s') := by
  refine .ite Iff.rfl (.throw _) ?_
  cases done with
  | none => exact (Blind.log _).bind fun _ => hstep s s' hs
  | some done => exact twin_repeatUntil (hdone done rfl) hstep rounds _ hs

/-! ### Subroutines -/

/-- The end of a subroutine: a session that has the settings of its caller is the answer, and any other one is
rejoined. -/
def settle (parent : Session) : Reshaped → Run σ Session
  | .value v => throw (.fault .noAttribute s!"'{v.kindName}' object has no attribute 'echo'")
  | .session merged =>
    if merged.echo = parent.echo && merged.observer = parent.observer then return merged
    else parent.rejoin merged

theorem runSubroutine_eq_returned (start : Option (Session → Run σ Session)) (squash : Squashing σ)
    (step : Session → Run σ Session) (parent : Session) :
    runSubroutine start (some squash) step parent =
      returned start squash step parent >>= settle parent := by
  unfold returned
  simp only [bind_assoc]
  rfl

/-- What a subroutine comes back with is its answer, but for the settings of its caller. -/
theorem exec_settle (h : parent.Returns merged) (w : Surroundings σ) (st : State σ) :
    ∃ s₁ st₁, (settle parent (.session merged)).exec w st = (.ok s₁, st₁) ∧ st.Echoes st₁ ∧
      s₁.messages = merged.messages ∧ s₁.vars = merged.vars ∧ s₁.attrs = merged.attrs ∧
      s₁.echo = parent.echo := by
  unfold settle
  simp only [Bool.and_eq_true, decide_eq_true_iff]
  by_cases hkept : merged.echo = parent.echo ∧ merged.observer = parent.observer
  · rw [if_pos hkept]
    exact ⟨merged, st, rfl, .refl st, rfl, rfl, rfl, hkept.1⟩
  · rw [if_neg hkept]
    exact Session.exec_rejoin_honest (h.resolve_left hkept) w st

/-- It may be that one of two twins is rejoined and the other one is not. -/
theorem twin_settle (hparent : parent.Twin d parent') {made made' : Reshaped}
    (hmade : made.Twin d made') (h : ∀ merged, made = .session merged → parent.Returns merged)
    (h' : ∀ merged, made' = .session merged → parent'.Returns merged) :
    Run.Twin (σ := σ) d (Session.Twin d) (settle parent made) (settle parent' made') := by
  cases hmade with
  | value v => exact .throw _
  | session hmerged =>
    intro w st st' hst
    obtain ⟨s, st₁, hexec, hechoes, hmessages, hvars, hattrs, hecho⟩ := exec_settle (h _ rfl) w st
    obtain ⟨s', st₁', hexec', hechoes', hmessages', hvars', hattrs', hecho'⟩ :=
      exec_settle (h' _ rfl) w st'
    rw [hexec, hexec']
    refine ⟨.ok ⟨?_, ?_, ?_, fun hd => ?_⟩, hst.echoes hechoes hechoes'⟩
    · rw [hmessages', hmerged.messages, hmessages]
    · rw [hvars', hmerged.vars, hvars]
    · rw [hattrs', hmerged.attrs, hattrs]
    · rw [hecho', hparent.echo hd, hecho]

/-- A function that keeps the settings of the caller comes back honestly, whatever the subroutine does. -/
theorem returns_of_keeps {f : Session → Session → Run σ Session} (h : ∀ parent child,
      (f parent child).Ensures fun merged => merged.echo = parent.echo ∧ merged.observer = parent.observer)
    (start : Option (Session → Run σ Session)) (step : Session → Run σ Session) :
    Returns start (.of f) step := by
  intro parent
  refine .after fun child => .after fun child => .bind (h parent child) fun merged hmerged => ?_
  refine .pure fun merged' heq => ?_
  cases heq
  exact .inl hmerged

theorem ensures_addAll (s : Session) (ms : List Message) : (s.addAll ms : Run σ Session).Ensures
    fun s' => s'.echo = s.echo ∧ s'.observer = s.observer := by
  intro w st s' st' hexec
  obtain ⟨st₁, hadded, -⟩ := s.echoes_addAll ms w st
  obtain ⟨hs, -⟩ := Prod.mk.inj (hadded.symm.trans hexec)
  rw [← Except.ok.inj hs]
  exact ⟨rfl, rfl⟩

/-- Subroutines of which the new messages are kept come back honestly. -/
theorem returns_newMessages (start : Option (Session → Run σ Session))
    (step : Session → Run σ Session) : Returns start (.of Session.appendNewMessages) step := by
  refine returns_of_keeps (fun parent child => ?_) start step
  unfold Session.appendNewMessages
  refine .bind (ensures_addAll parent _) fun merged hmerged => ?_
  exact .pure hmerged

/-- Subroutines of which all messages are kept come back honestly. -/
theorem returns_childMessages (start : Option (Session → Run σ Session))
    (step : Session → Run σ Session) : Returns start (.of Session.appendChildMessages) step :=
  returns_of_keeps (fun parent child => ensures_addAll parent child.messages) start step

theorem twin_newMessages {child child' : Session} (hparent : parent.Twin d parent')
    (hchild : child.Twin d child') : Run.Twin (σ := σ) d (Session.Twin d)
      (parent.appendNewMessages child) (parent'.appendNewMessages child') := by
  unfold Session.appendNewMessages
  rw [hparent.messages, hchild.messages, hchild.vars]
  exact (Session.twin_addAll hparent _).bind fun _ _ hmerged => .pure (hmerged.withVars _)

theorem twin_childMessages {child child' : Session} (hparent : parent.Twin d parent')
    (hchild : child.Twin d child') : Run.Twin (σ := σ) d (Session.Twin d)
      (parent.appendChildMessages child) (parent'.appendChildMessages child') := by
  unfold Session.appendChildMessages
  rw [hchild.messages]
  exact Session.twin_addAll hparent _

theorem twin_runSubroutine {start : Option (Session → Run σ Session)}
    {squash : Option (Squashing σ)} {step : Session → Run σ Session}
    (hstart : ∀ f ∈ start, OnTwins d (Session.Twin d) f)
    (hsquash : ∀ f ∈ squash, ∀ parent parent' child child', parent.Twin d parent' →
      child.Twin d child' → Run.Twin d (Reshaped.Twin d) (f parent child) (f parent' child'))
    (hreturns : ∀ f ∈ squash, Returns start f step) (hstep : OnTwins d (Session.Twin d) step)
    (hparent : parent.Twin d parent') :
    Run.Twin d (Session.Twin d) (runSubroutine start squash step parent)
      (runSubroutine start squash step parent') := by
  have hchild : Run.Twin d (Session.Twin d) (startChild start parent) (startChild start parent') := by
    cases start with
    | none => exact .pure (.refl _)
    | some f => exact hstart f rfl parent parent' hparent
  cases squash with
  | none =>
    refine hchild.bind fun child child' hchild => ?_
    exact (hstep _ _ (hchild.withEcho false none none)).bind fun _ _ _ => .pure hparent
  | some f =>
    have hreturned : Run.Twin d (Reshaped.Twin d) (returned start f step parent)
        (returned start f step parent') := by
      refine hchild.bind fun child child' hchild => ?_
      refine (hstep _ _ (hchild.withEcho false none none)).bind fun child child' hchild => ?_
      exact hsquash f rfl parent parent' child child' hparent hchild
    rw [runSubroutine_eq_returned, runSubroutine_eq_returned]
    exact .bind_of_ensures hreturned (hreturns f rfl parent) (hreturns f rfl parent')
      fun made made' hmade h h' => twin_settle hparent hmade h h'

/-! ### Programs -/

theorem twin_runAllIn {body : List (Template σ)} {outer : Defaults σ}
    (h : ∀ t ∈ body, OnTwins d (Session.Twin d) (t.runIn outer)) :
    OnTwins d (Session.Twin d) (runAllIn body outer) := by
  induction body with
  | nil => exact fun s s' hs => .pure hs
  | cons t rest ih =>
    rw [List.forall_mem_cons] at h
    exact fun s s' hs => (h.1 s s' hs).bind fun s s' hs => ih h.2 s s' hs

/-- A blind program makes twins of twins, in every blind scope. -/
theorem Blind.runIn {t : Template σ} (h : t.Blind d) {outer : Defaults σ}
    (houter : outer.MadeOf (Source.Blind d)) : OnTwins d (Session.Twin d) (t.runIn outer) := by
  -- Bodies run in the scope that their template declares, so the induction is for every blind scope.
  induction h generalizing outer with
  | system h => exact fun s s' hs => twin_runSystem h hs
  | user h => exact fun s s' hs => twin_runUser (forall_mem_or h houter.user) hs
  | assistant h => exact fun s s' hs => twin_runAssistant (forall_mem_or h houter.assistant) _ hs
  | @conditional _ _ negative hcondition _ _ ihpositive ihnegative =>
    intro s s' hs
    refine (twin_holds hcondition hs).bind fun held _ hheld => ?_
    cases hheld
    refine .ite Iff.rfl (ihpositive houter s s' hs) ?_
    cases negative with
    | none => exact .pure hs
    | some t => exact ihnegative t rfl houter s s' hs
  | transform h => exact fun s s' hs => twin_applyAll h hs
  | sequence hdefaults _ ih => exact twin_runAllIn fun t ht => ih t ht (hdefaults.within houter)
  | loop hdone hdefaults _ ih =>
    have hbody := twin_runAllIn fun t ht => ih t ht (hdefaults.within houter)
    exact fun s s' hs => twin_runLoop hdone hbody _ hs
  | subroutine hstart hsquash hreturns hdefaults _ ih =>
    have hbody := twin_runAllIn fun t ht => ih t ht (hdefaults.within houter)
    exact fun s s' hs =>
      twin_runSubroutine hstart hsquash (fun f hf => hreturns f hf _ houter) hbody hs
  | parallel h => exact fun s s' hs => h.run hs
  | agent hdefaults _ ih => exact twin_runAllIn fun t ht => ih t ht (hdefaults.within houter)

theorem madeOf_nothing {Q : Source σ → Prop} : ({} : Defaults σ).MadeOf Q :=
  ⟨fun _ h => absurd h (Option.not_mem_none _), fun _ h => absurd h (Option.not_mem_none _)⟩

/-- **Echoing only shows.** Executed on twin sessions from one state, a blind program fails alike or makes twins,
and the states that it leaves are twins: backends were called with the same messages in the same order, and the
callers' own state, the caches and all counts are the same.  This holds of all surroundings, also of those in
which one session has an observer that fails. -/
theorem execute_twins {t : Template σ} (ht : t.Blind d) {s s' : Session} (hs : s.Twin d s')
    (w : Surroundings σ) (st : State σ) :
    Ended (Session.Twin d) ((t.execute (some s)).exec w st).1 ((t.execute (some s')).exec w st).1 ∧
      ((t.execute (some s)).exec w st).2.Twin d ((t.execute (some s')).exec w st).2 := by
  rw [execute_eq_runIn, execute_eq_runIn]
  exact ht.runIn madeOf_nothing s s' hs w st st (.refl st)

/-! ### A cache between a subroutine and its caller -/

/-- A source of two items, with a cache. -/
def replying (key : Middleware.KeyFunction Unit) : Source Unit where
  origin := .list [.plain (.str "one"), .plain (.str "two")] false 0
  policy := { pipeline := ⟨[Middleware.cache 0 60.0 key]⟩ }

/-- A program that asks this source twice, at first in a subroutine of which nothing is kept. -/
def aside (key : Middleware.KeyFunction Unit) : Template Unit :=
  .sequence [.subroutine [.assistant (some (replying key)) .nothing] (some Session.inheritParent)
    none {}, .assistant (some (replying key)) .nothing] {}

/-- The contents of the messages that a program makes of a session. -/
def contents (t : Template Unit) (s : Session) : Option (List String) :=
  ((t.execute (some s)).exec deaf { host := () }).1.toOption.map (·.messages.map (·.content))

/-- A key that tells requests apart by the last message alone. -/
def textKey : Middleware.KeyFunction Unit := fun ctx => return ctx.session.lastText

theorem blind_textKey : textKey.Blind d := by
  intro ctx ctx' hctx
  have htext : ctx'.session.lastText = ctx.session.lastText := by
    rw [hctx.session.eq_with]
    rfl
  exact .pure htext.symm

theorem blind_replying {key : Middleware.KeyFunction Unit} (hkey : key.Blind d) :
    (replying key).Blind d where
  origin := trivial
  validator _ h := absurd h (Option.not_mem_none _)
  middlewares m hm := by
    rw [List.mem_singleton.1 hm]
    exact Middleware.blind_cache hkey 0 60.0 "cache"
  retry _ h := absurd h (Option.not_mem_none _)

theorem blind_aside {key : Middleware.KeyFunction Unit} (hkey : key.Blind d) : (aside key).Blind d := by
  have hassistant : Blind d (.assistant (some (replying key)) .nothing) := by
    refine .assistant fun src hsrc => ?_
    rw [← Option.some.inj hsrc]
    exact blind_replying hkey
  refine .sequence madeOf_nothing (List.forall_mem_cons.2 ⟨?_, List.forall_mem_singleton.2 hassistant⟩)
  refine .subroutine ?_ ?_ ?_ madeOf_nothing (List.forall_mem_singleton.2 hassistant)
  · intro f hf s s' hs
    rw [← Option.some.inj hf]
    exact .pure hs
  · exact fun f hf => absurd hf (Option.not_mem_none f)
  · exact fun f hf => absurd hf (Option.not_mem_none f)

/-- With such a key a session with an observer that fails and a quiet one get the same answer. -/
theorem execute_twins_aside :
    ∃ s s' st st', ((aside textKey).execute (some { echo := true, observer := some ⟨0⟩ })).exec deaf
        { host := () } = (.ok s, st) ∧
      ((aside textKey).execute (some {})).exec deaf { host := () } = (.ok s', st') ∧
      s.messages.map (·.content) = ["one"] ∧ s.Twin .echo s' ∧ st.Twin .echo st' := by
  have hcontents : contents (aside textKey) { echo := true, observer := some ⟨0⟩ } = some ["one"] := by
    decide +kernel
  have hs : Session.Twin .echo { echo := true, observer := some ⟨0⟩ } {} := ⟨rfl, rfl, rfl, nofun⟩
  obtain ⟨hended, hleft⟩ := execute_twins (blind_aside blind_textKey) hs deaf { host := () }
  unfold contents at hcontents
  rcases hexec : ((aside textKey).execute (some { echo := true, observer := some ⟨0⟩ })).exec deaf
    { host := () } with ⟨_ | s, st⟩
  · rw [hexec] at hcontents
    exact absurd hcontents (Option.some_ne_none ["one"]).symm
  · rcases hexec' : ((aside textKey).execute (some {})).exec deaf { host := () } with ⟨_ | s', st'⟩
    · rw [hexec, hexec'] at hended
      cases hended
    · rw [hexec, hexec'] at hended hleft
      rw [hexec] at hcontents
      cases hended with
      | ok h => exact ⟨s, s', st, st', rfl, rfl, Option.some.inj hcontents, h, hleft⟩

/-- A program that puts `true` in the place of a var in a subroutine, and then shows the var. -/
def correcting : Template Unit :=
  .sequence [.subroutine [.transform [fun s => return .session (s.withVar "x" (.bool true))]]
      (some Session.inheritParent) (some (.of fun _ child => return child)) {},
    .user (some (.literal (.str "{{x}}")))] {}

/-- **Neither promise can be spared.**  The default key tells a session that echoes from the quiet copies of it,
so that the caller does not find what the subroutine has stored; and a subroutine that only makes `1` true has
changed nothing, if its session is rejoined. -/
theorem contents_echoed :
    contents (aside Middleware.defaultKey) {} = some ["one"] ∧
      contents (aside Middleware.defaultKey) { echo := true } = some ["two"] ∧
      contents correcting { vars := [("x", .int 1)] } = some ["True"] ∧
      contents correcting { vars := [("x", .int 1)], echo := true } = some ["1"] := by
  refine ⟨?_, ?_, ?_, ?_⟩ <;> decide +kernel

end Template

end Colloquy
