import Colloquy.Proofs.Twin.Program

/-!
# Inlining subroutines

A subroutine that starts with the session of its caller, and of which the new messages are kept, does what its body
does in the caller's place (`Template.inlining`): it fails alike, or comes to the same messages and vars, and shows
the same messages in the same order.  Only attributes that the body sets are not seen outside.

The body runs on a quiet copy, which is a twin of the session itself, so it comes to twins.  What the subroutine
takes of them is what lies behind the messages of the caller, and all vars, which it overlays.  That this is
everything rests on how such a body goes on with a session: it only appends messages, and only overlays vars
(`Session.Overlaid`).
-/

namespace Colloquy

variable {σ : Type} {target : Option Observer}

open Run (Ensures OnTwins)

/-! ### Vars that are overlaid -/

/-- A session whose vars are those of another one with further ones laid over them. -/
def Session.Overlaid (s s' : Session) : Prop :=
  ∃ newer, s'.vars = s.vars.overlay newer

namespace Session

variable {s s' s'' : Session}

theorem Overlaid.refl (s : Session) : s.Overlaid s := ⟨[], rfl⟩

theorem Overlaid.of_eq (h : s'.vars = s.vars) : s.Overlaid s' := ⟨[], h⟩

theorem overlaid_withVars (s : Session) (vars : Entries) : s.Overlaid (s.withVars vars) := ⟨vars, rfl⟩

theorem Overlaid.trans (h : s.Overlaid s') (h' : s'.Overlaid s'') : s.Overlaid s'' := by
  obtain ⟨newer, hvars⟩ := h
  obtain ⟨newest, hvars'⟩ := h'
  exact ⟨newer ++ newest, by rw [hvars', hvars, Assoc.overlay_append]⟩

/-- Vars that were laid over those of a session may be laid over them again. -/
theorem Overlaid.overlay (h : s.Overlaid s') (hnodup : s.vars.keys.Nodup) :
    s.vars.overlay s'.vars = s'.vars := by
  obtain ⟨newer, hvars⟩ := h
  rw [hvars, Assoc.overlay_overlay_self hnodup]

/-- One run that goes on with vars after the other. -/
theorem Overlaid.bind {r : Run σ Session} {k : Session → Run σ Session} (hr : r.Ensures s.Overlaid)
    (hk : ∀ s', s.Overlaid s' → (k s').Ensures s'.Overlaid) : (r >>= k).Ensures s.Overlaid :=
  Ensures.bind hr fun s' h => (hk s' h).mono fun _ => h.trans

/-! ### What adds no vars -/

theorem ensures_addAll_vars (s : Session) (ms : List Message) :
    (s.addAll ms : Run σ Session).Ensures fun s' => s'.vars = s.vars := by
  intro w st s' st' hexec
  obtain ⟨st₁, hadded, -⟩ := s.echoes_addAll ms w st
  obtain ⟨hs, -⟩ := Prod.mk.inj (hadded.symm.trans hexec)
  rw [← Except.ok.inj hs]
  rfl

theorem ensures_add_vars (s : Session) (m : Message) :
    (s.add m : Run σ Session).Ensures fun s' => s'.vars = s.vars := by
  rw [← addAll_singleton]
  exact s.ensures_addAll_vars [m]

theorem ensures_appendText_vars (s : Session) (role : Role) (content : Content) :
    (s.appendText role content : Run σ Session).Ensures fun s' => s'.vars = s.vars :=
  .after fun _ => .after fun _ => s.ensures_add_vars _

theorem ensures_appendResults_vars (s : Session) (rs : List ToolResult) :
    (s.appendResults rs : Run σ Session).Ensures fun s' => s'.vars = s.vars := by
  induction rs generalizing s with
  | nil => exact .pure rfl
  | cons r rest ih =>
    exact .after fun m => .bind (s.ensures_add_vars m) fun s' hvars => hvars ▸ ih s'

theorem ensures_appendOutput_vars (s : Session) (content : Content) :
    (s.appendOutput content : Run σ Session).Ensures fun s' => s'.vars = s.vars :=
  .after fun _ => .after fun m => .bind (s.ensures_add_vars m) fun s' hvars =>
    hvars ▸ s'.ensures_appendResults_vars _

/-- A session that is rejoined keeps the vars that the parent has. -/
theorem ensures_rejoin_vars {parent merged : Session} (h : merged.vars = parent.vars) :
    (parent.rejoin merged : Run σ Session).Ensures fun s' => s'.vars = parent.vars := by
  have hbase : ∀ base : Session, base.vars = merged.vars → ∀ ms,
      (base.addAll ms : Run σ Session).Ensures fun s' => s'.vars = parent.vars := by
    intro base hvars ms
    rw [← h, ← hvars]
    exact base.ensures_addAll_vars ms
  refine .ite (.pure h) (.ite (.pure rfl) (hbase _ ?_ _))
  rfl

end Session

/-! ### Branches add no vars -/

namespace Parallel

theorem ensures_runBranch_vars (src : Source σ) (s : Session) (index : Nat) :
    (runBranch s index src).Ensures fun s' => s'.vars = s.vars := by
  refine .after fun ended => ?_
  cases ended with
  | ok content => exact s.ensures_appendOutput_vars content
  | error f => exact .after fun _ => .pure rfl

theorem ensures_runBranches_vars (s : Session) (index : Nat) (srcs : List (Source σ)) :
    (runBranches s index srcs).Ensures fun outcomes => ∀ o, .ok o ∈ outcomes → o.vars = s.vars := by
  induction srcs generalizing index with
  | nil => exact .pure nofun
  | cons src rest ih =>
    refine .bind (ensures_runBranch_vars src s index).outcome fun first hfirst => ?_
    refine .bind (ih (index + 1)) fun others hothers => .pure fun o ho => ?_
    rcases List.mem_cons.1 ho with ho | ho
    · exact hfirst o ho.symm
    · exact hothers o ho

/-- A strategy of the library keeps the vars that its outcomes share. -/
theorem ensures_aggregate_vars {strategy : Strategy σ} (h : strategy.Silent target) {parent : Session}
    {outcomes : List Session} (houtcomes : ∀ o ∈ outcomes, o.vars = parent.vars) :
    (strategy.aggregate parent outcomes).Ensures fun s' => s'.vars = parent.vars := by
  cases strategy with
  | keepAll => exact parent.ensures_addAll_vars _
  | best scorer => exact Strategy.ensures_aggregateBest scorer rfl houtcomes
  | custom f => exact h.elim
  | judged judge => exact Strategy.ensures_aggregateJudged judge rfl houtcomes

theorem ensures_run_vars {p : Parallel σ} (h : p.Silent target) (s : Session) :
    (p.run s).Ensures fun s' => s'.vars = s.vars := by
  let quiet := s.withEcho false none
  rw [run_eq]
  refine .ite (.pure rfl) ?_
  refine .bind (ensures_runBranches_vars quiet 0 p.issueOrder) fun outcomes houtcomes => ?_
  refine .bind (P := fun sessions => ∀ o ∈ sessions, o.vars = quiet.vars)
    (.ofExcept fun sessions hsessions o ho => ?_) fun sessions hsessions => ?_
  · rw [Task.allAnswers_eq_ok_iff.1 hsessions] at houtcomes
    exact houtcomes o (List.mem_map_of_mem ho)
  refine .bind (ensures_aggregate_vars h.strategy hsessions) fun merged hmerged => ?_
  exact Session.ensures_rejoin_vars hmerged

end Parallel

/-! ### Bodies that may be inlined -/

/-- A source that shows nothing, and which does not look at whether and to whom messages are shown. -/
structure Source.Unaware (target : Option Observer) (src : Source σ) : Prop where
  silent : src.Silent target
  blind : src.Blind .echo

/-- Branches with such sources, and with such a strategy of the library. -/
structure Parallel.Unaware (target : Option Observer) (p : Parallel σ) : Prop where
  silent : p.Silent target
  blind : p.Blind .echo

/-- A predicate that shows nothing, and which does not look at whether and to whom messages are shown. -/
structure Predicate.Unaware (target : Option Observer) (p : Predicate σ) : Prop where
  silent : ∀ s, (p s).Silent target
  blind : OnTwins .echo Eq p

/-- A function that goes on with sessions: it adds messages, each of which is shown if the echo is on, overlays
vars and may set attributes. -/
structure Reshaping.Extends (target : Option Observer) (f : Reshaping σ) : Prop where
  appends : ∀ s, (f s >>= Template.reshaped).Appends target s
  overlays : ∀ s, (f s >>= Template.reshaped).Ensures s.Overlaid
  blind : OnTwins .echo (Reshaped.Twin .echo) f

namespace Template

/-- A subroutine that starts with the session of its caller, and of which the new messages are kept. -/
def inheriting (body : List (Template σ)) (defaults : Defaults σ) : Template σ :=
  subroutine body (some Session.inheritParent) (some (.of Session.appendNewMessages)) defaults

/-- A program that goes on with a session: everything that callers have handed over shows nothing and does not look
at the echo, and the new messages of all subroutines are kept. -/
inductive Inlinable (target : Option Observer) : Template σ → Prop
  | system {source} (h : source.Unaware target) : Inlinable target (system source)
  | user {source} (h : ∀ src ∈ source, src.Unaware target) : Inlinable target (user source)
  | assistant {source extract} (h : ∀ src ∈ source, src.Unaware target) :
    Inlinable target (assistant source extract)
  | conditional {condition positive negative} (hcondition : Predicate.Unaware target condition)
    (hpositive : Inlinable target positive) (hnegative : ∀ t ∈ negative, Inlinable target t) :
    Inlinable target (conditional condition positive negative)
  | transform {functions} (h : ∀ f ∈ functions, Reshaping.Extends target f) :
    Inlinable target (transform functions)
  | sequence {body defaults} (hdefaults : defaults.MadeOf (Source.Unaware target))
    (hbody : ∀ t ∈ body, Inlinable target t) : Inlinable target (sequence body defaults)
  | loop {body done rounds defaults} (hdone : ∀ p ∈ done, Predicate.Unaware target p)
    (hdefaults : defaults.MadeOf (Source.Unaware target)) (hbody : ∀ t ∈ body, Inlinable target t) :
    Inlinable target (loop body done rounds defaults)
  | inheriting {body defaults} (hdefaults : defaults.MadeOf (Source.Unaware target))
    (hbody : ∀ t ∈ body, Inlinable target t) : Inlinable target (inheriting body defaults)
  | parallel {p} (h : p.Unaware target) : Inlinable target (parallel p)
  | agent {steps defaults} (hdefaults : defaults.MadeOf (Source.Unaware target))
    (hsteps : ∀ t ∈ steps, Inlinable target t) : Inlinable target (agent steps defaults)

/-! ### How bodies go on with vars -/

theorem overlaid_runSystem (source : Source σ) (s : Session) :
    (runSystem source s).Ensures s.Overlaid :=
  .after fun content => Ensures.mono (s.ensures_appendText_vars .system content) fun _ => .of_eq

theorem overlaid_runUser (source : Option (Source σ)) (s : Session) :
    (runUser source s).Ensures s.Overlaid := by
  cases source with
  | none => exact .throw _
  | some src =>
    exact .after fun content => Ensures.mono (s.ensures_appendText_vars .user content) fun _ => .of_eq

theorem overlaid_runAssistant (source : Option (Source σ)) (extract : Extract) (s : Session) :
    (runAssistant source extract s).Ensures s.Overlaid := by
  cases source with
  | none => exact .throw _
  | some src =>
    refine .after fun content => .after fun out => ?_
    refine .bind (s.ensures_appendOutput_vars content) fun s' hvars => ?_
    have hkept : s.Overlaid s' := .of_eq hvars
    cases out.structured with
    | none => exact .pure hkept
    | some data =>
      refine .pure ?_
      split
      · exact hkept.trans (s'.overlaid_withVars _)
      · exact hkept

theorem overlaid_applyAll {functions : List (Reshaping σ)}
    (h : ∀ f ∈ functions, Reshaping.Extends target f) (s : Session) :
    (applyAll functions s).Ensures s.Overlaid := by
  induction functions generalizing s with
  | nil => exact .pure (.refl s)
  | cons f rest ih =>
    rw [List.forall_mem_cons] at h
    rw [applyAll, ← bind_assoc]
    exact Session.Overlaid.bind (h.1.overlays s) fun s' _ => ih h.2 s'

theorem appends_transform {functions : List (Reshaping σ)}
    (h : ∀ f ∈ functions, Reshaping.Extends target f) (s : Session) :
    (applyAll functions s).Appends target s := by
  induction functions generalizing s with
  | nil => exact .pure (.refl s)
  | cons f rest ih =>
    rw [List.forall_mem_cons] at h
    rw [applyAll, ← bind_assoc]
    exact .bind (h.1.appends s) fun s' _ _ => ih h.2 s'

theorem overlaid_repeatUntil {step : Session → Run σ Session}
    (hstep : ∀ s, (step s).Ensures s.Overlaid) (done : Predicate σ) (limit : Int) (rounds : Nat)
    (s : Session) : (repeatUntil done step limit rounds s).Ensures s.Overlaid := by
  induction rounds generalizing s with
  | zero => exact .after fun held => .ite (.after fun _ => .pure (.refl s)) (.pure (.refl s))
  | succ rounds ih =>
    refine .after fun held => .ite (.pure (.refl s)) ?_
    exact Session.Overlaid.bind (hstep s) fun s' _ => ih s'

theorem overlaid_runLoop {step : Session → Run σ Session} (hstep : ∀ s, (step s).Ensures s.Overlaid)
    (body : List (Template σ)) (done : Option (Predicate σ)) (rounds : Int) (s : Session) :
    (runLoop body done rounds step s).Ensures s.Overlaid := by
  refine .ite (.throw _) ?_
  cases done with
  | none => exact .after fun _ => hstep s
  | some done => exact overlaid_repeatUntil hstep done rounds _ s

theorem overlaid_runAllIn {body : List (Template σ)} {outer : Defaults σ}
    (h : ∀ t ∈ body, ∀ s, (t.runIn outer s).Ensures s.Overlaid) (s : Session) :
    (runAllIn body outer s).Ensures s.Overlaid := by
  induction body generalizing s with
  | nil => exact .pure (.refl s)
  | cons t rest ih =>
    rw [List.forall_mem_cons] at h
    exact Session.Overlaid.bind (h.1 s) fun s' _ => ih h.2 s'

/-- The caller's session, with the new messages of a subroutine and its vars. -/
theorem exec_squashChild (parent child : Session) (w : Surroundings σ) (st : State σ) :
    ∃ st₁, (squashChild (some (.of Session.appendNewMessages)) parent child).exec w st =
        (.ok ((parent.extend (child.messages.drop parent.messages.length)).withVars child.vars), st₁) ∧
      st.Echoes st₁ := by
  obtain ⟨st₁, hadd, hechoes⟩ :=
    parent.echoes_addAll (child.messages.drop parent.messages.length) w st
  have hfold : (squashChild (some (.of Session.appendNewMessages)) parent child : Run σ Session) = (do
      let merged ← parent.addAll (child.messages.drop parent.messages.length)
      settle parent (.session (merged.withVars child.vars))) := by
    simp only [squashChild, Squashing.of, Session.appendNewMessages, bind_assoc, pure_bind, settle]
  have hsettle : (settle parent (.session ((parent.extend
      (child.messages.drop parent.messages.length)).withVars child.vars)) : Run σ Session) =
      pure _ := if_pos (by rw [Bool.and_eq_true]; exact ⟨decide_eq_true rfl, decide_eq_true rfl⟩)
  rw [hfold, Run.exec_bind_ok _ hadd, hsettle]
  exact ⟨st₁, rfl, hechoes⟩

theorem overlaid_squashChild (parent child : Session) :
    (squashChild (some (.of Session.appendNewMessages)) parent child :
      Run σ Session).Ensures parent.Overlaid := by
  intro w st s' st' hexec
  obtain ⟨st₁, hfolded, -⟩ := exec_squashChild parent child w st
  obtain ⟨hs, -⟩ := Prod.mk.inj (hfolded.symm.trans hexec)
  rw [← Except.ok.inj hs]
  exact ⟨child.vars, rfl⟩

/-! ### How bodies go on with sessions -/

variable {t : Template σ} {body : List (Template σ)} {defaults outer : Defaults σ} {s : Session}

theorem silent_of_unaware {d : Defaults σ} (h : d.MadeOf (Source.Unaware target)) : d.Silent target :=
  ⟨fun src hsrc => (h.user src hsrc).silent, fun src hsrc => (h.assistant src hsrc).silent⟩

theorem blind_of_unaware {d : Defaults σ} (h : d.MadeOf (Source.Unaware target)) :
    d.MadeOf (Source.Blind .echo) :=
  ⟨fun src hsrc => (h.user src hsrc).blind, fun src hsrc => (h.assistant src hsrc).blind⟩

/-- An inlinable program appends messages. -/
theorem Inlinable.appends (h : t.Inlinable target) (houter : outer.Silent target) (s : Session) :
    (t.runIn outer s).Appends target s := by
  -- Bodies run in the scope that their template declares, so the induction is for every silent scope.
  induction h generalizing outer s with
  | system h => exact appends_runSystem h.silent s
  | user h => exact appends_runUser (forall_mem_or (fun src hsrc => (h src hsrc).silent) houter.user) s
  | assistant h =>
    exact appends_runAssistant (forall_mem_or (fun src hsrc => (h src hsrc).silent) houter.assistant) _ s
  | @conditional _ _ negative hcondition _ _ ihpositive ihnegative =>
    refine .after_silent (silent_holds hcondition.silent s) fun held => .ite (ihpositive houter s) ?_
    cases negative with
    | none => exact .pure (.refl s)
    | some t => exact ihnegative t rfl houter s
  | transform h => exact appends_transform h s
  | sequence hdefaults _ ih =>
    exact Appending.runAllIn (fun t ht => ih t ht ((silent_of_unaware hdefaults).within houter)) s
  | loop hdone hdefaults _ ih =>
    have hbody := Appending.runAllIn fun t ht => ih t ht ((silent_of_unaware hdefaults).within houter)
    exact appends_runLoop (fun p hp => (hdone p hp).silent) hbody _ s
  | inheriting hdefaults _ ih =>
    have hbody := Appending.runAllIn fun t ht => ih t ht ((silent_of_unaware hdefaults).within houter)
    exact appends_runSubroutine (.newMessages .inherit) hbody s
  | parallel h => exact Parallel.appends_run h.silent s
  | agent hdefaults _ ih =>
    exact Appending.runAllIn (fun t ht => ih t ht ((silent_of_unaware hdefaults).within houter)) s

/-- An inlinable program overlays vars. -/
theorem Inlinable.overlays (h : t.Inlinable target) (outer : Defaults σ) (s : Session) :
    (t.runIn outer s).Ensures s.Overlaid := by
  induction h generalizing outer s with
  | system h => exact overlaid_runSystem _ s
  | user h => exact overlaid_runUser _ s
  | assistant h => exact overlaid_runAssistant _ _ s
  | @conditional _ _ negative _ _ _ ihpositive ihnegative =>
    refine .after fun held => .ite (ihpositive outer s) ?_
    cases negative with
    | none => exact .pure (.refl s)
    | some t => exact ihnegative t rfl outer s
  | transform h => exact overlaid_applyAll h s
  | sequence _ _ ih => exact overlaid_runAllIn (fun t ht => ih t ht _) s
  | loop _ _ _ ih => exact overlaid_runLoop (overlaid_runAllIn fun t ht => ih t ht _) _ _ _ s
  | inheriting _ _ _ => exact .after fun child => .after fun child => overlaid_squashChild s child
  | parallel h => exact (Parallel.ensures_run_vars h.silent s).mono fun _ => .of_eq
  | agent _ _ ih => exact overlaid_runAllIn (fun t ht => ih t ht _) s

/-- An inlinable program is blind. -/
theorem Inlinable.blind (h : t.Inlinable target) : t.Blind .echo := by
  induction h with
  | system h => exact .system h.blind
  | user h => exact .user fun src hsrc => (h src hsrc).blind
  | assistant h => exact .assistant fun src hsrc => (h src hsrc).blind
  | conditional hcondition _ _ ihpositive ihnegative =>
    exact .conditional hcondition.blind ihpositive ihnegative
  | transform h => exact .transform fun f hf => (h f hf).blind
  | sequence hdefaults _ ih => exact .sequence (blind_of_unaware hdefaults) ih
  | loop hdone hdefaults _ ih =>
    exact .loop (fun p hp => (hdone p hp).blind) (blind_of_unaware hdefaults) ih
  | inheriting hdefaults _ ih =>
    refine .subroutine ?_ ?_ ?_ (blind_of_unaware hdefaults) ih
    · intro f hf s s' hs
      rw [← Option.some.inj hf]
      exact .pure hs
    · intro f hf parent parent' child child' hparent hchild
      rw [← Option.some.inj hf]
      exact (twin_newMessages hparent hchild).bind fun _ _ hmerged => .pure (.session hmerged)
    · intro f hf outer _
      rw [← Option.some.inj hf]
      exact returns_newMessages _ _
  | parallel h => exact .parallel h.blind
  | agent hdefaults _ ih => exact .agent (blind_of_unaware hdefaults) ih

/-! ### Inlining -/

/-- What a subroutine on a session comes to, where its body comes to another one in its place: the same, but with the
attributes of the session. -/
structure Inlined (s inline called : Session) : Prop where
  messages : called.messages = inline.messages
  vars : called.vars = inline.vars
  echo : called.echo = inline.echo
  observer : called.observer = inline.observer
  attrs : called.attrs = s.attrs

/-- A step and a subroutine of it are twins, if the step goes on with the session that they start with. -/
theorem twin_inherit {step : Session → Run σ Session} (hstep : OnTwins .echo (Session.Twin .echo) step)
    (happends : (step s).Appends target s) (hoverlays : (step s).Ensures s.Overlaid)
    (hnodup : s.vars.keys.Nodup) : Run.Twin .echo (Inlined s) (step s)
      (runSubroutine (σ := σ) (some Session.inheritParent) (some (.of Session.appendNewMessages)) step
        s) := by
  have hquiet : s.Twin .echo (s.withEcho false none) := ⟨rfl, rfl, rfl, nofun⟩
  have hgoes : (step s).Ensures fun s' => s.Continues s' ∧ s.Overlaid s' := fun w st s' st' hexec =>
    ⟨happends.ensures w st s' st' hexec, hoverlays w st s' st' hexec⟩
  have hcalled : runSubroutine (σ := σ) (some Session.inheritParent)
      (some (.of Session.appendNewMessages)) step s =
      step (s.withEcho false none) >>= squashChild (some (.of Session.appendNewMessages)) s := rfl
  rw [hcalled, ← bind_pure (step s)]
  refine .bind_of_ensures (hstep s _ hquiet) hgoes (.trivial _) ?_
  rintro s' child hchild ⟨⟨ms, hextends⟩, hoverlaid⟩ -
  intro w st st' hst
  obtain ⟨st₁, hexec, hechoes⟩ := exec_squashChild s child w st'
  rw [hexec]
  refine ⟨.ok ⟨?_, ?_, hextends.echo.symm, hextends.observer.symm, rfl⟩,
    hst.echoes (.refl st) hechoes⟩
  · -- The messages of the child that lie behind those of the caller are the ones that were added.
    show s.messages ++ child.messages.drop s.messages.length = s'.messages
    rw [hchild.messages, hextends.messages, List.drop_left]
  · show s.vars.overlay child.vars = s'.vars
    rw [hchild.vars, hoverlaid.overlay hnodup]

/-- **Inlining.** Let the body of a subroutine, which starts with the session of its caller and of which the new
messages are kept, only go on with sessions, and look at no echo.  Then in every scope, from every state, the
subroutine and its body in its place fail alike, or come to sessions with the same messages, vars and settings,
where the subroutine keeps the attributes of its caller; if they do not fail, the same messages were shown in the
same order.  The states that they leave are the same but for what was shown. -/
theorem inlining {body : List (Template σ)} {defaults outer : Defaults σ} {s : Session}
    (hbody : ∀ t ∈ body, t.Inlinable target) (hdefaults : defaults.MadeOf (Source.Unaware target))
    (houter : outer.MadeOf (Source.Unaware target)) (hvars : s.vars.keys.Nodup) (w : Surroundings σ)
    (st : State σ) : ∃ inline called st₁ st₂,
      ((sequence body defaults).run s).exec w outer st = (inline, outer, st₁) ∧
      ((inheriting body defaults).run s).exec w outer st = (called, outer, st₂) ∧
      Ended (Inlined s) inline called ∧ st₁.Twin .echo st₂ ∧
      (∀ s', inline = .ok s' → st₂.echoes target = st₁.echoes target) := by
  have hsequence : (sequence body defaults).Inlinable target := .sequence hdefaults hbody
  have hcalled : (inheriting body defaults).Inlinable target := .inheriting hdefaults hbody
  have htwin : Run.Twin .echo (Inlined s) ((sequence body defaults).runIn outer s)
      ((inheriting body defaults).runIn outer s) :=
    twin_inherit (hsequence.blind.runIn (blind_of_unaware houter))
      (hsequence.appends (silent_of_unaware houter) s) (hsequence.overlays outer s) hvars
  obtain ⟨hended, hleft⟩ := htwin w st st (.refl st)
  refine ⟨_, _, _, _, by rw [run_eq_reading, Scoped.exec_reading],
    by rw [run_eq_reading, Scoped.exec_reading], hended, hleft, fun s' hs' => ?_⟩
  rcases hinline : ((sequence body defaults).runIn outer s).exec w st with ⟨x, st₁⟩
  rcases hcall : ((inheriting body defaults).runIn outer s).exec w st with ⟨x', st₂⟩
  rw [hinline] at hended hs'
  rw [hcall] at hended
  subst hs'
  cases hended with
  | @ok _ s'' h =>
    -- Both show what they append to the session, and this is the same.
    obtain ⟨ms, hextends, hshown⟩ := hsequence.appends (silent_of_unaware houter) s w st s' st₁ hinline
    obtain ⟨ms', hextends', hshown'⟩ := hcalled.appends (silent_of_unaware houter) s w st s'' st₂ hcall
    have hsame : ms' = ms := by
      have hmessages := h.messages
      rw [hextends'.messages, hextends.messages] at hmessages
      exact List.append_cancel_left hmessages
    rw [hshown', hshown, hsame]

/-! ### A body with a note -/

/-- A function that adds a message and sets a var. -/
def noting : Reshaping σ := fun s => do
  return .session ((← s.add { role := .user, content := "Noted" }).withVar "noted" (.bool true))

theorem extends_noting : Reshaping.Extends target (noting (σ := σ)) := by
  have hreshaped : ∀ s : Session, (noting s >>= reshaped : Run σ Session) = (do
      return (← s.add { role := .user, content := "Noted" }).withVars [("noted", .bool true)]) := by
    intro s
    simp only [noting, bind_assoc, pure_bind, reshaped]
    rfl
  refine ⟨fun s => ?_, fun s => ?_, fun s s' hs => ?_⟩
  · rw [hreshaped]
    exact .bind (s.appends_add _) fun s' _ _ => .pure (s'.extendsBy_withVars _)
  · rw [hreshaped]
    exact .bind (s.ensures_add_vars _) fun s' hvars =>
      .pure (.trans (.of_eq hvars) (s'.overlaid_withVars _))
  · exact (Session.twin_add hs _).bind fun _ _ hadded =>
      .pure (.session (hadded.withVars [("noted", .bool true)]))

theorem unaware_saying (text : String) : (saying text).Unaware target where
  silent := silent_saying text
  blind :=
    { origin := fun _ _ _ => .pure rfl
      validator := fun _ h => absurd h (Option.not_mem_none _)
      middlewares := fun _ h => absurd h List.not_mem_nil
      retry := fun _ h => absurd h (Option.not_mem_none _) }

/-- A body with a note, and with a greeting in a subroutine of its own. -/
def noted : List (Template Unit) :=
  [.transform [noting], inheriting [.user (some (saying "Hello"))] {}]

theorem inlinable_noted : ∀ t ∈ noted, t.Inlinable target := by
  refine List.forall_mem_cons.2 ⟨.transform ?_, List.forall_mem_singleton.2 ?_⟩
  · exact List.forall_mem_singleton.2 extends_noting
  · refine .inheriting madeOf_nothing (List.forall_mem_singleton.2 (.user fun src hsrc => ?_))
    rw [← Option.some.inj hsrc]
    exact unaware_saying "Hello"

/-- A session with a var, which shows its messages to an observer. -/
def loud : Session := { vars := [("x", .int 1)], echo := true, observer := some ⟨0⟩ }

/-- On a session with an observer that fails, both come to the note and the greeting, and show them. -/
theorem inlining_noted : ∃ s₁ s₂ st₁ st₂,
    ((sequence noted {}).run loud).exec deaf {} { host := () } = (.ok s₁, {}, st₁) ∧
      ((inheriting noted {}).run loud).exec deaf {} { host := () } = (.ok s₂, {}, st₂) ∧
      s₁.messages.map (·.content) = ["Noted", "Hello"] ∧ Inlined loud s₁ s₂ ∧
      st₂.echoes (some ⟨0⟩) = st₁.echoes (some ⟨0⟩) := by
  have hcontents : (((sequence noted {}).run loud).exec deaf {} { host := () }).1.toOption.map
      (·.messages.map (·.content)) = some ["Noted", "Hello"] := by
    decide +kernel
  have hbody : ∀ t ∈ noted, t.Inlinable (some ⟨0⟩) := inlinable_noted
  have hnothing : ({} : Defaults Unit).MadeOf (Source.Unaware (some ⟨0⟩)) := madeOf_nothing
  have hvars : loud.vars.keys.Nodup := by decide
  obtain ⟨x, x', st₁, st₂, hinline, hcalled, hended, -, hshown⟩ :=
    inlining hbody hnothing hnothing hvars deaf { host := () }
  rw [hinline] at hcontents
  cases hended with
  | error f => exact nomatch hcontents
  | ok h =>
    exact ⟨_, _, st₁, st₂, hinline, hcalled, Option.some.inj hcontents, h, hshown _ rfl⟩

end Template

end Colloquy
