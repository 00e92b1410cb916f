import Colloquy.Proofs.Run.Ensures
import Mathlib.Data.List.Forall2

/-!
# Twin runs

Twin sessions have the same messages, vars and attributes.  They may differ in the observer, or also in whether
they echo: their leeway.  Twin states differ in what was echoed, and in the settings of the sessions that backends
were called with; twin runs lead from twin states to twin states, and fail alike or answer what is related.

A run that goes with itself is blind: it cannot tell twin states apart.  Twin runs are closed under everything that
runs are put together from, so for the functions of the model they are found along the body, on twin arguments.
-/

namespace Colloquy

variable {σ α α' β β' : Type}

/-! ### Sessions -/

/-- What twin sessions may differ in. -/
inductive Leeway where
  /-- The observer alone. -/
  | observer
  /-- Whether messages are echoed, and the observer. -/
  | echo

variable {d : Leeway}

/-- Sessions with the same messages, vars and attributes. -/
structure Session.Twin (d : Leeway) (s s' : Session) : Prop where
  messages : s'.messages = s.messages
  vars : s'.vars = s.vars
  attrs : s'.attrs = s.attrs
  echo : d = .observer → s'.echo = s.echo

namespace Session.Twin

variable {s s' : Session}

theorem refl (s : Session) : Twin d s s := ⟨rfl, rfl, rfl, fun _ => rfl⟩

/-- A twin has settings of its own, and everything else from its twin. -/
theorem eq_with (h : Twin d s s') : s' = { s with echo := s'.echo, observer := s'.observer } := by
  obtain ⟨hmessages, hvars, hattrs, -⟩ := h
  cases s'
  cases hmessages
  cases hvars
  cases hattrs
  rfl

theorem withEcho (h : Twin d s s') (echo : Bool) (observer observer' : Option Observer) :
    Twin d (s.withEcho echo observer) (s'.withEcho echo observer') :=
  ⟨h.messages, h.vars, h.attrs, fun _ => rfl⟩

theorem withVars (h : Twin d s s') (vars : Entries) : Twin d (s.withVars vars) (s'.withVars vars) :=
  ⟨h.messages, congrArg (Assoc.overlay · vars) h.vars, h.attrs, h.echo⟩

theorem append (h : Twin d s s') (m : Message) : Twin d (s.append m) (s'.append m) :=
  ⟨congrArg (· ++ [m]) h.messages, h.vars, h.attrs, h.echo⟩

end Session.Twin

/-! ### States -/

/-- Whether an event is a report of the library, and no echo of a message. -/
def Event.isReport : Event → Bool
  | .messageEchoed _ | .observerFailed _ => false
  | _ => true

/-- States in which everything is the same but what was echoed, and in which backends were called alike. -/
inductive State.Twin (d : Leeway) (st : State σ) : State σ → Prop
  | intro {events : List Event} {deliveries : List (Observer × Message)}
    {asked : Cells (List (Session × Options))}
    (hreports : events.filter Event.isReport = st.events.filter Event.isReport)
    (hasked : ∀ cell, List.Forall₂ (fun call call' => call.1.Twin d call'.1 ∧ call'.2 = call.2)
      (st.asked.get cell) (asked.get cell)) : Twin d st { st with events, deliveries, asked }

namespace State.Twin

variable {st st' : State σ}

theorem refl (st : State σ) : Twin d st st := by
  refine .intro rfl fun cell => List.forall₂_same.2 fun call _ => ?_
  exact ⟨.refl call.1, rfl⟩

theorem clock (h : Twin d st st') : st'.clock = st.clock := by
  cases h
  rfl

theorem host (h : Twin d st st') : st'.host = st.host := by
  cases h
  rfl

/-- A step that has nothing to do with what twins differ in leads to twins. -/
theorem step (h : Twin d st st') {g : State σ → State σ} (hg : ∀ st events deliveries asked,
    g { st with events, deliveries, asked } = { g st with events, deliveries, asked }) :
    Twin d (g st) (g st') := by
  cases h with
  | @intro events deliveries asked hreports hasked =>
    have hown : g st = { g st with events := st.events, deliveries := st.deliveries, asked := st.asked } :=
      hg st st.events st.deliveries st.asked
    have hevents : (g st).events = st.events := (congrArg State.events hown).trans rfl
    have hcalls : (g st).asked = st.asked := (congrArg State.asked hown).trans rfl
    rw [hg st events deliveries asked]
    refine .intro ?_ fun cell => ?_
    · rwa [hevents]
    · rw [hcalls]
      exact hasked cell

end State.Twin

/-! ### Outcomes -/

/-- Two runs have failed alike, or have answered what is related. -/
inductive Ended (R : α → α' → Prop) : Except Failure α → Except Failure α' → Prop
  | ok {a : α} {a' : α'} (h : R a a') : Ended R (.ok a) (.ok a')
  | error (f : Failure) : Ended R (.error f) (.error f)

theorem Ended.mono {R R' : α → α' → Prop} {x : Except Failure α} {x' : Except Failure α'}
    (h : Ended R x x') (hR : ∀ a a', R a a' → R' a a') : Ended R' x x' := by
  cases h with
  | ok h => exact .ok (hR _ _ h)
  | error f => exact .error f

namespace Run

/-- Runs that lead from twin states to twin states, and fail alike or answer what is related. -/
def Twin (d : Leeway) (R : α → α' → Prop) (r : Run σ α) (r' : Run σ α') : Prop :=
  ∀ w st st', st.Twin d st' → Ended R (r.exec w st).1 (r'.exec w st').1 ∧
    (r.exec w st).2.Twin d (r'.exec w st').2

/-- A run that cannot tell twin states apart. -/
abbrev Blind (d : Leeway) (r : Run σ α) : Prop := Twin d Eq r r

/-- A function that makes twin runs of twin sessions. -/
def OnTwins (d : Leeway) (R : α → α → Prop) (f : Session → Run σ α) : Prop :=
  ∀ s s', s.Twin d s' → Twin d R (f s) (f s')

variable {R : α → α' → Prop} {S : β → β' → Prop} {r : Run σ α} {r' : Run σ α'} {a : α} {a' : α'}

namespace Twin

/-! ### Steps -/

protected theorem pure (h : R a a') : Twin d R (pure a : Run σ α) (pure a') :=
  fun _ _ _ hst => ⟨.ok h, hst⟩

protected theorem throw (f : Failure) : Twin d R (throw f : Run σ α) (throw f) :=
  fun _ _ _ hst => ⟨.error f, hst⟩

protected theorem ofExcept {x : Except Failure α} {x' : Except Failure α'} (h : Ended R x x') :
    Twin d R (ofExcept (σ := σ) x) (ofExcept x') := by
  cases h with
  | ok h => exact .pure h
  | error f => exact .throw f

/-- What is done with a state that was read does not depend on what twins differ in. -/
theorem get_bind {k : State σ → Run σ α} {k' : State σ → Run σ α'}
    (hk' : ∀ st events deliveries asked, k' { st with events, deliveries, asked } = k' st)
    (hk : ∀ st, Twin d R (k st) (k' st)) : Twin d R (get >>= k) (get >>= k') := by
  intro w st st' hst
  rw [exec_bind_ok k exec_get, exec_bind_ok k' exec_get]
  have hread : k' st' = k' st := by
    cases hst
    exact hk' ..
  rw [hread]
  exact hk st w st st' hst

/-! ### Combinations -/

theorem mono {R' : α → α' → Prop} (h : Twin d R r r') (hR : ∀ a a', R a a' → R' a a') :
    Twin d R' r r' :=
  fun w st st' hst => (h w st st' hst).imp_left (·.mono hR)

/-- The runs that follow only have to be twins after answers that the first ones can give. -/
theorem bind_of_ensures {Q : α → Prop} {Q' : α' → Prop} {k : α → Run σ β} {k' : α' → Run σ β'}
    (hr : Twin d R r r') (hQ : r.Ensures Q) (hQ' : r'.Ensures Q')
    (hk : ∀ a a', R a a' → Q a → Q' a' → Twin d S (k a) (k' a')) :
    Twin d S (r >>= k) (r' >>= k') := by
  intro w st st' hst
  obtain ⟨hended, hleft⟩ := hr w st st' hst
  rcases hexec : r.exec w st with ⟨_ | a, st₁⟩ <;>
    rcases hexec' : r'.exec w st' with ⟨_ | a', st₁'⟩ <;>
    rw [hexec, hexec'] at hended hleft
  · cases hended
    rw [exec_bind_error k hexec, exec_bind_error k' hexec']
    exact ⟨.error _, hleft⟩
  · cases hended
  · cases hended
  · cases hended with
    | ok hanswer =>
      rw [exec_bind_ok k hexec, exec_bind_ok k' hexec']
      exact hk a a' hanswer (hQ _ _ _ _ hexec) (hQ' _ _ _ _ hexec') w st₁ st₁' hleft

protected theorem bind {k : α → Run σ β} {k' : α' → Run σ β'} (hr : Twin d R r r')
    (hk : ∀ a a', R a a' → Twin d S (k a) (k' a')) : Twin d S (r >>= k) (r' >>= k') :=
  bind_of_ensures hr (.trivial r) (.trivial r') fun a a' h _ _ => hk a a' h

protected theorem ite {c c' : Prop} [Decidable c] [Decidable c'] {q : Run σ α} {q' : Run σ α'}
    (hc : c ↔ c') (hr : Twin d R r r') (hq : Twin d R q q') :
    Twin d R (if c then r else q) (if c' then r' else q') := by
  by_cases h : c
  · rwa [if_pos h, if_pos (hc.1 h)]
  · rwa [if_neg h, if_neg (mt hc.2 h)]

protected theorem foldlM {ι : Type} {step : α → ι → Run σ α} {step' : α' → ι → Run σ α'} {l : List ι}
    (h : ∀ i ∈ l, ∀ a a', R a a' → Twin d R (step a i) (step' a' i)) (ha : R a a') :
    Twin d R (l.foldlM step a) (l.foldlM step' a') := by
  induction l generalizing a a' with
  | nil => exact .pure ha
  | cons i rest ih =>
    rw [List.forall_mem_cons] at h
    rw [List.foldlM_cons, List.foldlM_cons]
    exact .bind (h.1 a a' ha) fun a a' ha => ih h.2 ha

protected theorem outcome (hr : Twin d R r r') : Twin d (Ended R) r.outcome r'.outcome := by
  intro w st st' hst
  obtain ⟨hended, hleft⟩ := hr w st st' hst
  rw [exec_outcome, exec_outcome]
  exact ⟨.ok hended, hleft⟩

end Twin

namespace Blind

/-! ### Blind runs -/

/-- A run that has nothing to do with what twin states differ in. -/
theorem of_exec {r : Run σ α} (h : ∀ w st events deliveries asked,
    r.exec w { st with events, deliveries, asked } =
      ((r.exec w st).1, { (r.exec w st).2 with events, deliveries, asked })) : r.Blind d := by
  intro w st st' hst
  refine ⟨?_, hst.step (g := fun st => (r.exec w st).2) fun st events deliveries asked => ?_⟩
  · have hanswer : (r.exec w st').1 = (r.exec w st).1 := by
      cases hst
      exact (Prod.mk.inj (h w st ..)).1
    rw [hanswer]
    cases (r.exec w st).1 with
    | ok a => exact .ok rfl
    | error f => exact .error f
  · exact (Prod.mk.inj (h w st events deliveries asked)).2

protected theorem read : (read : Run σ (Surroundings σ)).Blind d := of_exec fun _ _ _ _ _ => rfl

protected theorem modify {g : State σ → State σ} (hg : ∀ st events deliveries asked,
    g { st with events, deliveries, asked } = { g st with events, deliveries, asked }) :
    (modify g : Run σ PUnit).Blind d := by
  refine of_exec fun w st events deliveries asked => ?_
  rw [exec_modify, exec_modify, hg]

protected theorem newCell : (newCell : Run σ Nat).Blind d := of_exec fun _ _ _ _ _ => rfl

protected theorem newObject : (newObject : Run σ Nat).Blind d := of_exec fun _ _ _ _ _ => rfl

protected theorem draw : (draw : Run σ Float).Blind d := of_exec fun _ _ _ _ _ => rfl

protected theorem sleep (delay : Float) : (sleep delay : Run σ Unit).Blind d :=
  of_exec fun _ _ _ _ _ => rfl

protected theorem onHost (step : σ → Except Failure α × σ) : (onHost step).Blind d := by
  refine of_exec fun w st events deliveries asked => ?_
  rw [exec_onHost, exec_onHost]

protected theorem ofExcept (x : Except Failure α) : (ofExcept (σ := σ) x).Blind d := by
  cases x with
  | ok a => exact .pure rfl
  | error f => exact .throw f

protected theorem ofChecked (record : String) (x : Checked α) :
    (ofChecked (σ := σ) record x).Blind d := by
  refine of_exec fun w st events deliveries asked => ?_
  rw [exec_ofChecked, exec_ofChecked]

protected theorem ofArithmetic (x : Except Number.Fault α) :
    (ofArithmetic (σ := σ) x).Blind d := by
  cases x with
  | ok a => exact .pure rfl
  | error fault => exact .throw (ofFault fault)

protected theorem log (e : Event) : (log e : Run σ Unit).Blind d := by
  intro w st st' hst
  rw [exec_log, exec_log]
  refine ⟨.ok rfl, ?_⟩
  cases hst with
  | intro hreports hasked =>
    refine .intro ?_ hasked
    rw [List.filter_append, List.filter_append, hreports]

/-- What follows a blind run gets the same answer. -/
protected theorem bind {r : Run σ α} {k : α → Run σ β} {k' : α → Run σ β'} (hr : r.Blind d)
    (hk : ∀ a, Twin d S (k a) (k' a)) : Twin d S (r >>= k) (r >>= k') :=
  Twin.bind hr fun a _ h => h ▸ hk a

protected theorem forM {ι : Type} {step step' : ι → Run σ PUnit} {l : List ι}
    (h : ∀ i ∈ l, Twin d Eq (step i) (step' i)) : Twin d Eq (forM l step) (forM l step') := by
  induction l with
  | nil => exact .pure rfl
  | cons i rest ih =>
    rw [List.forall_mem_cons] at h
    rw [List.forM_cons, List.forM_cons]
    exact Twin.bind h.1 fun _ _ _ => ih h.2

end Blind

end Run

end Colloquy
