import Colloquy.Proofs.Echo.Silence
import Colloquy.Proofs.Run.Ensures

/-!
# What sessions show

A message that is added to a session is shown once if the echo of the session is on, and not at all if it is
off, and a failing observer changes nothing about that: `exec_addAll`.  The same holds of `rejoin`, which adds
to the parent what a quiet copy of it has on top (`rejoin_extend`, `exec_rejoin`).

`Run.Appends` is what is kept by everything that goes on with a session: its messages stay, its echo and its
observer stay, and what was shown are the messages that have come on top.
-/

namespace Colloquy

variable {σ α : Type} {target : Option Observer} {w : Surroundings σ} {st : State σ}

/-! ### Equal messages -/

theorem Message.same_self (m : Message) : m.same m = true :=
  m.toValue.same_self

theorem Session.startsWith_append (front rest : List Message) :
    startsWith front (front ++ rest) = true := by
  induction front with
  | nil => rfl
  | cons m front ih =>
    show (Message.same m m && startsWith front (front ++ rest)) = true
    rw [Message.same_self, ih]
    rfl

/-! ### Adding messages -/

namespace Session

/-- The messages that an observer is shown, or that are shown in the log, when they are added. -/
def shown (s : Session) (target : Option Observer) (ms : List Message) : List Message :=
  if s.echo ∧ s.observer = target then ms else []

/-- The session with further messages at its end, without any echo. -/
def extend (s : Session) (ms : List Message) : Session :=
  { s with messages := s.messages ++ ms }

/-- A session that continues another one with further messages. -/
structure ExtendsBy (s s' : Session) (ms : List Message) : Prop where
  messages : s'.messages = s.messages ++ ms
  echo : s'.echo = s.echo
  observer : s'.observer = s.observer

variable {s s' s'' : Session} {ms ms' : List Message}

theorem shown_nil : s.shown target [] = [] := by
  simp only [shown, ite_self]

theorem shown_quiet (h : s.echo = false) : s.shown target ms = [] := by
  simp only [shown, h, Bool.false_eq_true, false_and, if_false]

theorem shown_append : s.shown target (ms ++ ms') = s.shown target ms ++ s.shown target ms' := by
  unfold shown
  split
  · rfl
  · rfl

theorem ExtendsBy.refl (s : Session) : s.ExtendsBy s [] :=
  ⟨(List.append_nil _).symm, rfl, rfl⟩

theorem extendsBy_extend (s : Session) (ms : List Message) : s.ExtendsBy (s.extend ms) ms :=
  ⟨rfl, rfl, rfl⟩

theorem extendsBy_withVars (s : Session) (vars : Entries) : s.ExtendsBy (s.withVars vars) [] :=
  ⟨(List.append_nil _).symm, rfl, rfl⟩

@[simp]
theorem extend_nil (s : Session) : s.extend [] = s := by
  unfold extend
  rw [List.append_nil]

theorem extend_append (s : Session) (ms ms' : List Message) :
    s.extend (ms ++ ms') = (s.extend ms).extend ms' := by
  unfold extend
  rw [List.append_assoc]

theorem ExtendsBy.trans (h : s.ExtendsBy s' ms) (h' : s'.ExtendsBy s'' ms') :
    s.ExtendsBy s'' (ms ++ ms') where
  messages := by rw [h'.messages, h.messages, List.append_assoc]
  echo := h'.echo.trans h.echo
  observer := h'.observer.trans h.observer

theorem ExtendsBy.shown (h : s.ExtendsBy s' ms) : s'.shown target ms' = s.shown target ms' := by
  simp only [Session.shown, h.echo, h.observer]

theorem exec_announce (s : Session) (m : Message) (w : Surroundings σ) (st : State σ) :
    ∃ st', (s.announce m).exec w st = (.ok (), st') ∧
      ∀ target, st'.echoes target = st.echoes target ++ if s.observer = target then [m] else [] := by
  unfold announce
  cases s.observer with
  | none =>
    refine ⟨_, Run.exec_log _, fun target => ?_⟩
    cases target with
    | none => exact List.filterMap_append
    | some o => exact (List.append_nil _).symm
  | some o =>
    have hdeliver : ∀ target, ({ st with deliveries := st.deliveries ++ [(o, m)] } : State σ).echoes
        target = st.echoes target ++ if some o = target then [m] else [] := by
      intro target
      cases target with
      | none => exact (List.append_nil _).symm
      | some o' =>
        show ((st.deliveries ++ [(o, m)]).filter (·.1 = o')).map (·.2) = _
        rw [List.filter_append, List.map_append]
        by_cases ho : o = o'
        · subst ho
          simp [State.echoes]
        · simp [State.echoes, ho]
    rw [Run.exec_bind_ok _ Run.exec_read, Run.exec_bind_ok _ (Run.exec_modify _)]
    cases w.observe o m with
    | none => exact ⟨_, rfl, hdeliver⟩
    | some f =>
      refine ⟨_, Run.exec_log _, fun target => ?_⟩
      -- The report of a failing observer shows no message.
      have hreport : (Run.log (σ := σ) (.observerFailed f.text)).Silent target :=
        Run.Silent.log rfl
      exact (hreport w _).trans (hdeliver target)

theorem exec_add (s : Session) (m : Message) (w : Surroundings σ) (st : State σ) :
    ∃ st', (s.add m).exec w st = (.ok (s.append m), st') ∧
      ∀ target, st'.echoes target = st.echoes target ++ s.shown target [m] := by
  unfold add
  cases h : s.echo with
  | false =>
    refine ⟨st, rfl, fun target => ?_⟩
    rw [shown_quiet h, List.append_nil]
  | true =>
    obtain ⟨st', hexec, hechoes⟩ := exec_announce s m w st
    refine ⟨st', ?_, fun target => ?_⟩
    · exact Run.exec_bind_ok _ hexec
    · simp only [hechoes, shown, h, true_and]

theorem exec_addAll (s : Session) (ms : List Message) (w : Surroundings σ) (st : State σ) :
    ∃ st', (s.addAll ms).exec w st = (.ok (s.extend ms), st') ∧
      ∀ target, st'.echoes target = st.echoes target ++ s.shown target ms := by
  induction ms generalizing s st with
  | nil =>
    refine ⟨st, ?_, fun target => ?_⟩
    · rw [extend_nil]
      rfl
    · rw [shown_nil, List.append_nil]
  | cons m rest ih =>
    obtain ⟨st₁, hadd, hfirst⟩ := exec_add s m w st
    obtain ⟨st', hrest, hechoes⟩ := ih (s.append m) st₁
    refine ⟨st', ?_, fun target => ?_⟩
    · have hextend : s.extend (m :: rest) = (s.append m).extend rest := s.extend_append [m] rest
      rw [hextend]
      exact (Run.exec_bind_ok _ hadd).trans hrest
    · have happend : s.ExtendsBy (s.append m) [m] := s.extendsBy_extend [m]
      rw [hechoes, hfirst, happend.shown, List.append_assoc, ← shown_append]
      rfl

theorem addAll_singleton (s : Session) (m : Message) : (s.addAll [m] : Run σ Session) = s.add m :=
  bind_pure (s.add m)

/-- A quiet session gets a message, and nothing else happens. -/
theorem exec_add_quiet (hquiet : s.echo = false) (m : Message) :
    (s.add m).exec w st = (.ok (s.append m), st) := by
  rw [add, hquiet]
  rfl

/-- Nothing happens to the state when messages are added to a quiet session. -/
theorem exec_addAll_quiet (hquiet : s.echo = false) (ms : List Message) :
    (s.addAll ms).exec w st = (.ok (s.extend ms), st) := by
  induction ms generalizing s with
  | nil =>
    rw [extend_nil]
    rfl
  | cons m rest ih =>
    have hextend : s.extend (m :: rest) = (s.append m).extend rest := s.extend_append [m] rest
    rw [hextend]
    exact (Run.exec_bind_ok _ (exec_add_quiet hquiet m)).trans (ih hquiet)

/-- What goes on with messages that equal those of the parent gets the echo of the parent back. -/
theorem rejoin_of_startsWith {parent merged : Session} {ms : List Message}
    (hstarts : startsWith parent.messages merged.messages = true)
    (hadded : merged.messages.drop parent.messages.length = ms) :
    (parent.rejoin merged : Run σ Session) =
      if ms.isEmpty && Value.same (.object merged.vars) (.object parent.vars) &&
          Value.same (.object merged.attrs) (.object parent.attrs) then pure parent
      else ({ merged.withEcho parent.echo parent.observer with
        messages := parent.messages } : Session).addAll ms := by
  unfold rejoin
  simp only [hstarts, hadded, Bool.not_true, Bool.false_eq_true, if_false]

/-- What goes on with the messages of the parent gets the echo of the parent back. -/
theorem rejoin_eq {parent merged : Session} {ms : List Message}
    (hmessages : merged.messages = parent.messages ++ ms) :
    (parent.rejoin merged : Run σ Session) =
      if ms.isEmpty && Value.same (.object merged.vars) (.object parent.vars) &&
          Value.same (.object merged.attrs) (.object parent.attrs) then pure parent
      else ({ merged.withEcho parent.echo parent.observer with
        messages := parent.messages } : Session).addAll ms := by
  apply rejoin_of_startsWith
  · rw [hmessages, startsWith_append]
  · rw [hmessages, List.drop_left]

/-- A session that was built on top of a quiet copy of the parent gets the echo of the parent back, and what it
has on top is shown. -/
theorem exec_rejoin {parent merged : Session} {ms : List Message}
    (hmessages : merged.messages = parent.messages ++ ms)
    (hobserver : merged.observer = parent.observer) (w : Surroundings σ) (st : State σ) :
    ∃ s' st', (parent.rejoin merged).exec w st = (.ok s', st') ∧ parent.ExtendsBy s' ms ∧
      ∀ target, st'.echoes target = st.echoes target ++ parent.shown target ms := by
  let base : Session :=
    { merged.withEcho parent.echo parent.observer with messages := parent.messages }
  have hbase : parent.ExtendsBy base [] := by
    refine ⟨(List.append_nil _).symm, rfl, ?_⟩
    show parent.observer.or merged.observer = parent.observer
    rw [hobserver, Option.or_self]
  rw [rejoin_eq hmessages]
  split
  · -- Nothing has come on top, so the answer is the parent itself.
    rename_i hsame
    rw [Bool.and_eq_true, Bool.and_eq_true, List.isEmpty_iff] at hsame
    obtain ⟨⟨rfl, -⟩, -⟩ := hsame
    refine ⟨parent, st, rfl, .refl parent, fun target => ?_⟩
    rw [shown_nil, List.append_nil]
  · obtain ⟨st', hexec, hechoes⟩ := exec_addAll base ms w st
    refine ⟨base.extend ms, st', hexec, hbase.trans (base.extendsBy_extend ms), fun target => ?_⟩
    rw [hechoes, hbase.shown]

/-- What was put on top of a quiet copy is added to the parent as if it had been added there at once. -/
theorem rejoin_extend (s : Session) (ms : List Message) :
    (s.rejoin ((s.withEcho false none).extend ms) : Run σ Session) = s.addAll ms := by
  have hsame : ∀ entries : Entries, Value.same (.object entries) (.object entries) = true :=
    fun entries => Value.same_self _
  have hbase : ({ ((s.withEcho false none).extend ms).withEcho s.echo s.observer with
      messages := s.messages } : Session) = s := by
    cases s
    simp only [withEcho, extend, Option.none_or, Option.or_self]
  rw [rejoin_eq rfl, hbase]
  cases ms with
  | nil =>
    show (if true && Value.same (.object s.vars) (.object s.vars) &&
      Value.same (.object s.attrs) (.object s.attrs) then pure s else s.addAll []) = _
    rw [hsame, hsame]
    rfl
  | cons m rest => rfl

end Session

/-! ### Appending -/

/-- A run that goes on with a session: its messages stay and further ones follow, its echo and its observer
stay, and of the messages that follow each is shown once, in order, if the echo is on. -/
def Run.Appends (target : Option Observer) (s : Session) (r : Run σ Session) : Prop :=
  ∀ w st s' st', r.exec w st = (.ok s', st') →
    ∃ ms, s.ExtendsBy s' ms ∧ st'.echoes target = st.echoes target ++ s.shown target ms

namespace Run.Appends

variable {s s' c : Session} {ms : List Message} {P : α → Prop}

/-- What always ends as a run that appends does. -/
theorem of_exec {r : Run σ Session} (h : ∀ w st, ∃ s' st', r.exec w st = (.ok s', st') ∧
    s.ExtendsBy s' ms ∧ ∀ target, st'.echoes target = st.echoes target ++ s.shown target ms) :
    r.Appends target s := by
  intro w st s' st' hexec
  obtain ⟨s₁, st₁, hexec₁, hextends, hechoes⟩ := h w st
  obtain ⟨hs, rfl⟩ := Prod.mk.inj (hexec.symm.trans hexec₁)
  obtain rfl := Except.ok.inj hs
  exact ⟨ms, hextends, hechoes target⟩

protected theorem pure (h : s.ExtendsBy s' []) : (pure s' : Run σ Session).Appends target s :=
  of_exec fun _ st => ⟨s', st, rfl, h, fun target => by rw [s.shown_nil, List.append_nil]⟩

protected theorem throw (f : Failure) : (throw f : Run σ Session).Appends target s := by
  intro w st s' st' hexec
  exact nomatch (Prod.mk.inj hexec).1

/-- A quiet session shows nothing, so a silent run appends to it if its answer continues it. -/
theorem of_quiet {r : Run σ Session} (hquiet : s.echo = false) (hsilent : r.Silent target)
    (hr : r.Ensures fun s' => ∃ ms, s.ExtendsBy s' ms) : r.Appends target s := by
  intro w st s' st' hexec
  obtain ⟨ms, hextends⟩ := hr w st s' st' hexec
  refine ⟨ms, hextends, ?_⟩
  rw [Session.shown_quiet hquiet, List.append_nil]
  have hstate := hsilent w st
  rwa [hexec] at hstate

protected theorem ite {b : Prop} [Decidable b] {r r' : Run σ Session} (hr : r.Appends target s)
    (hr' : r'.Appends target s) : (if b then r else r').Appends target s := by
  by_cases h : b
  · rwa [if_pos h]
  · rwa [if_neg h]

/-- A silent run before a run that appends. -/
theorem after {r : Run σ α} {k : α → Run σ Session} (hr : r.Silent target) (hP : r.Ensures P)
    (hk : ∀ a, P a → (k a).Appends target s) : (r >>= k).Appends target s := by
  intro w st s' st' hexec
  obtain ⟨a, st₁, hfirst, hsecond⟩ := exec_of_bind_ok hexec
  obtain ⟨ms, hextends, hechoes⟩ := hk a (hP w st a st₁ hfirst) w st₁ s' st' hsecond
  have hsilent := hr w st
  rw [hfirst] at hsilent
  exact ⟨ms, hextends, hechoes.trans (congrArg (· ++ s.shown target ms) hsilent)⟩

theorem after_silent {r : Run σ α} {k : α → Run σ Session} (hr : r.Silent target)
    (hk : ∀ a, (k a).Appends target s) : (r >>= k).Appends target s :=
  after hr (.trivial r) fun a _ => hk a

protected theorem bind {r : Run σ Session} {k : Session → Run σ Session}
    (hr : r.Appends target s) (hk : ∀ s' ms, s.ExtendsBy s' ms → (k s').Appends target s') :
    (r >>= k).Appends target s := by
  intro w st s'' st'' hexec
  obtain ⟨s', st', hfirst, hsecond⟩ := exec_of_bind_ok hexec
  obtain ⟨ms, hextends, hechoes⟩ := hr w st s' st' hfirst
  obtain ⟨ms', hextends', hechoes'⟩ := hk s' ms hextends w st' s'' st'' hsecond
  refine ⟨ms ++ ms', hextends.trans hextends', ?_⟩
  rw [hechoes', hechoes, hextends.shown, List.append_assoc, ← Session.shown_append]

/-- A run on a quiet session of its own shows nothing. -/
theorem bind_quiet {r : Run σ Session} {k : Session → Run σ Session} (hquiet : c.echo = false)
    (hr : r.Appends target c) (hk : ∀ c' ms, c.ExtendsBy c' ms → (k c').Appends target s) :
    (r >>= k).Appends target s := by
  intro w st s' st' hexec
  obtain ⟨c', st₁, hfirst, hsecond⟩ := exec_of_bind_ok hexec
  obtain ⟨ms, hextends, hechoes⟩ := hr w st c' st₁ hfirst
  obtain ⟨ms', hextends', hechoes'⟩ := hk c' ms hextends w st₁ s' st' hsecond
  refine ⟨ms', hextends', ?_⟩
  rw [hechoes', hechoes, Session.shown_quiet hquiet, List.append_nil]

end Run.Appends

namespace Session

variable {s parent merged : Session} {ms : List Message}

theorem appends_addAll (s : Session) (ms : List Message) :
    (s.addAll ms : Run σ Session).Appends target s := by
  have hadds : ∀ w st, ∃ s' st', (s.addAll ms : Run σ Session).exec w st = (.ok s', st') ∧
      s.ExtendsBy s' ms ∧ ∀ target, st'.echoes target = st.echoes target ++ s.shown target ms := by
    intro w st
    obtain ⟨st', hexec, hechoes⟩ := exec_addAll s ms w st
    exact ⟨s.extend ms, st', hexec, s.extendsBy_extend ms, hechoes⟩
  exact .of_exec hadds

theorem appends_add (s : Session) (m : Message) : (s.add m : Run σ Session).Appends target s := by
  rw [← addAll_singleton]
  exact s.appends_addAll [m]

theorem appends_rejoin (hmessages : merged.messages = parent.messages ++ ms)
    (hobserver : merged.observer = parent.observer) :
    (parent.rejoin merged : Run σ Session).Appends target parent :=
  .of_exec (exec_rejoin hmessages hobserver)

theorem silent_addAll (hquiet : s.echo = false) (ms : List Message) :
    (s.addAll ms : Run σ Session).Silent target := by
  intro w st
  rw [exec_addAll_quiet hquiet]

end Session

end Colloquy
