import Colloquy.Proofs.Echo.Session
import Colloquy.Proofs.Twin.Run

/-!
# Twin sessions that go on

Whether a session echoes its messages decides about what is shown, and about nothing else: of twin sessions, the
same messages make twins (`twin_addAll`).  What was built from a quiet copy of a session gets its settings back by
`rejoin`, and two of those are twins again (`twin_rejoin`).

A session that has the settings of another one already is not rejoined, though, and `rejoin` answers the parent
itself if nothing seems to have changed.  Of `true` put in the place of `1` it does not see anything.  So rejoining
is the same as not rejoining just if whatever seems to be unchanged is (`Session.Honest`, `exec_rejoin_honest`).
-/

namespace Colloquy

variable {σ : Type} {d : Leeway} {w : Surroundings σ} {st st₁ st₂ st' st₁' : State σ}

/-! ### Echoes -/

/-- From one state to another one, nothing has happened but that messages were echoed. -/
def State.Echoes (st st₁ : State σ) : Prop :=
  ∃ events deliveries, events.filter Event.isReport = st.events.filter Event.isReport ∧
    st₁ = { st with events, deliveries }

namespace State.Echoes

theorem refl (st : State σ) : st.Echoes st := ⟨st.events, st.deliveries, rfl, rfl⟩

theorem trans (h : st.Echoes st₁) (h' : st₁.Echoes st₂) : st.Echoes st₂ := by
  obtain ⟨events, deliveries, hreports, rfl⟩ := h
  obtain ⟨events', deliveries', hreports', rfl⟩ := h'
  exact ⟨events', deliveries', hreports'.trans hreports, rfl⟩

theorem log (st : State σ) {e : Event} (he : e.isReport = false) :
    st.Echoes { st with events := st.events ++ [e] } := by
  refine ⟨st.events ++ [e], st.deliveries, ?_, rfl⟩
  rw [List.filter_append, List.filter_cons_of_neg (by rw [he]; exact Bool.false_ne_true),
    List.filter_nil, List.append_nil]

end State.Echoes

/-- Twin states stay twins whatever is echoed. -/
theorem State.Twin.echoes (h : st.Twin d st') (hst : st.Echoes st₁) (hst' : st'.Echoes st₁') :
    st₁.Twin d st₁' := by
  obtain ⟨events, deliveries, hreports, rfl⟩ := hst
  obtain ⟨events', deliveries', hreports', rfl⟩ := hst'
  cases h with
  | intro hsame hasked => exact .intro (hreports'.trans (hsame.trans hreports.symm)) hasked

namespace Session

variable {s s' parent parent' merged merged' : Session} {ms : List Message}

/-! ### Adding messages -/

theorem echoes_announce (s : Session) (m : Message) (w : Surroundings σ) (st : State σ) :
    ∃ st₁, (s.announce m).exec w st = (.ok (), st₁) ∧ st.Echoes st₁ := by
  unfold announce
  cases s.observer with
  | none => exact ⟨_, Run.exec_log _, .log st rfl⟩
  | some o =>
    have hdeliver : st.Echoes { st with deliveries := st.deliveries ++ [(o, m)] } :=
      ⟨st.events, _, rfl, rfl⟩
    rw [Run.exec_bind_ok _ Run.exec_read, Run.exec_bind_ok _ (Run.exec_modify _)]
    cases w.observe o m with
    | none => exact ⟨_, rfl, hdeliver⟩
    | some f => exact ⟨_, Run.exec_log _, hdeliver.trans (.log _ rfl)⟩

theorem echoes_add (s : Session) (m : Message) (w : Surroundings σ) (st : State σ) :
    ∃ st₁, (s.add m).exec w st = (.ok (s.append m), st₁) ∧ st.Echoes st₁ := by
  unfold add
  cases s.echo with
  | false => exact ⟨st, rfl, .refl st⟩
  | true =>
    obtain ⟨st₁, hexec, hechoes⟩ := echoes_announce s m w st
    exact ⟨st₁, Run.exec_bind_ok _ hexec, hechoes⟩

theorem echoes_addAll (s : Session) (ms : List Message) (w : Surroundings σ) (st : State σ) :
    ∃ st₁, (s.addAll ms).exec w st = (.ok (s.extend ms), st₁) ∧ st.Echoes st₁ := by
  induction ms generalizing s st with
  | nil =>
    rw [extend_nil]
    exact ⟨st, rfl, .refl st⟩
  | cons m rest ih =>
    obtain ⟨st₁, hadd, hfirst⟩ := echoes_add s m w st
    obtain ⟨st₂, hrest, hechoes⟩ := ih (s.append m) st₁
    have hextend : s.extend (m :: rest) = (s.append m).extend rest := s.extend_append [m] rest
    rw [hextend]
    exact ⟨st₂, (Run.exec_bind_ok _ hadd).trans hrest, hfirst.trans hechoes⟩

/-- Twins stay twins when the same messages are added. -/
theorem twin_addAll (h : s.Twin d s') (ms : List Message) :
    Run.Twin (σ := σ) d (Session.Twin d) (s.addAll ms) (s'.addAll ms) := by
  intro w st st' hst
  obtain ⟨st₁, hexec, hechoes⟩ := s.echoes_addAll ms w st
  obtain ⟨st₁', hexec', hechoes'⟩ := s'.echoes_addAll ms w st'
  rw [hexec, hexec']
  exact ⟨.ok ⟨congrArg (· ++ ms) h.messages, h.vars, h.attrs, h.echo⟩, hst.echoes hechoes hechoes'⟩

theorem twin_add (h : s.Twin d s') (m : Message) :
    Run.Twin (σ := σ) d (Session.Twin d) (s.add m) (s'.add m) := by
  rw [← addAll_singleton s, ← addAll_singleton s']
  exact twin_addAll h [m]

/-! ### Rejoining -/

/-- Twins that were built from quiet copies of twins are rejoined alike. -/
theorem twin_rejoin (hparent : parent.Twin d parent') (hmerged : merged.Twin d merged') :
    Run.Twin (σ := σ) d (Session.Twin d) (parent.rejoin merged) (parent'.rejoin merged') := by
  unfold rejoin
  rw [hparent.messages, hparent.vars, hparent.attrs, hmerged.messages, hmerged.vars, hmerged.attrs]
  have hbase : Session.Twin d (merged.withEcho parent.echo parent.observer)
      (merged'.withEcho parent'.echo parent'.observer) :=
    ⟨hmerged.messages, hmerged.vars, hmerged.attrs, hparent.echo⟩
  refine .ite Iff.rfl (.pure hbase) (.ite Iff.rfl (.pure hparent) (twin_addAll ?_ _))
  exact ⟨rfl, hbase.vars, hbase.attrs, hbase.echo⟩

/-- A session that is told apart from the one that it was built from wherever it is another one: what seems to
be unchanged is unchanged. -/
structure Honest (parent merged : Session) : Prop where
  messages : startsWith parent.messages merged.messages → parent.messages <+: merged.messages
  vars : Value.same (.object merged.vars) (.object parent.vars) → merged.vars = parent.vars
  attrs : Value.same (.object merged.attrs) (.object parent.attrs) → merged.attrs = parent.attrs

/-- An honest session only gets other settings when it is rejoined. -/
theorem exec_rejoin_honest (h : parent.Honest merged) (w : Surroundings σ) (st : State σ) :
    ∃ s₁ st₁, (parent.rejoin merged).exec w st = (.ok s₁, st₁) ∧ st.Echoes st₁ ∧
      s₁.messages = merged.messages ∧ s₁.vars = merged.vars ∧ s₁.attrs = merged.attrs ∧
      s₁.echo = parent.echo := by
  by_cases hstarts : startsWith parent.messages merged.messages = true
  · obtain ⟨ms, hms⟩ := h.messages hstarts
    rw [rejoin_eq hms.symm]
    split
    · -- The parent is the answer, so all of it has to be as in the session that is rejoined.
      rename_i hsame
      rw [Bool.and_eq_true, Bool.and_eq_true, List.isEmpty_iff] at hsame
      obtain ⟨⟨rfl, hvars⟩, hattrs⟩ := hsame
      refine ⟨parent, st, rfl, .refl st, ?_, (h.vars hvars).symm, (h.attrs hattrs).symm, rfl⟩
      rw [← hms, List.append_nil]
    · obtain ⟨st₁, hexec, hechoes⟩ := echoes_addAll
        ({ merged.withEcho parent.echo parent.observer with messages := parent.messages }) ms w st
      exact ⟨_, st₁, hexec, hechoes, hms, rfl, rfl, rfl⟩
  · have hreplaces : (!startsWith parent.messages merged.messages) = true := by
      rw [eq_false_of_ne_true hstarts, Bool.not_false]
    rw [rejoin, if_pos hreplaces]
    exact ⟨_, st, rfl, .refl st, rfl, rfl, rfl, rfl⟩

end Session

end Colloquy
