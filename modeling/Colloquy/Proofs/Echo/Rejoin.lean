import Colloquy.Proofs.Echo.Program
import Colloquy.Proofs.Twin.Session

/-!
# What rejoining restores

`rejoin` answers the session that was built from a quiet copy with the echo of the parent.  It always ends, and
what it shows is what has come on top of the messages of the parent: `exec_rejoin_settles` says this of any two
sessions, whatever was done to the copy.

The echo is that of the parent in every case.  The observer is not: `withEcho` keeps the one that a session has
already if it is given none.  So the settings of the parent are restored in full (`exec_rejoin_restores`) if a
session of a parent without an observer brings none of its own, and otherwise what should stand in the log goes to
the observer that was brought along (`rejoin_keeps_observer`).

The contents are those of the session that is rejoined up to the equality of values, by which `rejoin` tells
whether anything has changed.
-/

namespace Colloquy.Session

variable {σ : Type} {parent merged s s' : Session}

/-! ### Equal contents -/

/-- Sessions whose contents are equal as values. -/
structure Matches (s s' : Session) : Prop where
  messages : List.Forall₂ (fun m m' => Message.same m m' = true) s.messages s'.messages
  vars : Value.same (.object s.vars) (.object s'.vars) = true
  attrs : Value.same (.object s.attrs) (.object s'.attrs) = true

/-- A session that goes on with the messages of another one, or with messages that equal them. -/
def Resumes (parent merged : Session) : Prop :=
  List.Forall₂ (fun n m => Message.same n m = true) (merged.messages.take parent.messages.length)
    parent.messages

theorem same_messages_self (ms : List Message) :
    List.Forall₂ (fun m m' => Message.same m m' = true) ms ms :=
  List.forall₂_same.2 fun m _ => m.same_self

theorem Matches.of_eq (hmessages : s'.messages = s.messages) (hvars : s'.vars = s.vars)
    (hattrs : s'.attrs = s.attrs) : s.Matches s' where
  messages := by rw [hmessages]; exact same_messages_self s.messages
  vars := by rw [hvars]; exact Value.same_self _
  attrs := by rw [hattrs]; exact Value.same_self _

theorem startsWith_iff (front ms : List Message) : startsWith front ms = true ↔
    List.Forall₂ (fun n m => Message.same n m = true) (ms.take front.length) front := by
  induction front generalizing ms with
  | nil => exact iff_of_true rfl .nil
  | cons m front ih =>
    cases ms with
    | nil => exact iff_of_false Bool.false_ne_true nofun
    | cons n rest =>
      show (Message.same n m && startsWith front rest) = true ↔ _
      rw [Bool.and_eq_true, ih rest, List.length_cons, List.take_succ_cons, List.forall₂_cons]

theorem resumes_iff : parent.Resumes merged ↔
    startsWith parent.messages merged.messages = true :=
  (startsWith_iff parent.messages merged.messages).symm

instance : Decidable (parent.Resumes merged) := decidable_of_iff _ resumes_iff.symm

/-! ### The settings of a rejoined session -/

/-- What `rejoin` does with any two sessions. -/
theorem exec_rejoin_settles (parent merged : Session) (w : Surroundings σ) (st : State σ) :
    ∃ s st', (parent.rejoin merged).exec w st = (.ok s, st') ∧ merged.Matches s ∧
      s.echo = parent.echo ∧
      (s.observer = parent.observer ∨ s.observer = parent.observer.or merged.observer) ∧
      ∀ target, st'.echoes target = st.echoes target ++
        if parent.Resumes merged then
          (merged.withEcho parent.echo parent.observer).shown target
            (merged.messages.drop parent.messages.length)
        else [] := by
  by_cases hgoes : parent.Resumes merged
  · simp only [if_pos hgoes]
    rw [rejoin_of_startsWith (resumes_iff.1 hgoes) rfl]
    split
    · -- Nothing seems to have changed, so the answer is the parent itself.
      rename_i hsame
      rw [Bool.and_eq_true, Bool.and_eq_true, List.isEmpty_iff] at hsame
      obtain ⟨⟨hnone, hvars⟩, hattrs⟩ := hsame
      have hmessages : merged.messages.take parent.messages.length = merged.messages := by
        conv_rhs => rw [← List.take_append_drop parent.messages.length merged.messages, hnone,
          List.append_nil]
      unfold Resumes at hgoes
      rw [hmessages] at hgoes
      refine ⟨parent, st, rfl, ⟨hgoes, hvars, hattrs⟩, rfl, .inl rfl, fun target => ?_⟩
      rw [hnone, shown_nil, List.append_nil]
    · obtain ⟨st', hexec, hechoes⟩ := exec_addAll
        ({ merged.withEcho parent.echo parent.observer with messages := parent.messages })
        (merged.messages.drop parent.messages.length) w st
      refine ⟨_, st', hexec, ⟨?_, Value.same_self _, Value.same_self _⟩, rfl, .inr rfl, hechoes⟩
      have hsplit : List.Forall₂ (fun n m => Message.same n m = true)
          (merged.messages.take parent.messages.length ++
            merged.messages.drop parent.messages.length)
          (parent.messages ++ merged.messages.drop parent.messages.length) :=
        List.rel_append hgoes (same_messages_self _)
      rwa [List.take_append_drop] at hsplit
  · have hreplaces : (!startsWith parent.messages merged.messages) = true := by
      rw [eq_false_of_ne_true (mt resumes_iff.2 hgoes), Bool.not_false]
    rw [rejoin, if_pos hreplaces]
    refine ⟨_, st, rfl, .of_eq rfl rfl rfl, rfl, .inr rfl, fun target => ?_⟩
    rw [if_neg hgoes, List.append_nil]

/-- **Rejoining restores the settings of the parent.**  If a session has no observer that its parent has not, it
is answered with the echo and the observer of the parent and with its own contents, and what it has on top of the
messages of the parent is shown once and in order, as the parent shows it.  To others nothing is shown, and nobody
is shown anything if the session does not continue the parent. -/
theorem exec_rejoin_restores (parent merged : Session)
    (hobserver : parent.observer = none → merged.observer = none) (w : Surroundings σ) (st : State σ) :
    ∃ s st', (parent.rejoin merged).exec w st = (.ok s, st') ∧
      s.echo = parent.echo ∧ s.observer = parent.observer ∧ merged.Matches s ∧
      (parent.Honest merged →
        s.messages = merged.messages ∧ s.vars = merged.vars ∧ s.attrs = merged.attrs) ∧
      (parent.Resumes merged → ∀ target, st'.echoes target = st.echoes target ++
        parent.shown target (merged.messages.drop parent.messages.length)) ∧
      (¬parent.Resumes merged → ∀ target, st'.echoes target = st.echoes target) := by
  have hfalls : parent.observer.or merged.observer = parent.observer := by
    cases hparent : parent.observer with
    | none => rw [Option.none_or, hobserver hparent]
    | some o => rfl
  obtain ⟨s, st', hexec, hmatches, hecho, hsettled, hechoes⟩ := exec_rejoin_settles parent merged w st
  refine ⟨s, st', hexec, hecho, ?_, hmatches, fun hhonest => ?_, fun hgoes target => ?_,
    fun hreplaces target => ?_⟩
  · rwa [hfalls, or_self] at hsettled
  · obtain ⟨s₁, st₁, hexec₁, -, hmessages, hvars, hattrs, -⟩ := exec_rejoin_honest hhonest w st
    obtain rfl := Except.ok.inj (Prod.mk.inj (hexec.symm.trans hexec₁)).1
    exact ⟨hmessages, hvars, hattrs⟩
  · -- Messages are shown as by the parent, since the observers are the same.
    have hshown : (merged.withEcho parent.echo parent.observer).shown target
        (merged.messages.drop parent.messages.length) =
        parent.shown target (merged.messages.drop parent.messages.length) := by
      simp only [shown, withEcho, hfalls]
    rw [hechoes, if_pos hgoes, hshown]
  · rw [hechoes, if_neg hreplaces, List.append_nil]

/-- An observer that a session brings along is told nothing if the parent has one of its own. -/
theorem exec_rejoin_restores_observed :
    ∃ s st', (rejoin { messages := [.user "hi"], echo := true, observer := some ⟨1⟩ }
        { messages := [.user "hi", .assistant "hello"], observer := some ⟨2⟩ }).exec (.alone Unit)
          { host := () } = (.ok s, st') ∧
      s.echo = true ∧ s.observer = some ⟨1⟩ ∧ s.messages.map (·.content) = ["hi", "hello"] ∧
      (st'.echoes (some ⟨1⟩)).map (·.content) = ["hello"] ∧ st'.echoes (some ⟨2⟩) = [] ∧
      st'.echoes none = [] := by
  obtain ⟨s, st', hexec, hecho, hobserver, -, hcontents, hechoes, -⟩ :=
    exec_rejoin_restores { messages := [.user "hi"], echo := true, observer := some ⟨1⟩ }
      { messages := [.user "hi", .assistant "hello"], observer := some ⟨2⟩ } nofun (.alone Unit) { host := () }
  have hgoes := hechoes (by decide +kernel)
  have hmessages := (hcontents ⟨fun _ => ⟨[.assistant "hello"], rfl⟩, fun _ => rfl, fun _ => rfl⟩).1
  refine ⟨s, st', hexec, hecho, hobserver, ?_, ?_, ?_, ?_⟩
  · rw [hmessages]
    rfl
  · rw [hgoes]
    rfl
  · rw [hgoes]
    rfl
  · rw [hgoes]
    rfl

/-- **The promise about observers cannot be spared.**  A parent without an observer shows its messages in the log.
What a session with an observer has on top of it is not shown there, but to this observer, which stays. -/
theorem rejoin_keeps_observer :
    ∃ s st', (rejoin { echo := true } { messages := [.user "hi"], observer := some ⟨0⟩ }).exec (.alone Unit)
        { host := () } = (.ok s, st') ∧
      s.observer = some ⟨0⟩ ∧ st'.echoes none = [] ∧ st'.echoes (some ⟨0⟩) = [.user "hi"] := by
  obtain ⟨st', hexec, hechoes⟩ := exec_addAll { echo := true, observer := some ⟨0⟩ } [.user "hi"]
    (.alone Unit) { host := () }
  refine ⟨{ messages := [.user "hi"], echo := true, observer := some ⟨0⟩ }, st', ?_, rfl,
    hechoes none, hechoes (some ⟨0⟩)⟩
  rw [rejoin_eq rfl]
  exact hexec

end Colloquy.Session
