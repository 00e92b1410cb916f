import Colloquy.Run

/-!
# What a run ensures

`Ensures P r` says that whatever a run answers satisfies `P`; a run that fails answers nothing.  That a run does
answer is another matter (`NeverFails`).
-/

namespace Colloquy.Run

variable {σ α β : Type} {P : α → Prop} {Q : β → Prop}

/-- A run all of whose answers satisfy a predicate. -/
def Ensures (P : α → Prop) (r : Run σ α) : Prop :=
  ∀ w s a s', r.exec w s = (.ok a, s') → P a

/-- A run that answers something in every state. -/
def NeverFails (w : Surroundings σ) (r : Run σ α) : Prop :=
  ∀ s, ∃ a s', r.exec w s = (.ok a, s')

namespace Ensures

protected theorem pure {a : α} (h : P a) : Ensures P (pure a : Run σ α) := by
  intro w s b s' hexec
  obtain ⟨hb, -⟩ := Prod.mk.inj hexec
  rwa [← Except.ok.inj hb]

protected theorem throw (f : Failure) : Ensures P (throw f : Run σ α) := by
  intro w s a s' hexec
  exact nomatch (Prod.mk.inj hexec).1

protected theorem trivial (r : Run σ α) : Ensures (fun _ => True) r := fun _ _ _ _ _ => trivial

theorem mono {P' : α → Prop} {r : Run σ α} (hr : Ensures P r) (h : ∀ a, P a → P' a) : Ensures P' r :=
  fun w s a s' hexec => h a (hr w s a s' hexec)

protected theorem bind {r : Run σ α} {k : α → Run σ β} (hr : Ensures P r)
    (hk : ∀ a, P a → Ensures Q (k a)) : Ensures Q (r >>= k) := by
  intro w s b s' hexec
  obtain ⟨a, s₁, hfirst, hsecond⟩ := exec_of_bind_ok hexec
  exact hk a (hr w s a s₁ hfirst) w s₁ b s' hsecond

theorem after {r : Run σ α} {k : α → Run σ β} (hk : ∀ a, Ensures Q (k a)) :
    Ensures Q (r >>= k) :=
  .bind (.trivial r) fun a _ => hk a

protected theorem ite {c : Prop} [Decidable c] {r r' : Run σ α} (hr : Ensures P r)
    (hr' : Ensures P r') : Ensures P (if c then r else r') := by
  by_cases h : c
  · rwa [if_pos h]
  · rwa [if_neg h]

protected theorem foldlM {ι : Type} {step : α → ι → Run σ α} {l : List ι} {a : α}
    (h : ∀ i ∈ l, ∀ a, P a → Ensures P (step a i)) (ha : P a) : Ensures P (l.foldlM step a) := by
  induction l generalizing a with
  | nil => exact .pure ha
  | cons i rest ih =>
    rw [List.forall_mem_cons] at h
    rw [List.foldlM_cons]
    exact .bind (h.1 a ha) fun b hb => ih h.2 hb

protected theorem ofExcept {x : Except Failure α} (h : ∀ a, x = .ok a → P a) :
    Ensures P (ofExcept (σ := σ) x) := by
  cases x with
  | ok a => exact .pure (h a rfl)
  | error f => exact .throw f

/-- What a run that may fail ends with: an answer satisfies the predicate. -/
protected theorem outcome {r : Run σ α} (hr : Ensures P r) :
    Ensures (fun ended => ∀ a, ended = .ok a → P a) r.outcome := by
  intro w s ended s' hexec a ha
  rw [exec_outcome] at hexec
  obtain ⟨hended, -⟩ := Prod.mk.inj hexec
  refine hr w s a (r.exec w s).2 (Prod.ext ?_ rfl)
  rw [Except.ok.inj hended, ha]

end Ensures

/-- The text of what a run ended with, if that is a failure. -/
def failureText? : Except Failure α → Option String
  | .ok _ => none
  | .error f => some f.text

theorem exists_error_of_failureText {ended : Except Failure α} {text : String} (h : failureText? ended = some text) :
    ∃ f, ended = .error f ∧ f.text = text := by
  cases ended with
  | ok a => cases h
  | error f => exact ⟨f, rfl, Option.some.inj h⟩

end Colloquy.Run
