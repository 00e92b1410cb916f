import Colloquy.Proofs.Run.Ensures

/-!
# What a run maintains

`Maintains P r` says that a run which starts in a state with the property `P` leaves one with it, whether it
ends or fails.  It is closed under everything that runs are put together from, so for a function of the model it
is proved along its body.
-/

namespace Colloquy.Run

variable {σ α β : Type} {P : State σ → Prop}

/-- A run that leads from states with a property to states with it. -/
def Maintains (P : State σ → Prop) (r : Run σ α) : Prop :=
  ∀ w s, P s → P (r.exec w s).2

namespace Maintains

/-! ### Steps -/

protected theorem pure (a : α) : Maintains P (pure a : Run σ α) := fun _ _ h => h

protected theorem throw (e : Failure) : Maintains P (throw e : Run σ α) := fun _ _ h => h

protected theorem read : Maintains P (read : Run σ (Surroundings σ)) := fun _ _ h => h

protected theorem get : Maintains P (get : Run σ (State σ)) := fun _ _ h => h

protected theorem modify {g : State σ → State σ} (h : ∀ s, P s → P (g s)) :
    Maintains P (modify g : Run σ PUnit) := fun _ s => h s

protected theorem ofExcept (x : Except Failure α) : Maintains P (ofExcept x) := by
  intro w s h
  rwa [exec_ofExcept]

protected theorem ofChecked (record : String) (x : Checked α) :
    Maintains P (ofChecked (σ := σ) record x) := by
  intro w s h
  rwa [exec_ofChecked]

protected theorem ofArithmetic (x : Except Number.Fault α) :
    Maintains P (ofArithmetic (σ := σ) x) := by
  cases x with
  | ok a => exact .pure a
  | error fault => exact .throw (ofFault fault)

/-! ### Combinations -/

/-- The run that follows only has to maintain the property after answers that the first one can give. -/
theorem bind_of_ensures {Q : α → Prop} {r : Run σ α} {k : α → Run σ β} (hr : Maintains P r)
    (hQ : r.Ensures Q) (hk : ∀ a, Q a → Maintains P (k a)) : Maintains P (r >>= k) := by
  intro w s h
  have hfirst := hr w s h
  rw [exec_bind]
  rcases hexec : r.exec w s with ⟨_ | a, s'⟩
  · rw [hexec] at hfirst
    exact hfirst
  · rw [hexec] at hfirst
    exact hk a (hQ w s a s' hexec) w s' hfirst

protected theorem bind {r : Run σ α} {k : α → Run σ β} (hr : Maintains P r)
    (hk : ∀ a, Maintains P (k a)) : Maintains P (r >>= k) :=
  bind_of_ensures hr (.trivial r) fun a _ => hk a

protected theorem ite {c : Prop} [Decidable c] {r r' : Run σ α} (hr : Maintains P r)
    (hr' : Maintains P r') : Maintains P (if c then r else r') := by
  by_cases h : c
  · rwa [if_pos h]
  · rwa [if_neg h]

protected theorem foldlM {ι : Type} {step : α → ι → Run σ α} {l : List ι}
    (h : ∀ i ∈ l, ∀ a, Maintains P (step a i)) (a : α) : Maintains P (l.foldlM step a) := by
  induction l generalizing a with
  | nil => exact .pure a
  | cons i rest ih =>
    rw [List.forall_mem_cons] at h
    rw [List.foldlM_cons]
    exact .bind (h.1 a) fun a => ih h.2 a

protected theorem forM {ι : Type} {step : ι → Run σ PUnit} {l : List ι}
    (h : ∀ i ∈ l, Maintains P (step i)) : Maintains P (forM l step) := by
  induction l with
  | nil => exact .pure PUnit.unit
  | cons i rest ih =>
    rw [List.forall_mem_cons] at h
    rw [List.forM_cons]
    exact .bind h.1 fun _ => ih h.2

protected theorem outcome {r : Run σ α} (hr : Maintains P r) : Maintains P r.outcome := by
  intro w s h
  rw [exec_outcome]
  exact hr w s h

end Maintains

end Colloquy.Run
