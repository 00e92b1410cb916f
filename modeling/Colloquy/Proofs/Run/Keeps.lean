import Colloquy.Proofs.Run.Maintains

/-!
# What a run keeps

`Keeps f r` says that a run leaves what `f` reads from the state as it is, whether it ends or fails: it maintains
every value of `f` (`keeps_iff_maintains`).  So it is closed under everything that runs are put together from, and
for a function of the model it is proved along its body.
-/

namespace Colloquy.Run

variable {σ α β γ : Type} {f : State σ → γ}

/-- A run that leaves what `f` reads from the state as it is. -/
def Keeps (f : State σ → γ) (r : Run σ α) : Prop :=
  ∀ w s, f (r.exec w s).2 = f s

theorem keeps_iff_maintains {r : Run σ α} : Keeps f r ↔ ∀ c, Maintains (f · = c) r :=
  ⟨fun h _ w s hs => (h w s).trans hs, fun h w s => h (f s) w s rfl⟩

/-- A property that only depends on what a run keeps is maintained. -/
theorem Keeps.maintains {r : Run σ α} {P : State σ → Prop} (h : Keeps f r)
    (hP : ∀ s s', f s' = f s → P s → P s') : Maintains P r :=
  fun w s => hP s (r.exec w s).2 (h w s)

namespace Keeps

theorem eq_of_exec {r : Run σ α} {w : Surroundings σ} {s s' : State σ} {ended : Except Failure α}
    (h : Keeps f r) (hexec : r.exec w s = (ended, s')) : f s' = f s := by
  have hkept := h w s
  rwa [hexec] at hkept

/-! ### Steps -/

protected theorem pure (a : α) : Keeps f (pure a : Run σ α) := fun _ _ => rfl

protected theorem throw (e : Failure) : Keeps f (throw e : Run σ α) := fun _ _ => rfl

protected theorem read : Keeps f (read : Run σ (Surroundings σ)) := fun _ _ => rfl

protected theorem get : Keeps f (get : Run σ (State σ)) := fun _ _ => rfl

protected theorem modify {g : State σ → State σ} (h : ∀ s, f (g s) = f s) :
    Keeps f (modify g : Run σ PUnit) := fun _ s => h s

protected theorem ofExcept (x : Except Failure α) : Keeps f (ofExcept x) :=
  keeps_iff_maintains.2 fun _ => .ofExcept x

protected theorem ofChecked (record : String) (x : Checked α) :
    Keeps f (ofChecked (σ := σ) record x) :=
  keeps_iff_maintains.2 fun _ => .ofChecked record x

protected theorem ofArithmetic (x : Except Number.Fault α) :
    Keeps f (ofArithmetic (σ := σ) x) :=
  keeps_iff_maintains.2 fun _ => .ofArithmetic x

/-! ### Combinations -/

protected theorem bind {r : Run σ α} {k : α → Run σ β} (hr : Keeps f r)
    (hk : ∀ a, Keeps f (k a)) : Keeps f (r >>= k) :=
  keeps_iff_maintains.2 fun c =>
    .bind (keeps_iff_maintains.1 hr c) fun a => keeps_iff_maintains.1 (hk a) c

protected theorem ite {c : Prop} [Decidable c] {r r' : Run σ α} (hr : Keeps f r)
    (hr' : Keeps f r') : Keeps f (if c then r else r') :=
  keeps_iff_maintains.2 fun c =>
    .ite (keeps_iff_maintains.1 hr c) (keeps_iff_maintains.1 hr' c)

protected theorem outcome {r : Run σ α} (hr : Keeps f r) : Keeps f r.outcome :=
  keeps_iff_maintains.2 fun c => (keeps_iff_maintains.1 hr c).outcome

end Keeps

end Colloquy.Run
