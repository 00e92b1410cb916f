import Colloquy.Proofs.Run.Keeps

/-!
# What a run records

Backends, and the meters before them, record their calls in cells.  `Records cell call n r` says that a run makes one
and the same call over and over again, but no more than `n` times: all that it adds to the record in the cell are
copies of this call.  The numbers of runs one after the other add up (`Records.bind`), and a run that keeps the record
does not count.
-/

namespace Colloquy.Run

variable {σ α β : Type} {cell n m : Nat} {call : Session × Options}

/-- A run that leaves the calls recorded in a cell as they are. -/
abbrev KeepsRecord (cell : Nat) (r : Run σ α) : Prop :=
  r.Keeps (·.asked.get cell)

/-- A run that adds at most `n` copies of a call to the record in a cell. -/
def Records (cell : Nat) (call : Session × Options) (n : Nat) (r : Run σ α) : Prop :=
  ∀ w st, ∃ k ≤ n, (r.exec w st).2.asked.get cell = st.asked.get cell ++ List.replicate k call

namespace Records

theorem of_exec {r : Run σ α} {w : Surroundings σ} {st st' : State σ} {ended : Except Failure α}
    (hr : Records cell call n r) (hexec : r.exec w st = (ended, st')) :
    ∃ k ≤ n, st'.asked.get cell = st.asked.get cell ++ List.replicate k call := by
  have hrecord := hr w st
  rwa [hexec] at hrecord

theorem of_keeps {r : Run σ α} (h : r.KeepsRecord cell) : Records cell call 0 r := by
  intro w st
  refine ⟨0, Nat.le_refl 0, ?_⟩
  rw [List.replicate_zero, List.append_nil]
  exact h w st

theorem mono {r : Run σ α} (hr : Records cell call n r) (h : n ≤ m) : Records cell call m r := by
  intro w st
  obtain ⟨k, hk, hrecord⟩ := hr w st
  exact ⟨k, Nat.le_trans hk h, hrecord⟩

/-- The run that follows only has to record the call after answers that the first one can give. -/
theorem bind_of_ensures {P : α → Prop} {r : Run σ α} {k : α → Run σ β} (hr : Records cell call n r)
    (hP : r.Ensures P) (hk : ∀ a, P a → Records cell call m (k a)) :
    Records cell call (n + m) (r >>= k) := by
  intro w st
  obtain ⟨i, hi, hfirst⟩ := hr w st
  rcases hexec : r.exec w st with ⟨f | a, st₁⟩
  · rw [hexec] at hfirst
    rw [exec_bind_error _ hexec]
    exact ⟨i, Nat.le_trans hi (Nat.le_add_right n m), hfirst⟩
  · rw [hexec] at hfirst
    obtain ⟨j, hj, hsecond⟩ := hk a (hP w st a st₁ hexec) w st₁
    rw [exec_bind_ok _ hexec]
    refine ⟨i + j, Nat.add_le_add hi hj, ?_⟩
    rw [hsecond, hfirst, List.append_assoc, List.replicate_append_replicate]

protected theorem bind {r : Run σ α} {k : α → Run σ β} (hr : Records cell call n r)
    (hk : ∀ a, Records cell call m (k a)) : Records cell call (n + m) (r >>= k) :=
  bind_of_ensures hr (.trivial r) fun a _ => hk a

/-- A run that keeps the record, before one that adds to it. -/
theorem after_keeps {P : α → Prop} {r : Run σ α} {k : α → Run σ β} (hr : r.KeepsRecord cell)
    (hP : r.Ensures P) (hk : ∀ a, P a → Records cell call n (k a)) : Records cell call n (r >>= k) := by
  have h := bind_of_ensures (of_keeps hr) hP hk
  rwa [Nat.zero_add] at h

/-- A run that keeps the record, behind one that adds to it. -/
theorem before_keeps {r : Run σ α} {k : α → Run σ β} (hr : Records cell call n r)
    (hk : ∀ a, (k a).KeepsRecord cell) : Records cell call n (r >>= k) :=
  hr.bind fun a => of_keeps (hk a)

protected theorem ite {c : Prop} [Decidable c] {r r' : Run σ α} (hr : Records cell call n r)
    (hr' : Records cell call n r') : Records cell call n (if c then r else r') := by
  by_cases h : c
  · rwa [if_pos h]
  · rwa [if_neg h]

protected theorem outcome {r : Run σ α} (hr : Records cell call n r) : Records cell call n r.outcome := by
  intro w st
  rw [exec_outcome]
  exact hr w st

end Records

end Colloquy.Run
