import Colloquy.Run

/-!
# Repetitions

What is repeated up to a limit leaves a list of attempts behind, each of which carries something on to the
next.  A `Repetition` says with what an attempt can start, what it carries on, whether it asks for another one
and what lies between the two; a `Chain` is a list of attempts that keeps to this.  A chain is built from its
end: `Chain.singleton` is the last attempt, and `Chain.cons` puts one in front of those that are left.
-/

namespace Colloquy

/-- A rule for attempts of a type `T` that carry something of a type `C` on. -/
structure Repetition (C T : Type) where
  /-- The attempt with a number starts from what is carried on. -/
  Starts : Nat → C → T → Prop
  /-- What is carried on after an attempt. -/
  carry : C → T → C
  /-- The attempt asks for another one. -/
  Again : T → Prop
  /-- The attempt with a number is followed by another one. -/
  Joins : Nat → T → T → Prop

namespace Repetition

variable {C T : Type} {R : Repetition C T} {limit number : Nat} {c : C} {t : T} {ts : List T}

/-- Attempts from the one with the given number on, of which there may be `limit`. -/
structure Chain (R : Repetition C T) (limit number : Nat) (c : C) (ts : List T) : Prop where
  ne_nil : ts ≠ []
  length_le : ts.length ≤ limit
  starts : ∀ k (h : k < ts.length), R.Starts (number + k) ((ts.take k).foldl R.carry c) ts[k]
  /-- Another attempt follows just if this one asks for it and is not the last one allowed. -/
  continues : ∀ k (h : k < ts.length), k + 1 < ts.length ↔ k + 1 < limit ∧ R.Again ts[k]
  joins : ∀ k (h : k + 1 < ts.length), R.Joins (number + k) ts[k] ts[k + 1]

/-- A single attempt, which asks for no further one or is the last one allowed. -/
theorem Chain.singleton (hstart : R.Starts number c t) (hlimit : 1 ≤ limit)
    (hstop : 1 < limit → ¬ R.Again t) : R.Chain limit number c [t] where
  ne_nil := List.cons_ne_nil _ _
  length_le := hlimit
  starts := by
    intro k h
    obtain rfl : k = 0 := by simpa using h
    exact hstart
  continues := by
    intro k h
    obtain rfl : k = 0 := by simpa using h
    exact ⟨fun hlt => absurd hlt (by simp), fun hmore => absurd hmore.2 (hstop hmore.1)⟩
  joins := by
    intro k h
    exact absurd h (by simp)

/-- An attempt that asks for another one, and the attempts that follow it. -/
theorem Chain.cons (hstart : R.Starts number c t) (hagain : R.Again t)
    (hjoin : ∀ u ∈ ts.head?, R.Joins number t u)
    (h : R.Chain limit (number + 1) (R.carry c t) ts) :
    R.Chain (limit + 1) number c (t :: ts) where
  ne_nil := List.cons_ne_nil _ _
  length_le := Nat.succ_le_succ h.length_le
  starts := by
    intro k hk
    cases k with
    | zero => exact hstart
    | succ k =>
      -- The attempts behind this one are counted from the next number on.
      have hlater := h.starts k (Nat.lt_of_succ_lt_succ hk)
      rw [Nat.add_right_comm, Nat.add_assoc] at hlater
      exact hlater
  continues := by
    intro k hk
    have hpos := List.length_pos_iff.2 h.ne_nil
    have hle := h.length_le
    cases k with
    | zero =>
      rw [List.length_cons, List.getElem_cons_zero]
      exact ⟨fun _ => ⟨by omega, hagain⟩, fun _ => by omega⟩
    | succ k =>
      rw [List.length_cons, List.getElem_cons_succ, Nat.add_lt_add_iff_right,
        Nat.add_lt_add_iff_right]
      exact h.continues k (Nat.lt_of_succ_lt_succ hk)
  joins := by
    intro k hk
    cases k with
    | zero =>
      cases ts with
      | nil => exact absurd rfl h.ne_nil
      -- The first of the attempts that follow is joined by this one, the others among themselves.
      | cons u rest => exact hjoin u rfl
    | succ k =>
      have hlater := h.joins k (Nat.lt_of_succ_lt_succ hk)
      rw [Nat.add_right_comm, Nat.add_assoc] at hlater
      exact hlater

end Repetition

end Colloquy
