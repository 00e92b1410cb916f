/-!
# Cells

Numbered cells that hold a value each; a cell that was never written holds the default.  `get_set` says what
a cell holds after a write.
-/

namespace Colloquy

/-- Cells by number; those that are not listed hold the default. -/
structure Cells (α : Type) where
  entries : List (Nat × α) := []

namespace Cells

variable {α : Type} [Inhabited α]

/-- The value of the first entry with a number. -/
def find : List (Nat × α) → Nat → α
  | [], _ => default
  | (i, v) :: rest, n => if i = n then v else find rest n

/-- The entries with a value put in the place of the number, or else at the end. -/
def write : List (Nat × α) → Nat → α → List (Nat × α)
  | [], n, value => [(n, value)]
  | (i, v) :: rest, n, value =>
    if i = n then (i, value) :: rest else (i, v) :: write rest n value

/-- What a cell holds. -/
def get (c : Cells α) (n : Nat) : α := find c.entries n

/-- The cells after a write. -/
def set (c : Cells α) (n : Nat) (value : α) : Cells α := ⟨write c.entries n value⟩

theorem find_write (entries : List (Nat × α)) (n m : Nat) (value : α) :
    find (write entries n value) m = if n = m then value else find entries m := by
  induction entries with
  | nil => simp [write, find]
  | cons entry rest ih =>
    obtain ⟨i, v⟩ := entry
    by_cases hi : i = n
    · subst hi
      by_cases hm : i = m <;> simp [write, find, hm]
    · by_cases hm : i = m
      · subst hm
        simp [write, find, hi, Ne.symm hi]
      · simp [write, find, hi, hm, ih]

theorem get_set (c : Cells α) (n m : Nat) (value : α) :
    (c.set n value).get m = if n = m then value else c.get m :=
  find_write c.entries n m value

end Cells

end Colloquy
