import Colloquy.Pipeline.Basic
import Colloquy.Store.Cells

/-!
# The order of middleware

Pipelines are made by registering middleware, by copying a pipeline and by clearing one.  However these edits
follow each other, the middleware of a pipeline are those that are registered in it, in ascending order of
priority, and those of one priority in the order of their registration (`ordered_edited`).

`place` keeps both halves of this (`pairwise_place`, `filter_place`), so one stable insertion after another
amounts to one stable sort.
-/

namespace Colloquy.Pipeline

variable {σ : Type}

instance : Inhabited (Pipeline σ) := ⟨{}⟩

/-! ### Ordered lists -/

/-- The given middleware in ascending order of priority, those of one priority in the order in which they are
given. -/
structure Ordered (given ms : List (Middleware σ)) : Prop where
  ascending : ms.Pairwise fun m m' => m.priority ≤ m'.priority
  stable : ∀ n, ms.filter (·.priority = n) = given.filter (·.priority = n)

variable {given ms : List (Middleware σ)}

theorem pairwise_place (h : ms.Pairwise fun m m' => m.priority ≤ m'.priority)
    (m : Middleware σ) : (place m ms).Pairwise fun m m' => m.priority ≤ m'.priority := by
  induction ms with
  | nil => exact List.pairwise_singleton _ m
  | cons other rest ih =>
    obtain ⟨hother, hrest⟩ := List.pairwise_cons.1 h
    rw [place]
    split
    · rename_i hlt
      refine List.pairwise_cons.2 ⟨fun m' hm' => ?_, h⟩
      obtain rfl | hm' := List.mem_cons.1 hm'
      · exact Int.le_of_lt hlt
      · exact Int.le_trans (Int.le_of_lt hlt) (hother m' hm')
    · rename_i hle
      refine List.pairwise_cons.2 ⟨fun m' hm' => ?_, ih hrest⟩
      obtain rfl | hm' := List.mem_cons.1 ((place_perm m rest).mem_iff.1 hm')
      · exact Int.not_lt.1 hle
      · exact hother m' hm'

/-- A middleware takes its place behind all of its own priority. -/
theorem filter_place (h : ms.Pairwise fun m m' => m.priority ≤ m'.priority) (m : Middleware σ)
    (n : Int) : (place m ms).filter (·.priority = n) = (ms ++ [m]).filter (·.priority = n) := by
  induction ms with
  | nil => rfl
  | cons other rest ih =>
    obtain ⟨hother, hrest⟩ := List.pairwise_cons.1 h
    rw [place]
    split
    · rename_i hlt
      rw [List.filter_append]
      by_cases hm : m.priority = n
      · -- All that stand behind are of a higher priority.
        have hnone : (other :: rest).filter (·.priority = n) = [] := by
          refine List.filter_eq_nil_iff.2 fun m' hm' => ?_
          rw [decide_eq_true_iff]
          obtain rfl | hm' := List.mem_cons.1 hm'
          · omega
          · have := hother m' hm'
            omega
        rw [List.filter_cons, hnone]
        simp [hm]
      · simp [hm]
    · rw [List.cons_append, List.filter_cons, List.filter_cons, ih hrest]

namespace Ordered

theorem nil : Ordered ([] : List (Middleware σ)) [] :=
  ⟨.nil, fun _ => rfl⟩

theorem place (h : Ordered given ms) (m : Middleware σ) :
    Ordered (given ++ [m]) (Pipeline.place m ms) where
  ascending := pairwise_place h.ascending m
  stable n := by
    rw [filter_place h.ascending, List.filter_append, List.filter_append, h.stable]

end Ordered

/-! ### Edits -/

/-- What is done to one of several pipelines, which are told apart by numbers. -/
inductive Edit (σ : Type) where
  | use (i : Nat) (m : Middleware σ)
  /-- Puts a copy of the first pipeline in the place of the second one. -/
  | clone (i j : Nat)
  | clear (i : Nat)

/-- What stands on a shelf after an edit, where registering a middleware is as given. -/
def Edit.apply {A : Type} [Inhabited A] (register : A → Middleware σ → A) (shelf : Cells A) :
    Edit σ → Cells A
  | use i m => shelf.set i (register (shelf.get i) m)
  | clone i j => shelf.set j (shelf.get i)
  | clear i => shelf.set i default

/-- The pipelines after edits; all of them are empty at first. -/
def edited (edits : List (Edit σ)) : Cells (Pipeline σ) :=
  edits.foldl (Edit.apply use) {}

/-- The middleware that are registered in pipelines after edits, in the order of their registration. -/
def registered (edits : List (Edit σ)) : Cells (List (Middleware σ)) :=
  edits.foldl (Edit.apply fun ms m => ms ++ [m]) {}

/-- What holds of empty places, and is kept by registering, holds of all places after an edit. -/
theorem Edit.apply_related {A B : Type} [Inhabited A] [Inhabited B] {R : A → B → Prop}
    {register : A → Middleware σ → A} {register' : B → Middleware σ → B}
    (hdefault : R default default)
    (hregister : ∀ a b, R a b → ∀ m, R (register a m) (register' b m)) {shelf : Cells A}
    {shelf' : Cells B} (h : ∀ i, R (shelf.get i) (shelf'.get i)) (e : Edit σ) (i : Nat) :
    R ((e.apply register shelf).get i) ((e.apply register' shelf').get i) := by
  cases e with
  | use j m =>
    rw [apply, apply, Cells.get_set, Cells.get_set]
    by_cases hj : j = i
    · rw [if_pos hj, if_pos hj]
      exact hregister _ _ (h j) m
    · rw [if_neg hj, if_neg hj]
      exact h i
  | clone j k =>
    rw [apply, apply, Cells.get_set, Cells.get_set]
    by_cases hk : k = i
    · rw [if_pos hk, if_pos hk]
      exact h j
    · rw [if_neg hk, if_neg hk]
      exact h i
  | clear j =>
    rw [apply, apply, Cells.get_set, Cells.get_set]
    by_cases hj : j = i
    · rw [if_pos hj, if_pos hj]
      exact hdefault
    · rw [if_neg hj, if_neg hj]
      exact h i

/-- **The order of middleware.** After any edits every pipeline holds what is registered in it, sorted by
priority, and in the order of registration where priorities are equal. -/
theorem ordered_edited (edits : List (Edit σ)) (i : Nat) :
    Ordered ((registered edits).get i) ((edited edits).get i).middlewares := by
  have hfold : ∀ (shelf : Cells (Pipeline σ)) (shelf' : Cells (List (Middleware σ))),
      (∀ i, Ordered (shelf'.get i) (shelf.get i).middlewares) →
      ∀ i, Ordered ((edits.foldl (Edit.apply fun ms m => ms ++ [m]) shelf').get i)
        ((edits.foldl (Edit.apply use) shelf).get i).middlewares := by
    induction edits with
    | nil => exact fun _ _ h => h
    | cons e rest ih =>
      intro shelf shelf' h
      refine ih _ _ fun i => ?_
      exact e.apply_related (R := fun (p : Pipeline σ) ms => Ordered ms p.middlewares) .nil
        (fun _ _ hp m => hp.place m) h i
  exact hfold {} {} (fun _ => .nil) i

end Colloquy.Pipeline
