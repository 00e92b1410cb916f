import Colloquy.Pipeline.Basic

/-!
# Hooks as folds

The hooks of a pipeline run one after the other over the list of middleware, so each of them is one of the
library's folds.
-/

namespace Colloquy.Pipeline

variable {σ : Type}

theorem runBefore_eq_foldlM (ms : List (Middleware σ)) (ctx : Context) :
    runBefore ms ctx = ms.foldlM (fun ctx (m : Middleware σ) => m.before ctx) ctx := by
  induction ms generalizing ctx with
  | nil => rfl
  | cons m rest ih =>
    rw [runBefore, List.foldlM_cons]
    simp only [ih]

theorem runAfter_eq_foldlM (ms : List (Middleware σ)) (ctx : Context) :
    runAfter ms ctx = ms.foldlM (fun ctx (m : Middleware σ) => m.after ctx) ctx := by
  induction ms generalizing ctx with
  | nil => rfl
  | cons m rest ih =>
    rw [runAfter, List.foldlM_cons]
    simp only [ih]

theorem runTransform_eq_foldlM (ms : List (Middleware σ)) (content : Content) (ctx : Context) :
    runTransform ms content ctx =
      ms.foldlM (fun content (m : Middleware σ) => m.transform content ctx) content := by
  induction ms generalizing content with
  | nil => rfl
  | cons m rest ih =>
    rw [runTransform, List.foldlM_cons]
    simp only [ih]

theorem runRejected_eq_forM (ms : List (Middleware σ)) (ctx : Context) :
    runRejected ms ctx = forM ms fun m => m.onRejected ctx := by
  induction ms with
  | nil => rfl
  | cons m rest ih => rw [runRejected, List.forM_cons, ih]

end Colloquy.Pipeline
