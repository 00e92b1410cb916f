import Colloquy.Middleware.Basic

/-!
# Pipelines

A pipeline is a list of middleware in ascending order of priority, in which those of one priority stand in
the order of their registration; `use` keeps it so.  The hooks run in this order, those after the response in
the opposite one.
-/

namespace Colloquy

/-- Middleware in ascending order of priority. -/
structure Pipeline (σ : Type) where
  middlewares : List (Middleware σ) := []

namespace Pipeline

variable {σ : Type}

/-! ### Registration -/

/-- Puts a middleware behind all of a priority that is no higher. -/
def place (m : Middleware σ) : List (Middleware σ) → List (Middleware σ)
  | [] => [m]
  | other :: rest =>
    if m.priority < other.priority then m :: other :: rest else other :: place m rest

/-- The pipeline with one more middleware. -/
def use (p : Pipeline σ) (m : Middleware σ) : Pipeline σ :=
  ⟨place m p.middlewares⟩

/-- The number of middleware. -/
def size (p : Pipeline σ) : Nat := p.middlewares.length

theorem place_perm (m : Middleware σ) (ms : List (Middleware σ)) : (place m ms).Perm (m :: ms) := by
  induction ms with
  | nil => exact .refl _
  | cons other rest ih =>
    simp only [place]
    split
    · exact .refl _
    · exact (ih.cons other).trans (.swap m other rest)

/-! ### Hooks -/

/-- The hooks before the call, each on the context that the one before has made. -/
def runBefore : List (Middleware σ) → Context → Run σ Context
  | [], ctx => return ctx
  | m :: rest, ctx => do runBefore rest (← m.before ctx)

/-- The hooks after the response, in the order of the list. -/
def runAfter : List (Middleware σ) → Context → Run σ Context
  | [], ctx => return ctx
  | m :: rest, ctx => do runAfter rest (← m.after ctx)

/-- Offers a failure to the middleware one after the other until one of them mends it. -/
def runOnError : List (Middleware σ) → Context → Failure → Run σ (Option Context)
  | [], _, _ => return none
  | m :: rest, ctx, f => do
    match ← m.onError ctx f with
    | some mended =>
      Run.log (.errorRecovered m.name ctx.attempt f.text)
      return some mended
    | none => runOnError rest ctx f

/-- The content after the transformations of all middleware. -/
def runTransform : List (Middleware σ) → Content → Context → Run σ Content
  | [], content, _ => return content
  | m :: rest, content, ctx => do runTransform rest (← m.transform content ctx) ctx

/-- Tells all middleware that content was rejected. -/
def runRejected : List (Middleware σ) → Context → Run σ Unit
  | [], _ => return
  | m :: rest, ctx => do
    m.onRejected ctx
    runRejected rest ctx

/-- The hooks before the call. -/
def before (p : Pipeline σ) (ctx : Context) : Run σ Context := runBefore p.middlewares ctx

/-- The hooks after the response. -/
def after (p : Pipeline σ) (ctx : Context) : Run σ Context := runAfter p.middlewares.reverse ctx

/-- The hooks on a failure. -/
def onError (p : Pipeline σ) (ctx : Context) (f : Failure) : Run σ (Option Context) :=
  runOnError p.middlewares ctx f

/-- The hooks on content that is handed on. -/
def transform (p : Pipeline σ) (content : Content) (ctx : Context) : Run σ Content :=
  runTransform p.middlewares content ctx

/-- The hooks on rejected content. -/
def reject (p : Pipeline σ) (ctx : Context) : Run σ Unit := runRejected p.middlewares ctx

end Pipeline

end Colloquy
