import Colloquy.Middleware.Basic
import Colloquy.Validator.Judge

/-!
# Middleware on content

`transforming` puts a function's answer in the place of the content; `reporting` judges the content, reports
a rejection, and hands the content on as it is.
-/

namespace Colloquy.Middleware

variable {σ : Type}

/-- Applies a function to content. -/
def transforming (f : Content → Context → Run σ Content) (name : String := "transform")
    (priority : Int := 0) : Middleware σ where
  kindName := "TransformMiddleware"
  name
  priority
  transform := f

/-- Judges content and reports a rejection, also to `onFailure` if it is given. -/
def reporting (validator : Validator σ) (onFailure : Option (Verdict → Context → Run σ Unit))
    (name : String := "validation") (priority : Int := 0) : Middleware σ where
  kindName := "ValidationMiddleware"
  name
  priority
  transform content ctx := do
    let verdict ← validator.judge content.body ctx.session
    if !verdict.isValid then
      Run.log (.contentInvalid name verdict.instruction)
      match onFailure with
      | some report => report verdict ctx
      | none => pure ()
    return content

end Colloquy.Middleware
