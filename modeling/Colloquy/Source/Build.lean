import Colloquy.Source.Basic

/-!
# Copies of sources

Sources are not changed but copied.  A copy of a list starts at the position of its parent and goes on by
itself; a copy of a model's source shares the budget, unless it is given one of its own, and keeps a backend
that its parent has already made for itself.
-/

namespace Colloquy

/-- The tool choice that a value names. -/
def ToolChoice.ofValue (v : Value) : Except Failure ToolChoice :=
  let unknown : Failure := .fault .badValue s!"{v.literal} is not a valid ToolChoice"
  match v with
  | .str word =>
    match ToolChoice.ofWord? word with
    | some choice => .ok choice
    | Option.none => .error unknown
  | _ => .error unknown

namespace Source

variable {σ : Type}

/-! ### Copies -/

/-- The origin of a copy. -/
def copyOrigin : Origin σ → Run σ (Origin σ)
  | .list items loop cell => do
    let own ← Run.newCell
    modify fun s => { s with cursors := s.cursors.set own (s.cursors.get cell) }
    return .list items loop own
  | .model access => do
    let own ← Run.newCell
    modify fun s => { s with attached := s.attached.set own (s.attached.get access.attached) }
    return .model { access with attached := own }
  | origin => return origin

/-- A copy with another policy. -/
def withPolicy (src : Source σ) (policy : Policy σ) : Run σ (Source σ) := do
  return ⟨← copyOrigin src.origin, policy⟩

/-- A copy with another validator. -/
def validate (src : Source σ) (validator : Validator σ) : Run σ (Source σ) :=
  src.withPolicy { src.policy with validator := some validator }

/-- A copy with another number of attempts. -/
def withMaxAttempts (src : Source σ) (n : Int) : Run σ (Source σ) := do
  src.withPolicy (← Run.ofExcept (src.policy.withMaxAttempts n))

/-- A copy that fails, or does not fail, after the last rejection. -/
def withRaiseOnFailure (src : Source σ) (raiseOnFailure : Bool) : Run σ (Source σ) :=
  src.withPolicy { src.policy with raiseOnFailure }

/-- A copy with one more middleware. -/
def use (src : Source σ) (m : Middleware σ) : Run σ (Source σ) :=
  src.withPolicy { src.policy with pipeline := src.policy.pipeline.use m }

/-- A copy with another retry policy, which is made from the one given or from its own. -/
def withRetry (src : Source σ) (config : Option (RetryPolicy σ))
    (change : RetryPolicy σ → RetryPolicy σ) : Run σ (Source σ) :=
  src.withPolicy { src.policy with retry := change (config.getD src.policy.retry) }

/-- Sets a list back to its start. -/
def reset (src : Source σ) : Run σ Unit :=
  match src.origin with
  | .list _ _ cell => modify fun s => { s with cursors := s.cursors.set cell 0 }
  | _ => return

/-! ### Copies of models' sources -/

/-- A copy with its access to the model changed; sources of other kinds stay as they are. -/
def withAccess (src : Source σ) (change : ModelAccess σ → ModelAccess σ) : Run σ (Source σ) := do
  match ← copyOrigin src.origin with
  | .model access => return ⟨.model (change access), src.policy⟩
  | origin => return ⟨origin, src.policy⟩

/-- A copy with its options changed. -/
def withOptions (src : Source σ) (change : Options → Options) : Run σ (Source σ) :=
  src.withAccess fun a => { a with options := change a.options }

/-- A copy with its provider changed. -/
def withProvider (src : Source σ) (change : ProviderConfig → ProviderConfig) :
    Run σ (Source σ) :=
  src.withOptions fun o => { o with provider := change o.provider }

/-- A copy that asks a provider, for its default model unless another one is named. -/
def atProvider (src : Source σ) (kind : ProviderKind) (model apiKey : Option String) :
    Run σ (Source σ) :=
  src.withProvider fun p => { p with
    kind
    model := (model.filter (· ≠ "")).getD kind.defaultModel
    apiKey := apiKey.getD p.apiKey }

/-- A copy with further tools. -/
def withTools (src : Source σ) (tools : List ToolSpec) : Run σ (Source σ) :=
  src.withOptions fun o => { o with tools := o.tools ++ tools }

/-- A copy whose model has to answer in a structure, by a call of the named function. -/
def withSchema (src : Source σ) (model : DataModel) (name : String := "structured_output")
    (mode : String := "tool") : Run σ (Source σ) :=
  src.withOptions fun o =>
    { o with structured := some { name, jsonSchema := model.document, mode, model := some model } }

/-- A copy with a budget of its own. -/
def withBudget (src : Source σ) (limit : Option Int) : Run σ (Source σ) := do
  let budget ← Budget.make limit
  src.withAccess fun a => { a with budget }

/-- A copy with another backend. -/
def withBackend (src : Source σ) (backend : Backend σ) : Run σ (Source σ) :=
  src.withAccess fun a => { a with backend := some backend }

end Source

end Colloquy
