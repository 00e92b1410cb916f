import Colloquy.Document.Source

/-!
# Templates as documents

A template is written as an object with the word for its kind.  The steps of an agent are read by the agent's
own operations, so that the bodies in it inherit its limit on rounds.
-/

namespace Colloquy.Document

variable {σ : Type}

/-! ### Parts -/

/-- The templates of a body: a list of them, one alone, or none. -/
def body (v : Value) (name : String) : List Value :=
  match v.field name with
  | .null => []
  | .list vs => vs
  | t => [t]

/-- Which fields of a structured answer become vars. -/
def extract : Value → Extract
  | .bool true => .everything
  | .list names => .fields (names.map Value.text)
  | .object names => .renamed (names.map fun (k, v) => (k, v.text))
  | _ => .nothing

/-- The sources for messages that name none. -/
def defaults (b : Bindings σ) (v : Value) : Run σ (Defaults σ) := do
  let user ← source? b (v.field "user")
  return { user, assistant := ← source? b (v.field "assistant") }

/-- The greatest number of rounds in one of the named fields. -/
def rounds (v : Value) (names : List String) : Int :=
  (names.findSome? v.field?).elim defaultRounds Value.integer

/-! ### Branches -/

/-- The strategy in a field, or the default for a missing one. -/
def strategy (b : Bindings σ) (v : Value) : Run σ (StrategyInput σ) := do
  let v := (v.field? "strategy").getD (.str "keep_all")
  match v.field? "judge", v.field? "custom" with
  | some judge, _ => return .strategy (.judged (← source b judge))
  | none, some _ => return .function (b.custom v)
  | none, none => return .word v

/-- A branch. -/
def branch (b : Bindings σ) (v : Value) : Run σ (Branch σ) := do
  return { source := ← source b (v.field "source"),
           repetitions := (v.field? "reps").elim 1 Value.integer }

/-- Branches with another strategy or scorer. -/
def branchesThen (b : Bindings σ) (p : Parallel σ) (v : Value) : Run σ (Parallel σ) := do
  let scorer := b.scorer (v.field "scorer")
  match v.field? "strategy", scorer with
  | some _, _ => do Run.ofExcept (p.withStrategy (← strategy b v) scorer)
  | none, some scorer => return p.withScorer scorer
  | none, none => return p

/-- Branches side by side. -/
def parallel (b : Bindings σ) (v : Value) : Run σ (Parallel σ) := do
  let given ← (v.field "configs").items.mapM (branch b)
  let first ← Run.ofExcept
    (Parallel.make given (← strategy b v) (b.scorer (v.field "scorer")))
  let p ← (v.field "sources").items.foldlM (fun (p : Parallel σ) v => do
    let added ← branch b v
    Run.ofExcept (p.withSource added.source added.repetitions)) first
  (v.field "then").items.foldlM (branchesThen b) p

/-! ### Templates -/

/-- A template with parts that `inner` reads; other words than those here stand for an agent, whose steps
`step` reads. -/
def templateOver (b : Bindings σ) (inner : Value → Run σ (Template σ))
    (step : Agent σ → Value → Run σ (Agent σ)) (v : Value) : Run σ (Template σ) := do
  let parts := (body v "body").mapM inner
  match v.word "t" with
  | "system" => Template.ofSystem (← content b (v.field "content"))
  | "user" => return .user (← source? b (v.field "content"))
  | "assistant" =>
    return .assistant (← source? b (v.field "content")) (extract (v.field "extract"))
  | "if" =>
    let condition ← b.predicate (v.field "if")
    let positive ← inner (v.field "then")
    return .conditional condition positive (← given v "else" inner)
  | "transform" =>
    match v.field? "fns" with
    | some fns => do Run.ofExcept (Template.ofFunctions (← fns.items.mapM b.reshaping))
    | none => return .transform [← b.reshaping (v.field "fn")]
  | "sequence" => return .sequence (← parts) (← defaults b v)
  | "loop" =>
    let parts ← parts
    let done ← given v "until" b.predicate
    return .loop parts done (rounds v ["max"]) (← defaults b v)
  | "subroutine" =>
    let parts ← parts
    let start ← given v "init" b.start
    return .subroutine parts start (← given v "squash" b.squash) (← defaults b v)
  | "parallel" => return .parallel (← parallel b v)
  | _ =>
    let first : Agent σ :=
      { defaults := ← defaults b v, maxRounds := rounds v ["max_iterations", "settings_max"] }
    return (← (body v "body").foldlM step first).toTemplate

/-- One more step of an agent, with parts that `inner` and `step` read. -/
def stepOver (b : Bindings σ) (inner : Value → Run σ (Template σ))
    (step : Agent σ → Value → Run σ (Agent σ)) (a : Agent σ) (v : Value) : Run σ (Agent σ) := do
  let builder (name : String) : Agent.Builder σ := fun a => do
    let a ← (body v name).foldlM step a
    return ⟨a, if v.flag "returns_none" then none else some a⟩
  match v.word "t" with
  | "loop" =>
    a.loop (builder "body") (← given v "until" b.predicate) (v.field "max").integer?
  | "if" =>
    a.conditional (← b.predicate (v.field "if")) (builder "then")
      ((v.field? "else").map fun _ => builder "else")
  | "subroutine" =>
    a.subroutine (builder "body") (← given v "init" b.start) (← given v "squash" b.squash)
  | "sequence" => a.sequence (builder "body")
  | _ => return a.add (← inner v)

mutual

/-- A template whose parts are nested no deeper than the first argument says. -/
def templateWithin (b : Bindings σ) : Nat → Value → Run σ (Template σ)
  | 0, _ => throw (.configuration "nested too deeply" none)
  | n + 1, v => templateOver b (templateWithin b n) (stepWithin b n) v

/-- One more step of an agent whose parts are nested no deeper than the first argument says. -/
def stepWithin (b : Bindings σ) : Nat → Agent σ → Value → Run σ (Agent σ)
  | 0, _, _ => throw (.configuration "nested too deeply" none)
  | n + 1, a, v => stepOver b (templateWithin b n) (stepWithin b n) a v

end

/-- A template. -/
def template (b : Bindings σ) (v : Value) : Run σ (Template σ) :=
  templateWithin b (2 * v.depth + 2) v

end Colloquy.Document
