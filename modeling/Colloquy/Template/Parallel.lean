import Colloquy.Aggregation.Strategy
import Colloquy.Task

/-!
# Parallel branches

A parallel template asks several sources, each a number of times, for content on one session and reduces the
outcomes to one session.  Branches run on a quiet copy, and only what is kept is echoed.  A branch whose
source fails is reported and contributes the session as it was.

The branches run side by side: `Parallel.runBy` takes each for a task, and `Parallel.run` is the case of sources that
answer without a break.
-/

namespace Colloquy

/-! ### Output messages -/

/-- The text of a tool's result: a text as it is, and JSON for anything else. -/
def ToolResult.body (r : ToolResult) : Except Failure String :=
  match r.result with
  | .value (.str s) => .ok s
  | .value v => .ok (Json.render v)
  | .other _ json => json

/-- The message of a tool's result. -/
def ToolResult.message (r : ToolResult) : Except Failure Message :=
  r.body.map fun body => .toolResult body r.callId

/-- The message of the assistant that an output amounts to. -/
def Output.message (o : Output) : Checked Message :=
  Checked.within "content" (Check.text o.content) |>.map fun content => {
    role := .assistant
    content
    attrs := o.metadata
    toolCalls := if o.toolCalls.isEmpty then none else some o.toolCalls
    structured := o.structured }

namespace Session

variable {σ : Type}

/-- Adds one message for each result of a tool, until one cannot be written. -/
def appendResults (s : Session) : List ToolResult → Run σ Session
  | [] => return s
  | r :: rest => do
    let m ← Run.ofExcept r.message
    let s ← s.add m
    appendResults s rest

/-- Adds the message of an output and one message for each result of a tool. -/
def appendOutput (s : Session) (content : Content) : Run σ Session := do
  let out ← Run.ofChecked "ModelOutput" content.toOutput
  let m ← Run.ofChecked "Message" out.message
  let s ← s.add m
  s.appendResults out.toolResults

end Session

/-! ### Branches -/

/-- A source and how often it is asked. -/
structure Branch (σ : Type) where
  source : Source σ
  repetitions : Int := 1

/-- Sources to be asked side by side, and how their outcomes are reduced. -/
structure Parallel (σ : Type) where
  branches : List (Branch σ) := []
  scorer : Option (Scorer σ) := none
  strategy : Strategy σ := .keepAll

namespace Parallel

variable {σ : Type}

/-! ### Building -/

/-- Branches with a strategy as it is given. -/
def make (branches : List (Branch σ)) (strategy : StrategyInput σ)
    (scorer : Option (Scorer σ)) : Except Failure (Parallel σ) := do
  return { branches, scorer, strategy := ← strategy.resolve scorer }

/-- One more branch, which has to be asked at least once. -/
def withSource (p : Parallel σ) (source : Source σ) (repetitions : Int) :
    Except Failure (Parallel σ) :=
  if repetitions < 1 then
    .error (.configuration s!"repetitions must be at least 1, got {repetitions}" none)
  else .ok { p with branches := p.branches ++ [{ source, repetitions }] }

/-- Another strategy, and another scorer if one is given. -/
def withStrategy (p : Parallel σ) (strategy : StrategyInput σ) (scorer : Option (Scorer σ)) :
    Except Failure (Parallel σ) := do
  let scorer := scorer.or p.scorer
  return { p with scorer, strategy := ← strategy.resolve scorer }

/-- Chooses the best outcome by a scorer. -/
def withScorer (p : Parallel σ) (scorer : Scorer σ) : Parallel σ :=
  { p with scorer := some scorer, strategy := .best (some scorer) }

/-! ### Running -/

/-- The sources in the order in which they are asked. -/
def issueOrder (p : Parallel σ) : List (Source σ) :=
  p.branches.flatMap fun b => List.replicate b.repetitions.toNat b.source

/-- What a branch comes to when its source has ended: the messages of the content are added, and a failure is
reported. -/
def settle (s : Session) (index : Nat) (source : Source σ) : Except Failure Content → Run σ Session
  | .ok content => s.appendOutput content
  | .error f => do
    Run.log (.branchFailed index source.origin.kindName f.text)
    return s

/-- A branch as a task, by how sources answer. -/
def branchTask (asks : Source σ → Session → Task σ Content) (s : Session) (index : Nat)
    (source : Source σ) : Task σ Session :=
  (asks source s).andThen (settle s index source)

/-- Asks all sources side by side and reduces their outcomes, by how sources answer and in which order they go on. -/
def runBy (p : Parallel σ) (asks : Source σ → Session → Task σ Content) (schedule : List Nat)
    (s : Session) : Run σ Session := do
  if p.branches.isEmpty then return s
  let quiet := s.withEcho false none
  let outcomes ← Task.gather schedule (p.issueOrder.mapIdx (branchTask asks quiet))
  s.rejoin (← p.strategy.aggregate quiet outcomes)

/-- Asks all sources, each of which answers without a break. -/
def run (p : Parallel σ) (s : Session) : Run σ Session :=
  p.runBy (fun source s => .ofRun (source.getContent s)) [] s

end Parallel

end Colloquy
