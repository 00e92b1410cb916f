import Colloquy.Aggregation.Heuristic
import Colloquy.Aggregation.Ranking
import Colloquy.Source.Content
import Colloquy.Value.Convert

/-!
# Strategies

A strategy reduces the outcomes of several branches, which all started from one session, to one session.  A
branch that failed has the session it started from as its outcome, so a branch succeeded if its outcome has
messages on top.
-/

namespace Colloquy

/-- A function that scores a session. -/
abbrev Scorer (σ : Type) := Session → Run σ Value

/-- A way to reduce outcomes to one session. -/
inductive Strategy (σ : Type) where
  /-- All messages of all outcomes. -/
  | keepAll
  /-- The outcome with the highest score. -/
  | best (scorer : Option (Scorer σ))
  | custom (f : List Session → Run σ Session)
  /-- The outcome that a judge names. -/
  | judged (judge : Source σ)

namespace Strategy

variable {σ : Type}

/-- The name of a kind of strategy. -/
def kindName : Strategy σ → String
  | keepAll => "KeepAll"
  | best _ => "Best"
  | custom _ => "CustomStrategy"
  | judged _ => "JudgedBest"

/-! ### Outcomes -/

/-- The messages of an outcome on top of the session that it started from. -/
def newMessages (parent outcome : Session) : List Message :=
  outcome.messages.drop parent.messages.length

/-- The outcomes that have messages on top. -/
def succeeded (parent : Session) (outcomes : List Session) : List Session :=
  outcomes.filter fun o => !(newMessages parent o).isEmpty

/-! ### Choosing -/

/-- The score of an outcome. -/
def score (scorer : Option (Scorer σ)) (s : Session) : Run σ Float := do
  match scorer with
  | none => return heuristicScore s
  | some f => Run.ofExcept (← f s).toDouble

/-- The best of the one so far and further outcomes; of equal scores the earlier one wins. -/
def bestOf (scorer : Option (Scorer σ)) (chosen : Session) (chosenScore : Float) :
    List Session → Run σ (Session × Float)
  | [] => return (chosen, chosenScore)
  | s :: rest => do
    let x ← score scorer s
    -- An undefined score is less than no other, so a first outcome with one stays chosen.
    if chosenScore < x then bestOf scorer s x rest else bestOf scorer chosen chosenScore rest

/-- The outcome with the highest score among those that succeeded; the parent if none did. -/
def aggregateBest (scorer : Option (Scorer σ)) (parent : Session) (outcomes : List Session) :
    Run σ Session := do
  match succeeded parent outcomes with
  | [] => return parent
  | first :: rest => do
    let (chosen, x) ← bestOf scorer first (← score scorer first) rest
    Run.log (.bestSelected x (rest.length + 1))
    return chosen

/-- The first number that a text writes. -/
def firstNumber? (s : String) : Option String :=
  (stretches Text.isDigit [] s.toList).head?.map String.ofList

/-- The candidate that a judge's answer names, counted from one. -/
def named? (answer : String) (candidates : List Session) : Except Failure (Option Session) := do
  match firstNumber? answer with
  | none => return none
  | some digits => do
    let n ← Number.integerOf digits
    return if 1 ≤ n then candidates[n.toNat - 1]? else none

/-- The candidate that a judge chooses, or the best one if the answer names none. -/
def aggregateJudged (judge : Source σ) (parent : Session) (outcomes : List Session) :
    Run σ Session := do
  match succeeded parent outcomes with
  | [] => return parent
  | [only] => return only
  | candidates => do
    let prompt := evaluationPrompt parent candidates
    let content ← judge.getContent { messages := [.user prompt] }
    let answer ← Run.ofExcept (Validator.searchable content.text)
    match ← Run.ofExcept (named? answer candidates) with
    | some chosen => return chosen
    | none => do
      Run.log (.judgeUnusable (String.ofList (answer.toList.take 80)))
      aggregateBest none parent candidates

/-- The parent with the new messages of all outcomes, in order. -/
def aggregateAll (parent : Session) (outcomes : List Session) : Run σ Session :=
  parent.addAll (outcomes.flatMap (newMessages parent))

/-- Reduces outcomes to one session. -/
def aggregate (strategy : Strategy σ) (parent : Session) (outcomes : List Session) :
    Run σ Session :=
  match strategy with
  | keepAll => aggregateAll parent outcomes
  | best scorer => aggregateBest scorer parent outcomes
  | custom f => f outcomes
  | judged judge => aggregateJudged judge parent outcomes

end Strategy

/-! ### Strategies as they are given -/

/-- What is accepted in the place of a strategy. -/
inductive StrategyInput (σ : Type) where
  | strategy (s : Strategy σ)
  | function (f : List Session → Run σ Session)
  | word (v : Value)

/-- The strategy that is meant. -/
def StrategyInput.resolve {σ : Type} (scorer : Option (Scorer σ)) :
    StrategyInput σ → Except Failure (Strategy σ)
  | strategy s => .ok s
  | function f => .ok (.custom f)
  | word v =>
    match v with
    | .str "keep_all" => .ok .keepAll
    | .str "best" => .ok (.best scorer)
    | v => .error (.configuration s!"Unknown aggregation strategy: {v.literal}" none)

end Colloquy
