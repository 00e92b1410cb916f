import Colloquy.Source.Generate

/-!
# Accepted content

`Source.getContent` asks a source for content until it is accepted: every rejection is the feedback of the
next attempt, and after the last one the run fails or goes on with the content that was rejected.  Every
attempt goes through the pipeline of the source, which repeats failed calls by itself.
-/

namespace Colloquy.Source

variable {σ : Type}

/-! ### One attempt -/

/-- The context of a request. -/
def contextFor (src : Source σ) (s : Session) (feedback : Option String) : Context where
  session := prepare src.origin s feedback
  options := optionsOf src.origin
  aux := ((feedback.filter (· ≠ "")).map fun hint =>
    (Context.feedbackKey, Content.plain (.str hint))).toList

/-- Content with its text replaced by the transformed one.  An output with the same text stays the one that it is,
and otherwise a copy of it is made, as it is by then. -/
def retext (st : State σ) (content transformed : Content) : Content :=
  match content with
  | .plain _ => transformed
  | .output out =>
    if transformed.text.same out.content then content
    else .output { out.copied st.readings with content := transformed.text }

/-- Generates content through the pipeline and transforms its text. -/
def produce (src : Source σ) (ctx : Context) (feedback : Option String) : Run σ Content := do
  let p := src.policy
  let content ← p.pipeline.execute (fun c => generate src.origin c.session feedback) ctx p.retry
  let transformed ← p.pipeline.transform (.plain content.text) ctx
  return retext (← get) content transformed

/-- The verdict on content: that of the source itself, and then that of the validator. -/
def judgeContent (src : Source σ) (s : Session) (content : Content) :
    Run σ (Verdict × Content) := do
  let (own, content) ← inspect src.origin content
  -- Only a rejection by the source itself settles the matter; otherwise the validator decides.
  match own.filter (!·.isValid), src.policy.validator with
  | some verdict, _ => return (verdict, content)
  | none, some validator => do return (← validator.judge content.text s, content)
  | none, none => return (.accept, content)

/-- An attempt at content: a candidate and the verdict on it.  The pipeline is told of a rejection. -/
def attempt (src : Source σ) (s : Session) (feedback : Option String) : Run σ (Verdict × Content) := do
  let ctx := src.contextFor s feedback
  let candidate ← src.produce ctx feedback
  let (verdict, content) ← src.judgeContent s candidate
  if !verdict.isValid then src.policy.pipeline.reject ctx
  return (verdict, content)

/-! ### All attempts -/

/-- The text of an instruction in messages. -/
def instructionText (instruction : Option String) : String :=
  (Value.ofText? instruction).text

/-- What follows the last rejection: a failure, or the content that was rejected. -/
def exhausted (src : Source σ) (content : Content) (instruction : Option String) :
    Run σ Content := do
  let attempts : Int := src.policy.maxAttempts
  if src.policy.raiseOnFailure then
    throw (.rejected
      s!"Validation failed after {attempts} attempt(s): {instructionText instruction}"
      instruction attempts)
  Run.log (.validationExhausted src.origin.kindName attempts instruction)
  return content

/-- Attempts at content from the attempt with the given number on, with `left` further ones. -/
def attemptsAt (src : Source σ) (s : Session) :
    (left : Nat) → (number : Nat) → (feedback : Option String) → Run σ Content
  | left, number, feedback => do
    let (verdict, content) ← src.attempt s feedback
    if verdict.isValid then return content
    match left with
    | 0 => src.exhausted content verdict.instruction
    | left + 1 => do
      Run.log (.revalidating src.origin.kindName number src.policy.maxAttempts verdict.instruction)
      attemptsAt src s left (number + 1) verdict.instruction

/-- Content that is accepted. -/
def getContent (src : Source σ) (s : Session) : Run σ Content :=
  src.attemptsAt s (src.policy.maxAttempts - 1) 1 none

end Colloquy.Source
