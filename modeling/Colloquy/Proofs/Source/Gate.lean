import Colloquy.Source.Content
import Colloquy.Proofs.Pipeline.Hooks
import Colloquy.Proofs.Repetition

/-!
# The gate in front of content

A source hands out content only after an attempt at it was accepted, or after its attempts are used up.
`Ends` says stage by stage how one attempt goes: its candidate is generated through the pipeline, the text is
transformed, the source itself and then the validator judge it, and the pipeline is told of a rejection; the
first stage that fails ends it.  `getContent_gate` is the law of a whole run: its attempts form a chain in
which every rejection is the feedback of the next attempt, and the last attempt decides what is handed out.
-/

namespace Colloquy

variable {σ : Type}

/-- The content with what the structure of an output was read as. -/
def Content.withParsed (parsed : Value) : Content → Content
  | .plain v => .plain v
  | .output out => .output { out with parsed := some parsed }

/-- The content without what its structure was read as, and without a number for those that share it. -/
def Content.bare : Content → Content
  | .plain v => .plain v
  | .output out => .output { out with parsed := none, object := none }

theorem Content.bare_withParsed (parsed : Value) (c : Content) : (c.withParsed parsed).bare = c.bare := by
  cases c <;> rfl

namespace Source

/-! ### Stages of an attempt -/

/-- The candidate for a response is what the transformations made of its text.  An output is its own candidate if its
text stays the same, and otherwise a copy with the other text, of what the output is by then. -/
def Retexts (st : State σ) (raw transformed candidate : Content) : Prop :=
  match raw with
  | .plain _ => candidate = transformed
  | .output out => transformed.text.same out.content = true ∧ candidate = .output out ∨
      transformed.text.same out.content = false ∧
        candidate = .output { out.copied st.readings with content := transformed.text }

variable (src : Source σ) (w : Surroundings σ) (s : Session)

/-- The response of the pipeline: every call of the generator is given the feedback. -/
def response (feedback : Option String) : Run σ Content :=
  src.policy.pipeline.execute (fun ctx => generate src.origin ctx.session feedback)
    (src.contextFor s feedback) src.policy.retry

/-- The text of a response after one middleware after the other has transformed it. -/
def transformation (feedback : Option String) (raw : Content) : Run σ Content :=
  List.foldlM (fun content (m : Middleware σ) => m.transform content (src.contextFor s feedback))
    (.plain raw.text) src.policy.pipeline.middlewares

/-- Every middleware is told of a rejection. -/
def rejection (feedback : Option String) : Run σ PUnit :=
  forM src.policy.pipeline.middlewares fun m => m.onRejected (src.contextFor s feedback)

/-- A candidate comes about: the pipeline responds, and the text of the response is transformed. -/
def Produces (feedback : Option String) (st : State σ) (candidate : Content) (st₁ : State σ) : Prop :=
  ∃ raw generated transformed,
    (src.response s feedback).exec w st = (.ok raw, generated) ∧
    (src.transformation s feedback raw).exec w generated = (.ok transformed, st₁) ∧
    Retexts st₁ raw transformed candidate

/-- No candidate comes about: the pipeline fails, or a transformation does. -/
def FailsToProduce (feedback : Option String) (st : State σ) (f : Failure) (st₁ : State σ) : Prop :=
  (src.response s feedback).exec w st = (.error f, st₁) ∨
  ∃ raw generated,
    (src.response s feedback).exec w st = (.ok raw, generated) ∧
    (src.transformation s feedback raw).exec w generated = (.error f, st₁)

/-- The source itself inspects a candidate, to which it at most attaches what its structure was read as. -/
def Inspects (candidate : Content) (st : State σ) (own : Option Verdict) (content : Content)
    (st₁ : State σ) : Prop :=
  (inspect src.origin candidate).exec w st = (.ok (own, content), st₁) ∧
    (content = candidate ∨ ∃ parsed, content = candidate.withParsed parsed)

/-- A candidate is judged.  A rejection by the source itself is final; otherwise the validator, if there is
one, judges the text of the candidate in the session that the source was asked about. -/
inductive Judges (candidate : Content) (st : State σ) :
    Except Failure (Verdict × Content) → State σ → Prop where
  | refused {verdict : Verdict} {content : Content} {st₁ : State σ}
      (hinspect : src.Inspects w candidate st (some verdict) content st₁)
      (hrefused : verdict.isValid = false) :
      Judges candidate st (.ok (verdict, content)) st₁
  | unvalidated {own : Option Verdict} {content : Content} {st₁ : State σ}
      (hinspect : src.Inspects w candidate st own content st₁)
      (hpassed : ∀ verdict ∈ own, verdict.isValid = true) (hnone : src.policy.validator = none) :
      Judges candidate st (.ok (.accept, content)) st₁
  | validated {own : Option Verdict} {content : Content} {st₁ st₂ : State σ}
      {validator : Validator σ} {outcome : Except Failure Verdict}
      (hinspect : src.Inspects w candidate st own content st₁)
      (hpassed : ∀ verdict ∈ own, verdict.isValid = true)
      (hsome : src.policy.validator = some validator)
      (hjudge : (validator.judge candidate.text s).exec w st₁ = (outcome, st₂)) :
      Judges candidate st (outcome.map fun verdict => (verdict, content)) st₂

/-- How an attempt with some feedback ends. -/
inductive Ends (feedback : Option String) (st : State σ) :
    Except Failure (Verdict × Content) → State σ → Prop where
  | unproduced {f : Failure} {st₁ : State σ}
      (hproduce : src.FailsToProduce w s feedback st f st₁) : Ends feedback st (.error f) st₁
  | unjudged {candidate : Content} {f : Failure} {st₁ st₂ : State σ}
      (hproduce : src.Produces w s feedback st candidate st₁)
      (hjudge : src.Judges w s candidate st₁ (.error f) st₂) : Ends feedback st (.error f) st₂
  | accepted {candidate content : Content} {verdict : Verdict} {st₁ st₂ : State σ}
      (hproduce : src.Produces w s feedback st candidate st₁)
      (hjudge : src.Judges w s candidate st₁ (.ok (verdict, content)) st₂)
      (hvalid : verdict.isValid = true) : Ends feedback st (.ok (verdict, content)) st₂
  /-- Every middleware is told of the rejection, and if none of them fails the verdict stands. -/
  | rejected {candidate content : Content} {verdict : Verdict} {st₁ st₂ st₃ : State σ}
      {told : Except Failure PUnit}
      (hproduce : src.Produces w s feedback st candidate st₁)
      (hjudge : src.Judges w s candidate st₁ (.ok (verdict, content)) st₂)
      (hvalid : verdict.isValid = false)
      (htell : (src.rejection s feedback).exec w st₂ = (told, st₃)) :
      Ends feedback st (told.map fun _ => (verdict, content)) st₃

/-! ### Chains of attempts -/

/-- An attempt: its feedback, the state that it started from, how it ended and how it left the state. -/
structure Round (σ : Type) where
  feedback : Option String
  entered : State σ
  outcome : Except Failure (Verdict × Content)
  left : State σ

/-- The instruction in the verdict on an attempt. -/
def Round.instruction (r : Round σ) : Option String :=
  match r.outcome with
  | .ok (verdict, _) => verdict.instruction
  | .error _ => none

/-- The content of the attempt was rejected. -/
def Round.IsRejected (r : Round σ) : Prop :=
  ∃ verdict content, r.outcome = .ok (verdict, content) ∧ verdict.isValid = false

/-- How attempts follow each other.  A rejected one is reported, and its instruction is the feedback of the
next one. -/
def rounds : Repetition (Option String) (Round σ) where
  Starts _ feedback r :=
    r.feedback = feedback ∧ src.Ends w s r.feedback r.entered r.outcome r.left
  carry _ r := r.instruction
  Again r := r.IsRejected
  Joins number r next := next.entered = { r.left with
    events := r.left.events ++ [.revalidating src.origin.kindName number src.policy.maxAttempts
      r.instruction] }

/-- What a run answers after its last attempt.  A failure of the attempt itself is never hidden.  Content that
was rejected is a failure, too, which tells the number of attempts and the last instruction, unless the source
is told to hand it out. -/
def Round.answer (r : Round σ) : Except Failure Content × State σ :=
  match r.outcome with
  | .error f => (.error f, r.left)
  | .ok (verdict, content) =>
    let attempts : Int := src.policy.maxAttempts
    if verdict.isValid then (.ok content, r.left)
    else if src.policy.raiseOnFailure then
      (.error (.rejected s!"Validation failed after {attempts} attempt(s): {
        instructionText verdict.instruction}" verdict.instruction attempts), r.left)
    else (.ok content, { r.left with events := r.left.events ++
      [.validationExhausted src.origin.kindName attempts verdict.instruction] })

/-! ### One attempt -/

variable {src w s} {feedback : Option String}

theorem usesCache_contextFor (src : Source σ) (s : Session) (feedback : Option String) :
    (src.contextFor s feedback).usesCache = false := by
  have hne : Context.feedbackKey ≠ Context.useCacheKey := by decide
  unfold Context.usesCache Context.auxValue contextFor
  cases feedback.filter (· ≠ "") with
  | none => rfl
  | some hint => simp [Assoc.lookup, hne, Content.truthy, Value.truthy]

theorem retexts_retext (st : State σ) (raw transformed : Content) :
    Retexts st raw transformed (retext st raw transformed) := by
  cases raw with
  | plain v => rfl
  | output out =>
    cases hsame : transformed.text.same out.content with
    | true => exact .inl ⟨hsame, by rw [retext, if_pos hsame]⟩
    | false => exact .inr ⟨hsame, by rw [retext, if_neg (Bool.eq_false_iff.1 hsame)]⟩

/-- With its own text, content is what it was; where a text does not even equal itself, that is a copy. -/
theorem Retexts.bare_eq {raw candidate : Content} {st : State σ} (h : Retexts st raw (.plain raw.text) candidate) :
    candidate.bare = raw.bare := by
  cases raw with
  | plain v => rw [show candidate = .plain v from h]
  | output out =>
    rcases h with ⟨-, rfl⟩ | ⟨-, rfl⟩
    · rfl
    · rfl

theorem produce_eq (src : Source σ) (s : Session) (feedback : Option String) :
    src.produce (src.contextFor s feedback) feedback = (do
      let raw ← src.response s feedback
      let transformed ← src.transformation s feedback raw
      return retext (← get) raw transformed) := by
  simp only [produce, response, transformation, Pipeline.transform,
    Pipeline.runTransform_eq_foldlM]

/-- Producing a candidate goes one way or the other. -/
theorem produces_or_fails (src : Source σ) (w : Surroundings σ) (s : Session)
    (feedback : Option String) (st : State σ) :
    (∃ candidate st₁, src.Produces w s feedback st candidate st₁ ∧
      (src.produce (src.contextFor s feedback) feedback).exec w st = (.ok candidate, st₁)) ∨
    ∃ f st₁, src.FailsToProduce w s feedback st f st₁ ∧
      (src.produce (src.contextFor s feedback) feedback).exec w st = (.error f, st₁) := by
  rw [produce_eq]
  rcases hraw : (src.response s feedback).exec w st with ⟨f | raw, generated⟩
  · exact Or.inr ⟨f, generated, Or.inl hraw, Run.exec_bind_error _ hraw⟩
  rw [Run.exec_bind_ok _ hraw]
  rcases htrans : (src.transformation s feedback raw).exec w generated with ⟨f | transformed, st₁⟩
  · exact Or.inr ⟨f, st₁, Or.inr ⟨raw, generated, hraw, htrans⟩, Run.exec_bind_error _ htrans⟩
  rw [Run.exec_bind_ok _ htrans]
  exact Or.inl ⟨_, st₁, ⟨raw, generated, transformed, hraw, htrans, retexts_retext ..⟩, rfl⟩

/-- What an answer was read as is noted: in the answer itself, or for all that share it. -/
inductive Noted (out : Output) (parsed : Value) (st : State σ) : Output → State σ → Prop
  | own (hown : out.object = none) : Noted out parsed st { out with parsed := some parsed } st
  | shared {object : Nat} (hshared : out.object = some object) :
      Noted out parsed st out { st with readings := st.readings.set object (some parsed) }

theorem exec_noteReading (out : Output) (parsed : Value) (w : Surroundings σ) (st : State σ) :
    ∃ noted st₁, (noteReading out parsed).exec w st = (.ok (.output noted), st₁) ∧ Noted out parsed st noted st₁ := by
  rcases hobject : out.object with _ | object
  · refine ⟨_, st, ?_, .own hobject⟩
    rw [noteReading, hobject]
    rfl
  · refine ⟨out, _, ?_, .shared hobject⟩
    rw [noteReading, hobject]
    rfl

/-- The inspection never fails. -/
theorem exists_inspects (src : Source σ) (w : Surroundings σ) (candidate : Content) (st : State σ) :
    ∃ own content st₁, src.Inspects w candidate st own content st₁ := by
  unfold Inspects inspect
  split
  · exact ⟨none, _, st, rfl, Or.inl rfl⟩
  · exact ⟨none, _, st, rfl, Or.inl rfl⟩
  · rename_i spec out _
    split
    · exact ⟨_, _, st, rfl, Or.inl rfl⟩
    · split
      · exact ⟨_, _, st, rfl, Or.inl rfl⟩
      · split
        · rename_i parsed _
          obtain ⟨noted, st₁, hnote, hnoted⟩ := exec_noteReading out parsed w st
          refine ⟨some .accept, .output noted, st₁, ?_, ?_⟩
          · rw [Run.exec_bind_ok _ hnote]
            rfl
          · cases hnoted with
            | own => exact Or.inr ⟨parsed, rfl⟩
            | shared => exact Or.inl rfl
        · exact ⟨_, _, _, rfl, Or.inl rfl⟩

/-- An inspection has one result. -/
theorem Inspects.eq_of_exec {candidate content content' : Content} {own own' : Option Verdict}
    {st st₁ st₁' : State σ} (h : src.Inspects w candidate st own content st₁)
    (hexec : (inspect src.origin candidate).exec w st = (.ok (own', content'), st₁')) :
    own = own' ∧ content = content' ∧ st₁ = st₁' := by
  obtain ⟨hresult, hstate⟩ := Prod.mk.inj (h.1.symm.trans hexec)
  obtain ⟨hown, hcontent⟩ := Prod.mk.inj (Except.ok.inj hresult)
  exact ⟨hown, hcontent, hstate⟩

theorem Inspects.text_eq {candidate content : Content} {own : Option Verdict} {st st₁ : State σ}
    (h : src.Inspects w candidate st own content st₁) : content.text = candidate.text := by
  obtain ⟨-, rfl | ⟨parsed, rfl⟩⟩ := h
  · rfl
  · cases candidate <;> rfl

theorem Inspects.bare_eq {candidate content : Content} {own : Option Verdict} {st st₁ : State σ}
    (h : src.Inspects w candidate st own content st₁) : content.bare = candidate.bare := by
  obtain ⟨-, rfl | ⟨parsed, rfl⟩⟩ := h
  · rfl
  · exact candidate.bare_withParsed parsed

/-- The judgement of a candidate is that of the source itself or of the validator. -/
theorem judges_judgeContent (src : Source σ) (w : Surroundings σ) (s : Session)
    (candidate : Content) (st : State σ) :
    src.Judges w s candidate st ((src.judgeContent s candidate).exec w st).1
      ((src.judgeContent s candidate).exec w st).2 := by
  obtain ⟨own, content, st₁, hinspect⟩ := exists_inspects src w candidate st
  rw [judgeContent, Run.exec_bind_ok _ hinspect.1]
  dsimp only
  have htext := hinspect.text_eq
  -- A rejection by the source itself is final; without one it is as if the source had said nothing.
  by_cases hrefused : ∃ verdict, own = some verdict ∧ verdict.isValid = false
  · obtain ⟨verdict, rfl, hinvalid⟩ := hrefused
    rw [Option.filter_some, if_pos (by rw [hinvalid]; rfl)]
    exact .refused hinspect hinvalid
  · have hpassed : ∀ verdict ∈ own, verdict.isValid = true := by
      intro verdict hverdict
      cases hvalid : verdict.isValid with
      | true => rfl
      | false => exact absurd ⟨verdict, hverdict, hvalid⟩ hrefused
    have hfilter : own.filter (!·.isValid) = none := by
      rw [Option.filter_eq_none_iff]
      intro verdict hverdict
      rw [hpassed verdict hverdict]
      decide
    rw [hfilter]
    cases hvalidator : src.policy.validator with
    | none => exact .unvalidated hinspect hpassed hvalidator
    | some validator =>
      dsimp only
      rw [htext]
      rcases hrun : (validator.judge candidate.text s).exec w st₁ with ⟨f | verdict, st₂⟩
      · have hjudge := Judges.validated hinspect hpassed hvalidator hrun
        rw [Run.exec_bind_error _ hrun]
        exact hjudge
      · have hjudge := Judges.validated hinspect hpassed hvalidator hrun
        rw [Run.exec_bind_ok _ hrun]
        exact hjudge

/-- Every attempt ends in one of the ways that there are. -/
theorem ends_attempt (src : Source σ) (w : Surroundings σ) (s : Session) (feedback : Option String)
    (st : State σ) :
    src.Ends w s feedback st ((src.attempt s feedback).exec w st).1
      ((src.attempt s feedback).exec w st).2 := by
  rw [attempt]
  rcases produces_or_fails src w s feedback st with
    ⟨candidate, st₁, hproduce, hrun⟩ | ⟨f, st₁, hproduce, hrun⟩
  · rw [Run.exec_bind_ok _ hrun]
    have hjudge := judges_judgeContent src w s candidate st₁
    rcases hjudged : (src.judgeContent s candidate).exec w st₁ with ⟨f | ⟨verdict, content⟩, st₂⟩
    · rw [hjudged] at hjudge
      rw [Run.exec_bind_error _ hjudged]
      exact .unjudged hproduce hjudge
    rw [hjudged] at hjudge
    rw [Run.exec_bind_ok _ hjudged]
    dsimp only
    cases hvalid : verdict.isValid with
    | true => exact .accepted hproduce hjudge hvalid
    | false =>
      have hreject : src.policy.pipeline.reject (src.contextFor s feedback) =
          src.rejection s feedback := Pipeline.runRejected_eq_forM ..
      rw [hreject, if_pos (by decide)]
      -- A hook that fails on a rejection ends the attempt with its own failure.
      rcases htell : (src.rejection s feedback).exec w st₂ with ⟨f | u, st₃⟩
      · have hends := Ends.rejected hproduce hjudge hvalid htell
        rw [Run.exec_bind_error _ htell]
        exact hends
      · have hends := Ends.rejected hproduce hjudge hvalid htell
        rw [Run.exec_bind_ok _ htell]
        exact hends
  · rw [Run.exec_bind_error _ hrun]
    exact .unproduced hproduce

/-! ### Runs -/

theorem exists_round (src : Source σ) (w : Surroundings σ) (s : Session) (feedback : Option String)
    (st : State σ) : ∃ r : Round σ, r.feedback = feedback ∧ r.entered = st ∧
      src.Ends w s r.feedback r.entered r.outcome r.left ∧
      (src.attempt s r.feedback).exec w r.entered = (r.outcome, r.left) :=
  ⟨⟨feedback, st, _, _⟩, rfl, rfl, ends_attempt src w s feedback st, rfl⟩

theorem exec_attemptsAt_ok {left number : Nat} {verdict : Verdict} {content : Content}
    {st st₁ : State σ} (h : (src.attempt s feedback).exec w st = (.ok (verdict, content), st₁)) :
    (src.attemptsAt s left number feedback).exec w st =
      (if verdict.isValid then pure content
      else match left with
        | 0 => src.exhausted content verdict.instruction
        | left + 1 => do
          Run.log (.revalidating src.origin.kindName number src.policy.maxAttempts
            verdict.instruction)
          src.attemptsAt s left (number + 1) verdict.instruction).exec w st₁ := by
  rw [attemptsAt]
  exact Run.exec_bind_ok _ h

/-- An attempt that is not rejected ends the run, and so does the last one allowed. -/
theorem exec_attemptsAt_stop {left number : Nat} {r : Round σ}
    (h : (src.attempt s r.feedback).exec w r.entered = (r.outcome, r.left))
    (hstop : left = 0 ∨ ¬ r.IsRejected) :
    (src.attemptsAt s left number r.feedback).exec w r.entered = r.answer src := by
  cases hout : r.outcome with
  | error f =>
    rw [hout] at h
    rw [attemptsAt, Run.exec_bind_error _ h, Round.answer, hout]
  | ok judged =>
    obtain ⟨verdict, content⟩ := judged
    rw [hout] at h
    rw [exec_attemptsAt_ok h, Round.answer, hout]
    dsimp only
    by_cases hvalid : verdict.isValid = true
    · rw [if_pos hvalid, if_pos hvalid, Run.exec_pure]
    · have hrejected : r.IsRejected := ⟨verdict, content, hout, by simpa using hvalid⟩
      -- A rejected attempt ends the run only as the last one allowed.
      obtain rfl := hstop.resolve_right (not_not_intro hrejected)
      rw [if_neg hvalid, if_neg hvalid, exhausted]
      by_cases hraise : src.policy.raiseOnFailure = true
      · rw [if_pos hraise, if_pos hraise]
        rfl
      · rw [if_neg hraise, if_neg hraise]
        rfl

/-- Attempts form a chain, and the last of them decides on the answer.  The induction is on the attempts that
are left; their chain is for the instruction of this one. -/
theorem attemptsAt_rounds (src : Source σ) (w : Surroundings σ) (s : Session) (left : Nat) :
    ∀ (number : Nat) (feedback : Option String) (st : State σ), ∃ trials last,
      (src.rounds w s).Chain (left + 1) number feedback trials ∧
      (∀ r ∈ trials.head?, r.entered = st) ∧ trials.getLast? = some last ∧
      (src.attemptsAt s left number feedback).exec w st = last.answer src := by
  induction left with
  | zero =>
    intro number feedback st
    obtain ⟨r, rfl, rfl, hends, hrun⟩ := exists_round src w s feedback st
    refine ⟨[r], r, .singleton ⟨rfl, hends⟩ (Nat.le_refl 1) (by omega), ?_, rfl,
      exec_attemptsAt_stop hrun (Or.inl rfl)⟩
    rintro u ⟨⟩
    rfl
  | succ left ih =>
    intro number feedback st
    obtain ⟨r, rfl, rfl, hends, hrun⟩ := exists_round src w s feedback st
    by_cases hrejected : r.IsRejected
    · -- The attempts that are left begin with the instruction, in the state after the report of the rejection.
      obtain ⟨verdict, content, hout, hvalid⟩ := id hrejected
      have hinstruction : r.instruction = verdict.instruction := by rw [Round.instruction, hout]
      obtain ⟨trials, last, hchain, hentered, hlast, hrest⟩ := ih (number + 1) r.instruction
        { r.left with events := r.left.events ++ [.revalidating src.origin.kindName number
          src.policy.maxAttempts r.instruction] }
      refine ⟨r :: trials, last, .cons ⟨rfl, hends⟩ hrejected hentered hchain, ?_, ?_, ?_⟩
      · rintro u ⟨⟩
        rfl
      · rw [List.getLast?_cons, hlast, Option.getD_some]
      · rw [hout] at hrun
        rw [hinstruction] at hrest
        rw [exec_attemptsAt_ok hrun, hvalid, ← hrest]
        rfl
    · refine ⟨[r], r, .singleton ⟨rfl, hends⟩ (by omega) fun _ => hrejected, ?_, rfl,
        exec_attemptsAt_stop hrun (Or.inr hrejected)⟩
      rintro u ⟨⟩
      rfl

/-- The feedback of an attempt is the instruction of the one before. -/
theorem feedback_succ {limit number : Nat} {trials : List (Round σ)}
    (h : (src.rounds w s).Chain limit number feedback trials) {k : Nat} (hk : k + 1 < trials.length) :
    trials[k + 1].feedback = trials[k].instruction := by
  have hstart := (h.starts (k + 1) hk).1
  rw [List.take_succ_eq_append_getElem (Nat.lt_of_succ_lt hk), List.foldl_append] at hstart
  exact hstart

/-- **The law of the gate.**  A run makes a chain of attempts, the first of them without feedback and no more
than there may be.  Its answer is that of the last attempt: the content that is the first to be accepted, a
failure of the attempt, or what becomes of the rejection after which there may be no other attempt. -/
theorem getContent_gate (src : Source σ) (s : Session) (w : Surroundings σ) (st : State σ) :
    ∃ trials last, (src.rounds w s).Chain src.policy.maxAttempts 1 none trials ∧
      (∀ r ∈ trials.head?, r.entered = st) ∧ trials.getLast? = some last ∧
      (src.getContent s).exec w st = last.answer src := by
  have h := attemptsAt_rounds src w s (src.policy.maxAttempts - 1) 1 none st
  rwa [Nat.sub_add_cancel src.policy.maxAttempts_pos] at h

end Source

end Colloquy
