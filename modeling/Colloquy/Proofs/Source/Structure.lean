import Colloquy.Proofs.Budget.Lineage
import Colloquy.Proofs.Source.Delivery

/-!
# The structure of answers

A source whose model has to answer in a structure (`Source.AsksFor`), whatever that is read by, hands out nothing else.
At each attempt the answer is refused if its structure is missing or cannot be read (`Refuses`), and the instruction
names the function that the model should have called; only an answer that could be read comes before the validator.
The reading is noted in the answer itself, or where all that share the answer find it (`Noted`).  `Round.Gated` lists
the ways in which an attempt ends.

So the content that such a source hands out has a structure, and the reading of exactly that (`getContent_structured`).
An answer that is refused is followed by an attempt with this instruction, or ends the run.

All of this is about outputs.  A middleware may plant any response, and a text that is planted is not inspected at all;
so the law supposes of a run that what was planted in it were outputs (`Round.PlantsOutputs`), which holds if nothing
is planted (`plantsOutputs_of_plantsNothing`).
-/

namespace Colloquy.Source

variable {σ : Type} {src : Source σ} {w : Surroundings σ} {s : Session} {spec : StructureSpec} {model : DataModel}

/-- The answers of a source come from a model that has to answer in a structure. -/
def AsksFor (src : Source σ) (spec : StructureSpec) (model : DataModel) : Prop :=
  ∃ access, src.origin = .model access ∧ access.options.structured = some spec ∧ spec.model = some model

/-- A copy of a model's source that has to answer in a structure does so. -/
theorem asksFor_withSchema {access : ModelAccess σ} (h : src.origin = .model access) (model : DataModel)
    (name mode : String) : (src.withSchema model name mode).Ensures fun built =>
      built.AsksFor { name, jsonSchema := model.document, mode, model := some model } model := by
  unfold withSchema withOptions withAccess
  rw [h]
  refine .bind (ensures_copyOrigin access) fun origin horigin => ?_
  obtain ⟨own, rfl⟩ := horigin
  exact .pure ⟨_, rfl, rfl, rfl⟩

/-! ### Refused answers -/

/-- An answer is refused for its structure, with an instruction; what does not match is reported. -/
inductive Refuses (spec : StructureSpec) (model : DataModel) (out : Output) (st : State σ) :
    String → State σ → Prop
  | missing (hnone : out.structured = none) :
      Refuses spec model out st s!"Respond by calling {spec.name} with the required structure" st
  | misshapen {data : Entries} {issues : List Issue} (hdata : out.structured = some data)
      (hread : model.read data = .error issues) :
      Refuses spec model out st s!"Structured output does not match {spec.name}: {Issue.summarize issues}"
        { st with events := st.events ++ [.structureInvalid spec.name issues.length] }

/-- An answer has a structure that can be read. -/
def Reads (model : DataModel) (out : Output) (parsed : Value) : Prop :=
  ∃ data, out.structured = some data ∧ model.read data = .ok parsed

theorem Noted.structured {out noted : Output} {parsed : Value} {st st₁ : State σ} (h : Noted out parsed st noted st₁) :
    noted.structured = out.structured := by
  cases h <;> rfl

/-- What was noted is found. -/
theorem Noted.reading {out noted : Output} {parsed : Value} {st st₁ : State σ} (h : Noted out parsed st noted st₁) :
    noted.reading st₁.readings = some parsed := by
  cases h with
  | own hown =>
    rw [Output.reading, hown]
  | shared hshared =>
    rw [Output.reading, hshared]
    dsimp only
    rw [Cells.get_set, if_pos rfl, Option.some_or]

theorem holds_append {front part rest : String} : Text.holds (front ++ part ++ rest) part = true := by
  rw [Text.holds, Text.occursIn_iff]
  exact ⟨front.toList, rest.toList, by rw [String.toList_append, String.toList_append]⟩

/-- The instruction names the function. -/
theorem Refuses.names {out : Output} {st st' : State σ} {instruction : String}
    (h : Refuses spec model out st instruction st') : Text.holds instruction spec.name = true := by
  cases h with
  | missing => exact holds_append
  | @misshapen _ issues =>
    have hsplit : s!"Structured output does not match {spec.name}: {Issue.summarize issues}" =
        "Structured output does not match " ++ spec.name ++ (": " ++ Issue.summarize issues) := by
      rw [← String.append_assoc]
      rfl
    rw [hsplit]
    exact holds_append

/-! ### Outputs -/

/-- What an attempt answers without a call is an output. -/
def Round.PlantsOutputs (src : Source σ) (w : Surroundings σ) (s : Session) (r : Round σ) : Prop :=
  ∀ count passes raw st, src.policy.retry.attempts = .ok count →
    Pipeline.Passes (src.callFor r.feedback) w src.policy.pipeline src.policy.retry (count - 1) 1
      (src.contextFor s r.feedback) none r.entered passes (.ok raw, st) →
    ∀ a ∈ passes.getLast?, a.trace.call = none → ∃ out, raw = .output out

theorem plantsOutputs_of_plantsNothing (h : src.policy.pipeline.PlantsNothing) (r : Round σ) :
    r.PlantsOutputs src w s := by
  intro count passes raw st _ hpasses a ha hnone
  obtain ⟨c, hc⟩ := hpasses.called h (usesCache_contextFor src s r.feedback) a ha
  exact nomatch hnone.symm.trans hc

theorem ensures_askModel (access : ModelAccess σ) (s : Session) :
    (askModel access s).Ensures fun content => ∃ out, content = .output out := by
  refine .after fun _ => .after fun ended => ?_
  cases ended with
  | error f => exact .throw _
  | ok out => exact .ite (.pure ⟨out, rfl⟩) (.throw _)

/-- The response of a model's source is an output. -/
theorem output_of_response {access : ModelAccess σ} (horigin : src.origin = .model access) {r : Round σ}
    (hplants : r.PlantsOutputs src w s) {raw : Content} {st : State σ}
    (h : (src.response s r.feedback).exec w r.entered = (.ok raw, st)) : ∃ out, raw = .output out := by
  obtain ⟨count, passes, hcount, hpasses⟩ := passes_of_response h
  obtain ⟨a, start, hlast, hhappens, houtcome, -⟩ := hpasses.last
  cases hcall : a.trace.call with
  | none => exact hplants count passes raw st hcount hpasses a hlast hcall
  | some c =>
    obtain ⟨asked, answered, hcalls⟩ := hhappens.calls hcall
    have hbrackets := hhappens.brackets
    rw [houtcome] at hbrackets
    have hrun := hcalls.run
    rw [hbrackets.ended_of_ok hcall, callFor, horigin] at hrun
    exact ensures_askModel access c.given.session w asked raw answered hrun

theorem output_of_produces {access : ModelAccess σ} (horigin : src.origin = .model access) {r : Round σ}
    (hplants : r.PlantsOutputs src w s) {candidate : Content} {st : State σ}
    (h : src.Produces w s r.feedback r.entered candidate st) : ∃ out, candidate = .output out := by
  obtain ⟨raw, generated, transformed, hresponse, -, hretexts⟩ := h
  obtain ⟨out, rfl⟩ := output_of_response horigin hplants hresponse
  rcases hretexts with ⟨-, rfl⟩ | ⟨-, rfl⟩
  · exact ⟨out, rfl⟩
  · exact ⟨_, rfl⟩

/-! ### The judgement on an answer -/

section Judgement

variable {out : Output} {st st₁ : State σ} {judgement : Except Failure (Verdict × Content)}
  {content : Content}

theorem inspect_missing (h : src.AsksFor spec model) (hnone : out.structured = none) :
    inspect src.origin (.output out) = pure (some (.reject
      s!"Respond by calling {spec.name} with the required structure"), .output out) := by
  obtain ⟨access, horigin, hspec, -⟩ := h
  simp only [inspect, horigin, optionsOf, Option.bind_some, hspec, hnone]

theorem inspect_misshapen (h : src.AsksFor spec model) {data : Entries} {issues : List Issue}
    (hdata : out.structured = some data) (hread : model.read data = .error issues) :
    inspect src.origin (.output out) =
      Run.log (.structureInvalid spec.name issues.length) >>= fun _ => pure (some (.reject
        s!"Structured output does not match {spec.name}: {Issue.summarize issues}"), .output out) := by
  obtain ⟨access, horigin, hspec, hmodel⟩ := h
  simp only [inspect, horigin, optionsOf, Option.bind_some, hspec, hdata, hmodel, hread]

theorem inspect_read (h : src.AsksFor spec model) {data : Entries} {parsed : Value}
    (hdata : out.structured = some data) (hread : model.read data = .ok parsed) :
    inspect src.origin (.output out) =
      noteReading out parsed >>= fun noted => pure (some .accept, noted) := by
  obtain ⟨access, horigin, hspec, hmodel⟩ := h
  simp only [inspect, horigin, optionsOf, Option.bind_some, hspec, hdata, hmodel, hread]

/-- A refusal is the judgement, and nobody else is asked. -/
theorem Judges.of_refused {candidate : Content} {instruction : String}
    (hinspect : (inspect src.origin candidate).exec w st = (.ok (some (.reject instruction), content), st₁))
    {st₂ : State σ} (h : src.Judges w s candidate st judgement st₂) :
    judgement = .ok (.reject instruction, content) ∧ st₂ = st₁ := by
  cases h with
  | refused hown _ =>
    obtain ⟨hverdict, rfl, rfl⟩ := hown.eq_of_exec hinspect
    rw [Option.some.inj hverdict]
    exact ⟨rfl, rfl⟩
  | unvalidated hown hpassed _ =>
    obtain ⟨rfl, -⟩ := hown.eq_of_exec hinspect
    exact nomatch hpassed _ rfl
  | validated hown hpassed _ _ =>
    obtain ⟨rfl, -⟩ := hown.eq_of_exec hinspect
    exact nomatch hpassed _ rfl

/-- An answer that could be read is left to the validator, if there is one. -/
theorem Judges.of_accepted {candidate : Content} {checked : State σ}
    (hinspect : (inspect src.origin candidate).exec w st = (.ok (some .accept, content), checked))
    (h : src.Judges w s candidate st judgement st₁) :
    src.policy.validator = none ∧ judgement = .ok (.accept, content) ∧ st₁ = checked ∨
      ∃ validator ended, src.policy.validator = some validator ∧
        (validator.judge candidate.text s).exec w checked = (ended, st₁) ∧
        judgement = ended.map fun verdict => (verdict, content) := by
  cases h with
  | refused hown hrefused =>
    obtain ⟨hverdict, -⟩ := hown.eq_of_exec hinspect
    rw [Option.some.inj hverdict] at hrefused
    exact nomatch hrefused
  | unvalidated hown _ hnone =>
    obtain ⟨-, rfl, rfl⟩ := hown.eq_of_exec hinspect
    exact .inl ⟨hnone, rfl, rfl⟩
  | validated hown _ hsome hjudge =>
    obtain ⟨-, rfl, rfl⟩ := hown.eq_of_exec hinspect
    exact .inr ⟨_, _, hsome, hjudge, rfl⟩

/-- An answer is refused for its structure, or it is read and left to the validator. -/
theorem Judges.gated (hasks : src.AsksFor spec model)
    (h : src.Judges w s (.output out) st judgement st₁) :
    (∃ instruction, Refuses spec model out st instruction st₁ ∧
      judgement = .ok (.reject instruction, .output out)) ∨
    ∃ parsed noted checked, Reads model out parsed ∧ Noted out parsed st noted checked ∧
      (src.policy.validator = none ∧ judgement = .ok (.accept, .output noted) ∧ st₁ = checked ∨
        ∃ validator ended, src.policy.validator = some validator ∧
          (validator.judge out.content s).exec w checked = (ended, st₁) ∧
          judgement = ended.map fun verdict => (verdict, .output noted)) := by
  rcases Option.eq_none_or_eq_some out.structured with hdata | ⟨data, hdata⟩
  · have hinspect := congrArg (fun r => r.exec w st) (inspect_missing hasks hdata)
    obtain ⟨rfl, rfl⟩ := Judges.of_refused hinspect h
    exact .inl ⟨_, .missing hdata, rfl⟩
  · cases hread : model.read data with
    | ok parsed =>
      obtain ⟨noted, checked, hnote, hnoted⟩ := exec_noteReading out parsed w st
      have hinspect : (inspect src.origin (.output out)).exec w st = (.ok (some .accept, .output noted), checked) := by
        rw [inspect_read hasks hdata hread, Run.exec_bind_ok _ hnote, Run.exec_pure]
      exact .inr ⟨parsed, noted, checked, ⟨data, hdata, hread⟩, hnoted, Judges.of_accepted hinspect h⟩
    | error issues =>
      have hinspect := congrArg (fun r => r.exec w st) (inspect_misshapen hasks hdata hread)
      obtain ⟨rfl, rfl⟩ := Judges.of_refused hinspect h
      exact .inl ⟨_, .misshapen hdata hread, rfl⟩

end Judgement

/-! ### Attempts -/

/-- In an attempt an answer was refused for its structure.  Every middleware is told of that, and if none of them
fails, the refusal is how the attempt ends; the validator is not asked. -/
inductive Round.Refused (src : Source σ) (w : Surroundings σ) (s : Session) (spec : StructureSpec)
    (model : DataModel) (r : Round σ) (instruction : String) : Prop
  | intro {out : Output} {st₁ st₂ : State σ} {told : Except Failure PUnit}
      (hproduce : src.Produces w s r.feedback r.entered (.output out) st₁)
      (hrefused : Refuses spec model out st₁ instruction st₂)
      (htell : (src.rejection s r.feedback).exec w st₂ = (told, r.left))
      (hend : r.outcome = told.map fun _ => (.reject instruction, .output out))

/-- How an attempt at an answer in a structure ends.  The validator is asked about answers that could be read, and about
no others; the reading of what it is asked about has been noted. -/
inductive Round.Gated (src : Source σ) (w : Surroundings σ) (s : Session) (spec : StructureSpec)
    (model : DataModel) (r : Round σ) : Prop
  | unproduced {f : Failure} (hproduce : src.FailsToProduce w s r.feedback r.entered f r.left)
      (hend : r.outcome = .error f)
  | refused {instruction : String} (h : r.Refused src w s spec model instruction)
  | unvalidated {out noted : Output} {parsed : Value} {st₁ : State σ}
      (hproduce : src.Produces w s r.feedback r.entered (.output out) st₁)
      (hreads : Reads model out parsed) (hnoted : Noted out parsed st₁ noted r.left)
      (hnone : src.policy.validator = none) (hend : r.outcome = .ok (.accept, .output noted))
  | unjudged {out noted : Output} {parsed : Value} {st₁ st₂ : State σ} {validator : Validator σ} {f : Failure}
      (hproduce : src.Produces w s r.feedback r.entered (.output out) st₁)
      (hreads : Reads model out parsed) (hnoted : Noted out parsed st₁ noted st₂)
      (hsome : src.policy.validator = some validator)
      (hjudge : (validator.judge out.content s).exec w st₂ = (.error f, r.left))
      (hend : r.outcome = .error f)
  | accepted {out noted : Output} {parsed : Value} {st₁ st₂ : State σ} {validator : Validator σ}
      {verdict : Verdict} (hproduce : src.Produces w s r.feedback r.entered (.output out) st₁)
      (hreads : Reads model out parsed) (hnoted : Noted out parsed st₁ noted st₂)
      (hsome : src.policy.validator = some validator)
      (hjudge : (validator.judge out.content s).exec w st₂ = (.ok verdict, r.left))
      (hvalid : verdict.isValid = true) (hend : r.outcome = .ok (verdict, .output noted))
  | rejected {out noted : Output} {parsed : Value} {st₁ st₂ st₃ : State σ} {validator : Validator σ}
      {verdict : Verdict} {told : Except Failure PUnit}
      (hproduce : src.Produces w s r.feedback r.entered (.output out) st₁)
      (hreads : Reads model out parsed) (hnoted : Noted out parsed st₁ noted st₂)
      (hsome : src.policy.validator = some validator)
      (hjudge : (validator.judge out.content s).exec w st₂ = (.ok verdict, st₃))
      (hvalid : verdict.isValid = false)
      (htell : (src.rejection s r.feedback).exec w st₃ = (told, r.left))
      (hend : r.outcome = told.map fun _ => (verdict, .output noted))

variable {r : Round σ}

/-- Every attempt ends in one of these ways. -/
theorem gated_of_ends (hasks : src.AsksFor spec model) (hplants : r.PlantsOutputs src w s)
    (h : src.Ends w s r.feedback r.entered r.outcome r.left) : r.Gated src w s spec model := by
  obtain ⟨access, horigin, -⟩ := id hasks
  have houtput : ∀ {candidate st}, src.Produces w s r.feedback r.entered candidate st →
      ∃ out, candidate = .output out := output_of_produces horigin hplants
  generalize hout : r.outcome = outcome at h
  generalize hleft : r.left = left at h
  cases h with
  | unproduced hproduce => exact .unproduced (hleft ▸ hproduce) hout
  | unjudged hproduce hjudge =>
    subst hleft
    obtain ⟨out, rfl⟩ := houtput hproduce
    rcases hjudge.gated hasks with ⟨_, -, hrefused⟩ | ⟨parsed, noted, checked, hreads, hnoted, hrest⟩
    · exact nomatch hrefused
    rcases hrest with ⟨-, haccept, -⟩ | ⟨validator, ended, hsome, hvalidate, hended⟩
    · exact nomatch haccept
    cases ended with
    | error g =>
      obtain rfl := Except.error.inj hended
      exact .unjudged hproduce hreads hnoted hsome hvalidate hout
    | ok verdict => exact nomatch hended
  | @accepted candidate content verdict st₁ st₂ hproduce hjudge hvalid =>
    subst hleft
    obtain ⟨out, rfl⟩ := houtput hproduce
    rcases hjudge.gated hasks with ⟨instruction, -, hrefused⟩ | ⟨parsed, noted, checked, hreads, hnoted, hrest⟩
    · obtain ⟨rfl, -⟩ := Prod.mk.inj (Except.ok.inj hrefused)
      exact nomatch hvalid
    rcases hrest with ⟨hnone, haccept, rfl⟩ | ⟨validator, ended, hsome, hvalidate, hended⟩
    · obtain ⟨rfl, rfl⟩ := Prod.mk.inj (Except.ok.inj haccept)
      exact .unvalidated hproduce hreads hnoted hnone hout
    cases ended with
    | error g => exact nomatch hended
    | ok given =>
      obtain ⟨rfl, rfl⟩ := Prod.mk.inj (Except.ok.inj hended)
      exact .accepted hproduce hreads hnoted hsome hvalidate hvalid hout
  | @rejected candidate content verdict st₁ st₂ st₃ told hproduce hjudge hvalid htell =>
    subst hleft
    obtain ⟨out, rfl⟩ := houtput hproduce
    rcases hjudge.gated hasks with ⟨instruction, hrefused, heq⟩ | ⟨parsed, noted, checked, hreads, hnoted, hrest⟩
    · obtain ⟨rfl, rfl⟩ := Prod.mk.inj (Except.ok.inj heq)
      exact .refused (.intro hproduce hrefused htell hout)
    rcases hrest with ⟨-, haccept, -⟩ | ⟨validator, ended, hsome, hvalidate, hended⟩
    · obtain ⟨rfl, -⟩ := Prod.mk.inj (Except.ok.inj haccept)
      exact nomatch hvalid
    cases ended with
    | error g => exact nomatch hended
    | ok given =>
      obtain ⟨rfl, rfl⟩ := Prod.mk.inj (Except.ok.inj hended)
      exact .rejected hproduce hreads hnoted hsome hvalidate hvalid htell hout

/-- What an attempt at the gate accepts has the structure that was asked for, and bears the reading of it unless the
validator has another one noted. -/
theorem Round.Gated.reads_of_valid {verdict : Verdict} {content : Content}
    (h : r.Gated src w s spec model) (hout : r.outcome = .ok (verdict, content))
    (hvalid : verdict.isValid = true) :
    ∃ out parsed, content = .output out ∧ Reads model out parsed ∧
      ((∀ v ∈ src.policy.validator, ∀ text s, (v.judge text s).Keeps State.readings) →
        out.reading r.left.readings = some parsed) := by
  have hreads' : ∀ {out noted : Output} {parsed : Value} {st st₁ : State σ}, Reads model out parsed →
      Noted out parsed st noted st₁ → Reads model noted parsed := by
    rintro out noted parsed st st₁ ⟨data, hdata, hread⟩ hnoted
    exact ⟨data, hnoted.structured.trans hdata, hread⟩
  cases h with
  | unproduced _ hend => exact nomatch hout.symm.trans hend
  | unjudged _ _ _ _ _ hend => exact nomatch hout.symm.trans hend
  | refused h =>
    obtain ⟨-, -, -, hend⟩ := h
    rename_i told
    cases told with
    | error f => exact nomatch hout.symm.trans hend
    | ok u =>
      obtain ⟨rfl, -⟩ := Prod.mk.inj (Except.ok.inj (hout.symm.trans hend))
      exact nomatch hvalid
  | unvalidated _ hreads hnoted _ hend =>
    obtain ⟨-, rfl⟩ := Prod.mk.inj (Except.ok.inj (hout.symm.trans hend))
    exact ⟨_, _, rfl, hreads' hreads hnoted, fun _ => hnoted.reading⟩
  | @accepted out noted _ _ checked validator _ _ hreads hnoted hsome hjudge _ hend =>
    obtain ⟨-, rfl⟩ := Prod.mk.inj (Except.ok.inj (hout.symm.trans hend))
    refine ⟨_, _, rfl, hreads' hreads hnoted, fun hkeeps => ?_⟩
    have hkept : ((validator.judge out.content s).exec w checked).2.readings = checked.readings :=
      hkeeps validator hsome out.content s w checked
    rw [hjudge] at hkept
    rw [show r.left.readings = checked.readings from hkept]
    exact hnoted.reading
  | @rejected _ _ _ _ _ _ _ _ told _ _ _ _ _ hinvalid _ hend =>
    cases told with
    | error f => exact nomatch hout.symm.trans hend
    | ok u =>
      obtain ⟨rfl, -⟩ := Prod.mk.inj (Except.ok.inj (hout.symm.trans hend))
      exact nomatch hinvalid.symm.trans hvalid

/-! ### Runs -/

/-- A refused answer is followed by another attempt, or the run ends with it: after the last attempt allowed as a
rejection, and otherwise with the failure of a middleware that was told of it. -/
theorem Round.Refused.follows {limit : Nat} {trials : List (Round σ)} {last : Round σ}
    (hchain : (src.rounds w s).Chain limit 1 none trials) (hlast : trials.getLast? = some last)
    (hraise : src.policy.raiseOnFailure = true) {k : Nat} (hk : k < trials.length) {instruction : String}
    (h : trials[k].Refused src w s spec model instruction) :
    (∃ hnext : k + 1 < trials.length, trials[k + 1].feedback = some instruction) ∨
      (k + 1 = limit ∧ last.answer src = (.error (.rejected s!"Validation failed after {
        (src.policy.maxAttempts : Int)} attempt(s): {instruction}" (some instruction)
          src.policy.maxAttempts), trials[k].left)) ∨
      ∃ f st₁, (src.rejection s trials[k].feedback).exec w st₁ = (.error f, trials[k].left) ∧
        last.answer src = (.error f, trials[k].left) := by
  obtain ⟨-, -, htell, hend⟩ := h
  rename_i told
  have hstays : k + 1 = trials.length → last = trials[k] := by
    intro hlength
    rw [List.getLast?_eq_getElem?, ← hlength, Nat.add_sub_cancel, List.getElem?_eq_getElem hk] at hlast
    exact (Option.some.inj hlast).symm
  by_cases hnext : k + 1 < trials.length
  · -- The next attempt is given the instruction.
    refine .inl ⟨hnext, ?_⟩
    obtain ⟨-, verdict, content, hrejected, -⟩ := (hchain.continues k hk).1 hnext
    rw [feedback_succ hchain hnext, Round.instruction, hend]
    cases told with
    | error f => cases hrejected.symm.trans hend
    | ok u => rfl
  obtain rfl := hstays (by omega)
  cases told with
  | error f =>
    refine .inr (.inr ⟨f, _, htell, ?_⟩)
    rw [Round.answer, hend]
    rfl
  | ok u =>
    have hrejected : trials[k].IsRejected := ⟨_, _, hend, rfl⟩
    have hlimit : k + 1 = limit := by
      have hle := hchain.length_le
      have hmore : ¬k + 1 < limit := fun hlt => hnext ((hchain.continues k hk).2 ⟨hlt, hrejected⟩)
      omega
    refine .inr (.inl ⟨hlimit, ?_⟩)
    rw [Round.answer, hend]
    show (if false = true then _ else _) = _
    rw [if_neg Bool.false_ne_true, if_pos hraise]
    rfl

/-- **Only answers in the structure are handed out.**  A source whose model has to answer in a structure, whatever that
is read by, makes a chain of attempts.  As far as what was planted are outputs, each attempt goes through the gate, by
which the validator is only asked about answers that could be read.  Content that is handed out is an output with a
structure, and with the reading of exactly that if the validator leaves readings alone.  An answer whose structure is
missing or cannot be read is refused with an instruction that names the function: the instruction is the feedback of
the next attempt, or the run ends as rejected after the last attempt allowed, if it does not end with the failure of a
middleware that was told of the refusal. -/
theorem getContent_structured (hasks : src.AsksFor spec model)
    (hraise : src.policy.raiseOnFailure = true) (s : Session) (w : Surroundings σ) (st : State σ) :
    ∃ trials last, (src.rounds w s).Chain src.policy.maxAttempts 1 none trials ∧
      (∀ r ∈ trials.head?, r.entered = st) ∧ trials.getLast? = some last ∧
      (src.getContent s).exec w st = last.answer src ∧
      ((∀ r ∈ trials, r.PlantsOutputs src w s) →
        (∀ r ∈ trials, r.Gated src w s spec model) ∧
        (∀ content st', (src.getContent s).exec w st = (.ok content, st') →
          ∃ out parsed, content = .output out ∧ Reads model out parsed ∧
            ((∀ v ∈ src.policy.validator, ∀ text s, (v.judge text s).Keeps State.readings) →
              out.reading st'.readings = some parsed)) ∧
        ∀ k (hk : k < trials.length) instruction, trials[k].Refused src w s spec model instruction →
          Text.holds instruction spec.name = true ∧
          ((∃ hnext : k + 1 < trials.length, trials[k + 1].feedback = some instruction) ∨
            (k + 1 = src.policy.maxAttempts ∧ (src.getContent s).exec w st =
              (.error (.rejected s!"Validation failed after {(src.policy.maxAttempts : Int)} attempt(s): {
                instruction}" (some instruction) src.policy.maxAttempts), trials[k].left)) ∨
            ∃ f st₁, (src.rejection s trials[k].feedback).exec w st₁ = (.error f, trials[k].left) ∧
              (src.getContent s).exec w st = (.error f, trials[k].left))) := by
  obtain ⟨trials, last, hchain, hentered, hlast, hanswer⟩ := getContent_gate src s w st
  refine ⟨trials, last, hchain, hentered, hlast, hanswer, fun hplants => ?_⟩
  have hgated : ∀ r ∈ trials, r.Gated src w s spec model := by
    intro r hr
    obtain ⟨k, hk, rfl⟩ := List.getElem_of_mem hr
    exact gated_of_ends hasks (hplants _ hr) (hchain.starts k hk).2
  refine ⟨hgated, fun content st' hcontent => ?_, fun k hk instruction hrefused => ?_⟩
  · obtain ⟨verdict, hout⟩ := Round.outcome_of_answer (hanswer.symm.trans hcontent)
    rw [Round.answer, hout, hcontent] at hanswer
    dsimp only at hanswer
    -- A rejection would have been raised.
    have hvalid : verdict.isValid = true := by
      by_contra hinvalid
      rw [if_neg hinvalid, if_pos hraise] at hanswer
      cases (Prod.mk.inj hanswer).1
    rw [if_pos hvalid] at hanswer
    obtain ⟨out, parsed, hcontent, hreads, hreading⟩ :=
      (hgated last (List.mem_of_getLast? hlast)).reads_of_valid hout hvalid
    rw [← (Prod.mk.inj hanswer).2] at hreading
    exact ⟨out, parsed, hcontent, hreads, hreading⟩
  · obtain ⟨-, hnames, -, -⟩ := id hrefused
    rw [hanswer]
    exact ⟨hnames.names, hrefused.follows hchain hlast hraise hk⟩

/-! ### A source that asks for a verdict -/

/-- The shape of a verdict. -/
def verdictShape : Shape := .record "Verdict" [("label", .text, none), ("score", .integer, none)]

def verdictSpec : StructureSpec where
  name := "judge"
  jsonSchema := verdictShape.document
  model := some verdictShape.dataModel

/-- A good verdict. -/
def verdictGood : Output where
  content := .str "good"
  structured := some [("label", .str "fine"), ("score", .str "7")]
  object := some 2

/-- Answers without a structure, with a misshapen one, with one under a text that is banned, and with a good one. -/
def verdictReplies : List Response := [
  .value (.str "fine"),
  .output { structured := some [("label", .str "fine")], object := some 0 },
  .output { content := .str "bad", structured := some [("label", .str "poor"), ("score", .int 3)], object := some 1 },
  .output verdictGood]

/-- Access to a model that answers with some replies and has to answer in some structure. -/
def verdictAccess (spec : StructureSpec) (replies : List Response) : ModelAccess Unit where
  options := { structured := some spec }
  backend := some (.scripted 0 replies)
  attached := 1
  budget := { cell := 2 }

/-- A source that asks for a verdict up to four times, and accepts no text with a certain word in it. -/
def verdictSource : Source Unit where
  origin := .model (verdictAccess verdictSpec verdictReplies)
  policy := {
    validator := some (.keywords [] ["bad"] true "")
    maxAttempts := 4 }

/-- The fourth answer is handed out, with its reading. -/
theorem getContent_structured_verdict : ∃ out parsed st',
    (verdictSource.getContent {}).exec (.alone Unit) { host := () } = (.ok (.output out), st') ∧
      Reads verdictShape.dataModel out parsed ∧ out.reading st'.readings = some parsed ∧
      (st'.asked.get 0).length = 4 := by
  obtain ⟨trials, last, -, -, -, -, hlaw⟩ := getContent_structured
    (⟨_, rfl, rfl, rfl⟩ : verdictSource.AsksFor verdictSpec verdictShape.dataModel) rfl {} (.alone Unit)
    { host := () }
  have hplants : verdictSource.policy.pipeline.PlantsNothing := by
    constructor <;> exact fun m hm => nomatch hm
  obtain ⟨-, hreads, -⟩ := hlaw fun r _ => plantsOutputs_of_plantsNothing hplants r
  have hkeeps : ∀ v ∈ verdictSource.policy.validator, ∀ text s, (v.judge text s).Keeps State.readings := by
    rintro v ⟨⟩ text s
    exact Run.keeps_iff_maintains.2 fun readings =>
      Validator.maintains_judge _ (fun f hf => absurd hf List.not_mem_nil) text s
  have hok : ((verdictSource.getContent {}).exec (.alone Unit) { host := () }).1.isOk = true := by
    decide +kernel
  have hcalls : (((verdictSource.getContent {}).exec (.alone Unit) { host := () }).2.asked.get 0).length =
      4 := by
    decide +kernel
  rcases hrun : (verdictSource.getContent {}).exec (.alone Unit) { host := () } with ⟨f | content, st'⟩
  · rw [hrun] at hok
    exact nomatch hok
  · obtain ⟨out, parsed, rfl, hread, hparsed⟩ := hreads content st' hrun
    rw [hrun] at hcalls
    exact ⟨out, parsed, st', rfl, hread, hparsed hkeeps, hcalls⟩

/-- A source with a middleware, whose model only answers without a structure. -/
def baldSource (m : Middleware Unit) : Source Unit where
  origin := .model (verdictAccess verdictSpec [.value (.str "fine")])
  policy := { pipeline := ⟨[m]⟩, maxAttempts := 2, maxAttempts_pos := Nat.two_pos }

/-- Middleware that fails to transform what it is given. -/
def failsToTransform : Middleware Unit where
  transform _ _ := throw (.fault .badValue "no")

/-- Middleware that fails when it is told of a rejection. -/
def failsWhenTold : Middleware Unit where
  onRejected _ := throw (.fault .badValue "no")

/-- What reads every structure as one text. -/
def readAs (text : String) : DataModel where
  read _ := .ok (.str text)
  document := []

/-- A source whose validator asks another source, which is given the same output and reads it in its own way. -/
def rereadSource : Source Unit where
  origin := .model (verdictAccess { jsonSchema := [], model := some (readAs "mine") } [.output verdictGood])
  policy := {
    validator := some (.function (fun _ s => do
      let other : Source Unit := {
        origin := .model (verdictAccess { jsonSchema := [], model := some (readAs "other") } [.output verdictGood])
        policy := {} }
      let _ ← other.getContent s
      return .value (.bool true)) "") }

/-- The text of what content is read as that was handed out. -/
def readingText? : Except Failure Content × State Unit → Option String
  | (.ok (.output out), st) => (out.reading st.readings).map (·.text)
  | _ => none

theorem exists_reading_of_text {ended : Except Failure Content × State Unit} {text : String}
    (h : readingText? ended = some text) : ∃ out st parsed, ended = (.ok (.output out), st) ∧
      out.reading st.readings = some parsed ∧ parsed.text = text := by
  rcases ended with ⟨f | v | out, st⟩
  · cases h
  · cases h
  · obtain ⟨parsed, hparsed, htext⟩ := Option.map_eq_some_iff.1 h
    exact ⟨out, st, parsed, rfl, hparsed, htext⟩

/-- An answer without a structure need not be followed by another attempt: a middleware that fails to transform it, or
that fails when it is told of the refusal, ends the run after the first attempt of two.  And the reading of what is
handed out need not be that of the source: the validator can have another one noted. -/
theorem structure_unrefused_and_reread :
    (∀ m, m = failsToTransform ∨ m = failsWhenTold →
      (∃ f, (((baldSource m).getContent {}).exec (.alone Unit) { host := () }).1 = .error f ∧ f.text = "no") ∧
      ((((baldSource m).getContent {}).exec (.alone Unit) { host := () }).2.asked.get 0).length = 1) ∧
    ∃ out st' parsed, (rereadSource.getContent {}).exec (.alone Unit) { host := () } = (.ok (.output out), st') ∧
      out.reading st'.readings = some parsed ∧ ¬Reads (readAs "mine") out parsed := by
  refine ⟨?_, ?_⟩
  · rintro m (rfl | rfl)
    · exact ⟨Run.exists_error_of_failureText (by decide +kernel), by decide +kernel⟩
    · exact ⟨Run.exists_error_of_failureText (by decide +kernel), by decide +kernel⟩
  have hother : readingText? ((rereadSource.getContent {}).exec (.alone Unit) { host := () }) = some "other" := by
    decide +kernel
  obtain ⟨out, st', parsed, hrun, hparsed, htext⟩ := exists_reading_of_text hother
  refine ⟨out, st', parsed, hrun, hparsed, ?_⟩
  rintro ⟨data, -, hread⟩
  obtain rfl : .str "mine" = parsed := Except.ok.inj hread
  exact absurd htext (by decide)

end Colloquy.Source
