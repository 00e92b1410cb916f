import Colloquy.Proofs.Pipeline.Trace
import Colloquy.Proofs.Source.Gate

/-!
# Where content comes from

Content that is handed out is what the last of the attempts at it has led to, and the response that this attempt goes
back to was made in the last of its passes through the pipeline.  A `Delivery` names both.  If no middleware transforms
texts, the response itself is handed out, but for what the structure of an output is read as (`exists_delivery`), and a
call that was made in the last pass has answered that response (`Brackets.ended_of_ok`).
-/

namespace Colloquy

variable {σ : Type} {w : Surroundings σ}

/-! ### The last pass -/

namespace Pipeline

variable {call : Context → Run σ Content} {p : Pipeline σ} {policy : RetryPolicy σ} {ctx : Context} {v : Content}
  {c : Call} {a : Pass σ} {st st' : State σ}

/-- The response of passes is that of the last of them. -/
theorem Passes.last {left number : Nat} {current : Context} {previous : Option Failure} {passes : List (Pass σ)}
    (h : Passes call w p policy left number current previous st passes (.ok v, st')) :
    ∃ a start, passes.getLast? = some a ∧ a.Happens call w p start ∧ a.outcome = .ok v ∧ a.left = st' := by
  generalize hres : (Except.ok v, st') = res at h
  induction h with
  | done ha hok =>
    obtain ⟨hv, rfl⟩ := Prod.mk.inj hres
    exact ⟨_, _, rfl, ha, hv ▸ hok, rfl⟩
  | stopped _ _ _ => exact nomatch (Prod.mk.inj hres).1
  | again _ _ _ _ ih =>
    obtain ⟨b, start, hlast, hb⟩ := ih hres
    exact ⟨b, start, by rw [List.getLast?_cons, hlast, Option.getD_some], hb⟩

/-- A call that was made in an attempt with a response has answered this response. -/
theorem Brackets.ended_of_ok {t : Trace σ} (h : Brackets p ctx t (.ok v)) (hcall : t.call = some c) :
    c.ended = .ok v := by
  rcases h.afters with ⟨-, f, hf⟩ | ⟨c', u, -, hresponds, -, houtcome⟩
  · exact nomatch hf
  rcases hresponds with ⟨-, hmade⟩ | ⟨-, hnone, -⟩
  · obtain rfl := Option.some.inj (hcall.symm.trans hmade)
    rcases hafters : relayed { c' with result := u } t.afters with f | c''
    · rw [hafters] at houtcome
      exact nomatch houtcome
    · rw [hafters] at houtcome
      exact houtcome.symm
  · exact nomatch hcall.symm.trans hnone

/-- A call was made in a pass between two states: the hooks before it lead to the first of them, and what was called
after it begins in the second one. -/
structure Pass.Calls (call : Context → Run σ Content) (w : Surroundings σ) (a : Pass σ) (c : Call)
    (asked answered : State σ) : Prop where
  befores : Walks call w (a.trace.befores.map .before) a.entered asked
  run : (call c.given).exec w asked = (c.ended, answered)
  rest : Walks call w (a.trace.afters.map .after ++ a.trace.offers.map .offer) answered a.left

theorem Pass.Happens.calls (h : a.Happens call w p ctx) (hcall : a.trace.call = some c) :
    ∃ asked answered, a.Calls call w c asked answered := by
  have hwalks := h.walks
  rw [Trace.visits, Trace.work, hcall, List.append_assoc, List.append_assoc] at hwalks
  obtain ⟨asked, hbefores, hwalks⟩ := hwalks.split
  obtain ⟨answered, hmade, hrest⟩ := hwalks.split
  cases hmade with
  | cons hrun hnil =>
    cases hnil
    exact ⟨asked, _, hbefores, hrun, hrest⟩

/-! ### Planted responses -/

/-- No middleware plants a response: the hooks before the call leave the mark of one as it is, and no context that
a failure is mended with bears it. -/
structure PlantsNothing (p : Pipeline σ) : Prop where
  before : ∀ m ∈ p.middlewares, ∀ ctx, (m.before ctx).Ensures fun c => c.usesCache = ctx.usesCache
  onError : ∀ m ∈ p.middlewares, ∀ ctx f, (m.onError ctx f).Ensures fun mended => ∀ c ∈ mended, c.usesCache = false

theorem Pass.Happens.usesCache_befores {c : Context} (hp : p.PlantsNothing) (h : a.Happens call w p ctx)
    (hended : relayed ctx a.trace.befores = .ok c) : c.usesCache = ctx.usesCache := by
  refine h.brackets.befores.keeps (fun t ht c hc => ?_) hended
  have hmem : t.middleware ∈ p.middlewares := h.brackets.befores.order.subset (List.mem_map_of_mem ht)
  exact h.of_before ht (hp.before _ hmem t.given) hc

theorem Pass.Happens.usesCache_mended {f : Failure} {current : Context} (hp : p.PlantsNothing)
    (h : a.Happens call w p ctx) (hf : a.outcome = .error f) (hcurrent : current.usesCache = false) :
    ((a.setback f).mended.getD current).usesCache = false := by
  have hoffered := h.offered f hf
  unfold Pass.setback
  cases hsettled : a.settled with
  | error g => exact hcurrent
  | ok mended =>
    cases mended with
    | none => exact hcurrent
    | some c =>
      -- The context is the answer of the last middleware that was offered the failure.
      have hlast := hoffered.ended_eq
      rw [hsettled] at hlast
      cases ho : a.trace.offers.getLast? with
      | none =>
        rw [ho] at hlast
        exact nomatch hlast
      | some o =>
        rw [ho] at hlast
        have hmem : o ∈ a.trace.offers := List.mem_of_getLast? ho
        have hvisit : Visit.offer o ∈ a.trace.visits := by simp [Trace.visits, hmem]
        obtain ⟨s, s', s₁, hexec, -⟩ := h.walks.happens _ hvisit
        have hmiddleware : o.middleware ∈ p.middlewares := hoffered.order.subset (List.mem_map_of_mem hmem)
        rw [← show Except.ok (some c) = o.ended from hlast] at hexec
        exact hp.onError _ hmiddleware o.given o.failure w s (some c) s₁ hexec c rfl

/-- If nothing is planted, a response is that of a call. -/
theorem Passes.called (hp : p.PlantsNothing) {left number : Nat} {current : Context} {previous : Option Failure}
    {passes : List (Pass σ)} (hcurrent : current.usesCache = false)
    (h : Passes call w p policy left number current previous st passes (.ok v, st')) :
    ∀ a ∈ passes.getLast?, ∃ c, a.trace.call = some c := by
  generalize hres : (Except.ok v, st') = res at h
  induction h with
  | done ha hok =>
    rintro _ ⟨⟩
    refine Option.ne_none_iff_exists'.1 fun hnone => ?_
    obtain ⟨c, hended, hmark, -⟩ := (hok ▸ ha.brackets).replayed_of_ok hnone
    rw [ha.usesCache_befores hp hended] at hmark
    exact absurd (hmark.symm.trans hcurrent) (by decide)
  | stopped _ _ _ => exact nomatch (Prod.mk.inj hres).1
  | again ha hf _ hrest ih =>
    subst hres
    obtain ⟨b, -, hlast, -⟩ := hrest.last
    rw [List.getLast?_cons, hlast, Option.getD_some]
    exact hlast ▸ ih (ha.usesCache_mended hp hf hcurrent) rfl

end Pipeline

/-! ### Deliveries -/

namespace Source

variable {src : Source σ} {s : Session} {feedback : Option String} {st st₁ st' : State σ} {content : Content}

/-- The attempts at content, those at a call in the last of them, and the response. -/
structure Delivery (σ : Type) where
  trials : List (Round σ)
  round : Round σ
  passes : List (Pipeline.Pass σ)
  pass : Pipeline.Pass σ
  response : Content

/-- The call of the generator in an attempt. -/
def callFor (src : Source σ) (feedback : Option String) (ctx : Context) : Run σ Content :=
  generate src.origin ctx.session feedback

/-- A source that is asked about a session makes these attempts and calls, and gets this response. -/
structure Delivers (src : Source σ) (w : Surroundings σ) (s : Session) (st : State σ) (d : Delivery σ) : Prop where
  trials : (src.rounds w s).Chain src.policy.maxAttempts 1 none d.trials
  entered : ∀ r ∈ d.trials.head?, r.entered = st
  round : d.trials.getLast? = some d.round
  passes : ∃ count st₁, src.policy.retry.attempts = .ok count ∧
    Pipeline.Passes (src.callFor d.round.feedback) w src.policy.pipeline src.policy.retry (count - 1) 1
      (src.contextFor s d.round.feedback) none d.round.entered d.passes (.ok d.response, st₁)
  pass : d.passes.getLast? = some d.pass

theorem passes_of_response {raw : Content} (h : (src.response s feedback).exec w st = (.ok raw, st₁)) :
    ∃ count passes, src.policy.retry.attempts = .ok count ∧
      Pipeline.Passes (src.callFor feedback) w src.policy.pipeline src.policy.retry (count - 1) 1
        (src.contextFor s feedback) none st passes (.ok raw, st₁) := by
  rw [response, Pipeline.execute] at h
  cases hcount : src.policy.retry.attempts with
  | error f =>
    rw [hcount, Run.exec_bind_error _ (Run.exec_ofExcept _)] at h
    cases (Prod.mk.inj h).1
  | ok count =>
    rw [hcount, Run.exec_bind_ok _ (Run.exec_ofExcept _)] at h
    obtain ⟨passes, hpasses⟩ := Pipeline.exists_passes (src.callFor feedback) w src.policy.pipeline
      src.policy.retry (count - 1) 1 (src.contextFor s feedback) none st
    have hrun : (Pipeline.attempts src.policy.pipeline (src.callFor feedback) src.policy.retry (count - 1) 1
      (src.contextFor s feedback) none).exec w st = (.ok raw, st₁) := h
    rw [hrun] at hpasses
    exact ⟨count, passes, rfl, hpasses⟩

theorem Judges.bare_eq {candidate : Content} {verdict : Verdict}
    (h : src.Judges w s candidate st (.ok (verdict, content)) st') : content.bare = candidate.bare := by
  generalize hout : (Except.ok (verdict, content) : Except Failure (Verdict × Content)) = outcome at h
  cases h with
  | refused hinspect _ =>
    obtain ⟨-, rfl⟩ := Prod.mk.inj (Except.ok.inj hout)
    exact hinspect.bare_eq
  | unvalidated hinspect _ _ =>
    obtain ⟨-, rfl⟩ := Prod.mk.inj (Except.ok.inj hout)
    exact hinspect.bare_eq
  | @validated _ _ _ _ _ outcome hinspect _ _ _ =>
    cases outcome with
    | error f => exact nomatch hout
    | ok verdict =>
      obtain ⟨-, rfl⟩ := Prod.mk.inj (Except.ok.inj hout)
      exact hinspect.bare_eq

/-- If no middleware plants a response, that of a source is the answer of a call. -/
theorem Delivers.called {d : Delivery σ} (hp : src.policy.pipeline.PlantsNothing) (h : src.Delivers w s st d) :
    ∃ c, d.pass.trace.call = some c := by
  obtain ⟨count, st₁, -, hpasses⟩ := h.passes
  exact hpasses.called hp (usesCache_contextFor src s d.round.feedback) d.pass h.pass

/-- What an attempt that was judged has come to is its candidate, but for what its structure was read as. -/
theorem Ends.candidate {verdict : Verdict} (h : src.Ends w s feedback st (.ok (verdict, content)) st') :
    ∃ candidate st₁, src.Produces w s feedback st candidate st₁ ∧ content.bare = candidate.bare := by
  generalize hout : (Except.ok (verdict, content) : Except Failure (Verdict × Content)) = outcome at h
  cases h with
  | unproduced _ => exact nomatch hout
  | unjudged _ _ => exact nomatch hout
  | accepted hproduce hjudge _ =>
    obtain ⟨-, rfl⟩ := Prod.mk.inj (Except.ok.inj hout)
    exact ⟨_, _, hproduce, hjudge.bare_eq⟩
  | @rejected _ _ _ _ _ _ told hproduce hjudge _ _ =>
    cases told with
    | error f => exact nomatch hout
    | ok u =>
      obtain ⟨-, rfl⟩ := Prod.mk.inj (Except.ok.inj hout)
      exact ⟨_, _, hproduce, hjudge.bare_eq⟩

/-- Content that is handed out was judged in the last attempt. -/
theorem Round.outcome_of_answer {r : Round σ} (h : r.answer src = (.ok content, st')) :
    ∃ verdict, r.outcome = .ok (verdict, content) := by
  unfold Round.answer at h
  cases hout : r.outcome with
  | error f =>
    rw [hout] at h
    exact nomatch (Prod.mk.inj h).1
  | ok judged =>
    obtain ⟨verdict, c⟩ := judged
    rw [hout] at h
    dsimp only at h
    split_ifs at h
    · exact ⟨verdict, by rw [Except.ok.inj (Prod.mk.inj h).1]⟩
    · exact nomatch (Prod.mk.inj h).1
    · exact ⟨verdict, by rw [Except.ok.inj (Prod.mk.inj h).1]⟩

/-- No middleware of a source transforms texts. -/
def LeavesTexts (src : Source σ) : Prop :=
  ∀ m ∈ src.policy.pipeline.middlewares, ∀ content ctx, (m.transform content ctx).Ensures (· = content)

theorem LeavesTexts.transformation (h : src.LeavesTexts) (s : Session) (feedback : Option String) (raw : Content) :
    (src.transformation s feedback raw).Ensures (· = .plain raw.text) := by
  refine .foldlM (fun m hm content hcontent => ?_) rfl
  rw [← hcontent]
  exact h m hm content _

/-- **Where content comes from.**  Content that a source hands out without transforming it is the response of its last
pass, but for what its structure was read as. -/
theorem exists_delivery (hleave : src.LeavesTexts) (h : (src.getContent s).exec w st = (.ok content, st')) :
    ∃ d, src.Delivers w s st d ∧ content.bare = d.response.bare ∧
      ∃ start, d.pass.Happens (src.callFor d.round.feedback) w src.policy.pipeline start ∧
        d.pass.outcome = .ok d.response := by
  obtain ⟨trials, round, hchain, hentered, hlast, hanswer⟩ := getContent_gate src s w st
  rw [h] at hanswer
  obtain ⟨verdict, hout⟩ := Round.outcome_of_answer hanswer.symm
  have hends : src.Ends w s round.feedback round.entered round.outcome round.left := by
    obtain ⟨k, hk, rfl⟩ := List.getElem_of_mem (List.mem_of_getLast? hlast)
    exact (hchain.starts k hk).2
  rw [hout] at hends
  obtain ⟨candidate, st₁, ⟨raw, generated, transformed, hresponse, htransform, hretexts⟩, hcontent⟩ := hends.candidate
  obtain rfl := hleave.transformation s round.feedback raw w generated transformed st₁ htransform
  have hbare : content.bare = raw.bare := hcontent.trans hretexts.bare_eq
  obtain ⟨count, passes, hcount, hpasses⟩ := passes_of_response hresponse
  obtain ⟨pass, start, hpass, hhappens, houtcome, -⟩ := hpasses.last
  exact ⟨⟨trials, round, passes, pass, raw⟩,
    ⟨hchain, hentered, hlast, ⟨count, generated, hcount, hpasses⟩, hpass⟩, hbare, start, hhappens, houtcome⟩

end Source

end Colloquy
