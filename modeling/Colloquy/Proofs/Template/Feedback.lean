import Colloquy.Proofs.Parallel.Sequence
import Colloquy.Proofs.Source.Feedback
import Colloquy.Proofs.Template.ToolRound

/-!
# Feedback stays between a source and its model

A template that adds what a source hands out (`Template.Draws`) asks the source for content on its own session, and
adds to this session what the content amounts to, and nothing else (`exec_of_draws`).  The sessions that were prepared
with feedback for the model are forgotten by then.

`feedback_reaches_model` puts this together with what the backend is asked and what is shown meanwhile: an instruction
is found by the model in the one attempt that follows it, and neither by observers nor in the conversation.
-/

namespace Colloquy

variable {σ : Type} {w : Surroundings σ} {st st' : State σ} {s s' : Session} {content : Content}

/-! ### Added messages -/

/-- The messages that content amounts to in a role.  Only with those of the assistant come the results of tools. -/
def Content.messagesIn (role : Role) (c : Content) (w : Surroundings σ) : Except Failure (List Message) :=
  match role with
  | .assistant => c.messages w
  | role =>
    match c.toOutput with
    | .error issues => .error (.ofIssues w.wording "ModelOutput" issues)
    | .ok out =>
      match Checked.within "content" (Check.text out.content) with
      | .error issues => .error (.ofIssues w.wording "Message" issues)
      | .ok content => .ok [{ role, content }]

theorem Run.eq_ok_of_ofChecked {α : Type} {record : String} {x : Checked α} {a : α}
    (h : (Run.ofChecked record x).exec w st = (.ok a, st')) : x = .ok a ∧ st' = st := by
  cases x with
  | ok b =>
    obtain ⟨hb, hst⟩ := Prod.mk.inj h
    exact ⟨congrArg Except.ok (Except.ok.inj hb), hst.symm⟩
  | error issues => exact nomatch (Prod.mk.inj h).1

namespace Session

/-- A session goes on with messages, which are shown as it is set to. -/
structure GoesOn (s s' : Session) (ms : List Message) (st st' : State σ) : Prop where
  adds : s.ExtendsBy s' ms
  shows : ∀ target, st'.echoes target = st.echoes target ++ s.shown target ms

theorem goesOn_of_addAll {ms : List Message} (h : (s.addAll ms).exec w st = (.ok s', st')) :
    s.GoesOn s' ms st st' := by
  obtain ⟨st₁, hexec, hechoes⟩ := s.exec_addAll ms w st
  obtain ⟨hs, rfl⟩ := Prod.mk.inj (h.symm.trans hexec)
  obtain rfl := Except.ok.inj hs
  exact ⟨s.extendsBy_extend ms, hechoes⟩

theorem goesOn_of_appendText {role : Role} (hrole : role ≠ .assistant)
    (h : (s.appendText role content).exec w st = (.ok s', st')) :
    ∃ ms, content.messagesIn role w = .ok ms ∧ s.GoesOn s' ms st st' := by
  obtain ⟨out, st₁, hread, hrest⟩ := Run.exec_of_bind_ok h
  obtain ⟨hout, rfl⟩ := Run.eq_ok_of_ofChecked hread
  obtain ⟨text, st₂, hchecked, hadd⟩ := Run.exec_of_bind_ok hrest
  obtain ⟨htext, rfl⟩ := Run.eq_ok_of_ofChecked hchecked
  rw [← addAll_singleton] at hadd
  refine ⟨[{ role, content := text }], ?_, goesOn_of_addAll hadd⟩
  cases role with
  | assistant => exact absurd rfl hrole
  | system => simp only [Content.messagesIn, hout, htext]
  | user => simp only [Content.messagesIn, hout, htext]
  | toolResult => simp only [Content.messagesIn, hout, htext]

/-- Results that were added could be written. -/
theorem exists_messages_of_appendResults {rs : List ToolResult}
    (h : (s.appendResults rs).exec w st = (.ok s', st')) : ∃ ms, rs.mapM ToolResult.message = .ok ms := by
  induction rs generalizing s st with
  | nil => exact ⟨[], rfl⟩
  | cons r rest ih =>
    obtain ⟨m, st₁, hwritten, hrest⟩ := Run.exec_of_bind_ok h
    rw [Run.exec_ofExcept] at hwritten
    obtain ⟨s₁, st₂, -, hothers⟩ := Run.exec_of_bind_ok hrest
    obtain ⟨ms, hms⟩ := ih hothers
    refine ⟨m :: ms, ?_⟩
    rw [List.mapM_cons, (Prod.mk.inj hwritten).1, hms]
    rfl

theorem goesOn_of_appendOutput (h : (s.appendOutput content).exec w st = (.ok s', st')) :
    ∃ ms, content.messages w = .ok ms ∧ s.GoesOn s' ms st st' := by
  have hmessages : ∃ ms, content.messages w = .ok ms := by
    obtain ⟨out, st₁, hread, hrest⟩ := Run.exec_of_bind_ok h
    obtain ⟨hout, rfl⟩ := Run.eq_ok_of_ofChecked hread
    obtain ⟨m, st₂, hchecked, hadd⟩ := Run.exec_of_bind_ok hrest
    obtain ⟨hm, rfl⟩ := Run.eq_ok_of_ofChecked hchecked
    obtain ⟨s₁, st₃, -, hresults⟩ := Run.exec_of_bind_ok hadd
    obtain ⟨ms, hms⟩ := exists_messages_of_appendResults hresults
    exact ⟨m :: ms, by simp only [Content.messages, hout, hm, hms, Except.map]⟩
  obtain ⟨ms, hms⟩ := hmessages
  rw [appendOutput_eq hms] at h
  exact ⟨ms, hms, goesOn_of_addAll h⟩

end Session

/-! ### Templates that draw on a source -/

namespace Template

/-- A template adds what a source hands out, in a role; the source may be a default one around it. -/
inductive Draws (outer : Defaults σ) (src : Source σ) : Template σ → Role → Prop
  | system : Draws outer src (.system src) .system
  | user {source : Option (Source σ)} (h : source.or outer.user = some src) :
      Draws outer src (.user source) .user
  | assistant {source : Option (Source σ)} (h : source.or outer.assistant = some src) (extract : Extract) :
      Draws outer src (.assistant source extract) .assistant

variable {outer scope : Defaults σ} {src : Source σ} {t : Template σ} {role : Role}

theorem goesOn_of_runAssistant {extract : Extract}
    (h : (runAssistant (some src) extract s).exec w st = (.ok s', st')) :
    ∃ content left ms, (src.getContent s).exec w st = (.ok content, left) ∧ content.messages w = .ok ms ∧
      s.GoesOn s' ms left st' := by
  obtain ⟨content, left, hcontent, hread⟩ := Run.exec_of_bind_ok h
  obtain ⟨out, st₁, hout, hadd⟩ := Run.exec_of_bind_ok hread
  obtain ⟨-, rfl⟩ := Run.eq_ok_of_ofChecked hout
  obtain ⟨s₁, st₂, happend, hvars⟩ := Run.exec_of_bind_ok hadd
  obtain ⟨ms, hms, hgoes⟩ := Session.goesOn_of_appendOutput happend
  refine ⟨content, st₁, ms, hcontent, hms, ?_⟩
  cases hdata : out.structured with
  | none =>
    rw [hdata] at hvars
    obtain ⟨hs, rfl⟩ := Prod.mk.inj hvars
    rw [← Except.ok.inj hs]
    exact hgoes
  | some data =>
    rw [hdata] at hvars
    obtain ⟨hs, rfl⟩ := Prod.mk.inj hvars
    rw [← Except.ok.inj hs]
    split_ifs
    · -- Vars are all that comes with the structure of an output.
      have hvars := hgoes.adds.trans (Session.extendsBy_withVars s₁ (extract.vars data))
      rw [List.append_nil] at hvars
      exact ⟨hvars, hgoes.shows⟩
    · exact hgoes

/-- **What a template adds.**  If a template that draws on a source ends, then the source has handed out content for the
session of the template, and what this content amounts to is added to the session, and shown as it is set to. -/
theorem exec_of_draws (ht : t.Draws outer src role) (h : (t.run s).exec w outer st = (.ok s', scope, st')) :
    ∃ content left ms, (src.getContent s).exec w st = (.ok content, left) ∧
      content.messagesIn role w = .ok ms ∧ s.GoesOn s' ms left st' := by
  rw [run_eq_reading, Scoped.exec_reading] at h
  have hexec : (t.runIn outer s).exec w st = (.ok s', st') := by
    obtain ⟨hx, hrest⟩ := Prod.mk.inj h
    exact Prod.ext hx (Prod.mk.inj hrest).2
  cases ht with
  | system =>
    obtain ⟨content, left, hcontent, happend⟩ := Run.exec_of_bind_ok hexec
    obtain ⟨ms, hms, hgoes⟩ := Session.goesOn_of_appendText (by decide) happend
    exact ⟨content, left, ms, hcontent, hms, hgoes⟩
  | user hsource =>
    rw [runIn, hsource] at hexec
    obtain ⟨content, left, hcontent, happend⟩ := Run.exec_of_bind_ok hexec
    obtain ⟨ms, hms, hgoes⟩ := Session.goesOn_of_appendText (by decide) happend
    exact ⟨content, left, ms, hcontent, hms, hgoes⟩
  | assistant hsource extract =>
    rw [runIn, hsource] at hexec
    exact goesOn_of_runAssistant hexec

end Template

/-- A branch of a parallel template adds to its session what the content of its source amounts to, or nothing if the
source fails. -/
theorem Parallel.exec_of_runBranch {src : Source σ} {index : Nat}
    (h : (runBranch s index src).exec w st = (.ok s', st')) :
    (∃ f left, (src.getContent s).exec w st = (.error f, left) ∧ s' = s) ∨
      ∃ content left ms, (src.getContent s).exec w st = (.ok content, left) ∧ content.messages w = .ok ms ∧
        s.GoesOn s' ms left st' := by
  unfold runBranch at h
  rw [Run.exec_bind_ok _ (Run.exec_outcome _)] at h
  rcases hcontent : (src.getContent s).exec w st with ⟨f | content, left⟩
  · rw [hcontent] at h
    obtain ⟨hs, -⟩ := Prod.mk.inj h
    exact .inl ⟨f, left, rfl, (Except.ok.inj hs).symm⟩
  · rw [hcontent] at h
    obtain ⟨ms, hms, hgoes⟩ := Session.goesOn_of_appendOutput h
    exact .inr ⟨content, left, ms, rfl, hms, hgoes⟩

/-! ### The law of feedback -/

namespace Source

variable {src metered : Source σ} {access : ModelAccess σ} {meter count : Nat}

theorem origin_metered (hmodel : src.origin = .model access) (meter : Nat) :
    (src.metered access.budget meter).origin = .model (access.metered meter) := by
  unfold Source.metered
  simp only [hmodel, if_true]

theorem feedback_head {limit number : Nat} {feedback : Option String} {trials : List (Round σ)}
    (h : (src.rounds w s).Chain limit number feedback trials) : ∀ r ∈ trials.head?, r.feedback = feedback := by
  intro r hr
  cases trials with
  | nil => exact nomatch hr
  | cons first rest =>
    obtain rfl := Option.some.inj hr
    exact (h.starts 0 (Nat.zero_lt_succ _)).1

/-- **Feedback reaches the model and nobody else.**  Take any source of a model whose middleware leave the sessions in
contexts alone, and a meter that records the calls of its backend and that nobody else writes to.  Asked about a
session, the source makes a chain of attempts, the first one without feedback and each further one with the instruction
of the rejection just before.  In an attempt the backend is asked no more often than the pipeline may repeat a call, and
each time about the same session: that of the source, with the feedback as a message of the user behind its messages if
it says anything.  Nothing else is asked.

The messages that are shown meanwhile are those that callers' code shows.  And a template that draws on the source adds
to its own session what the content amounts to that was handed out, and nothing else; so does a branch of a parallel
template. -/
theorem feedback_reaches_model (hmodel : src.origin = .model access)
    (hmetered : metered = src.metered access.budget meter) (hspares : SparesRecord meter access src.policy)
    (hkeep : src.policy.pipeline.KeepsSessions) (hcount : src.policy.retry.attempts = .ok count) (hpos : 0 < count)
    (s : Session) (w : Surroundings σ) :
    (∀ st, ∃ trials last counts, (metered.rounds w s).Chain src.policy.maxAttempts 1 none trials ∧
      (∀ r ∈ trials.head?, r.entered = st ∧ r.feedback = none) ∧
      (∀ k (hk : k + 1 < trials.length), trials[k + 1].feedback = trials[k].instruction) ∧
      trials.getLast? = some last ∧ (metered.getContent s).exec w st = last.answer metered ∧
      (∀ r ∈ trials, ∃ found, s.Corrected r.feedback found ∧
        metered.inquiry access s r.feedback = (found, access.options)) ∧
      List.Forall₂ (fun r n => n ≤ count ∧ r.left.asked.get meter = r.entered.asked.get meter ++
        List.replicate n (metered.inquiry access s r.feedback)) trials counts ∧
      ((metered.getContent s).exec w st).2.asked.get meter =
        st.asked.get meter ++ metered.inquiries access s trials counts ∧
      (metered.inquiries access s trials counts).length ≤ src.policy.maxAttempts * count) ∧
    (∀ target Q, (∀ before, CallersMaintain (ShownSince target Q before) access src.policy) →
      ∀ st, ShownSince target Q (st.echoes target) ((src.getContent s).exec w st).2) ∧
    (∀ t outer role, Template.Draws outer src t role → ∀ st s' scope st',
      (t.run s).exec w outer st = (.ok s', scope, st') →
      ∃ content left ms, (src.getContent s).exec w st = (.ok content, left) ∧ content.messagesIn role w = .ok ms ∧
        s'.messages = s.messages ++ ms ∧ ∀ target, st'.echoes target = left.echoes target ++ s.shown target ms) ∧
    ∀ index st s' st', (Parallel.runBranch s index src).exec w st = (.ok s', st') →
      (∃ f left, (src.getContent s).exec w st = (.error f, left) ∧ s' = s) ∨
      ∃ content left ms, (src.getContent s).exec w st = (.ok content, left) ∧ content.messages w = .ok ms ∧
        s'.messages = s.messages ++ ms ∧ ∀ target, st'.echoes target = left.echoes target ++ s.shown target ms := by
  refine ⟨fun st => ?_, fun target Q h st => getContent_shows hmodel h s w st, ?_, ?_⟩
  · have horigin : metered.origin = .model (access.metered meter) := hmetered ▸ origin_metered hmodel meter
    have hpolicy : metered.policy = src.policy := hmetered ▸ policy_metered access.budget meter src
    rw [← hpolicy] at hspares hkeep hcount ⊢
    obtain ⟨trials, last, counts, hchain, hentered, hlast, hanswer, hinquired, hrecord, hbound⟩ :=
      getContent_inquiries horigin hspares hkeep hcount hpos s w st
    refine ⟨trials, last, counts, hchain, fun r hr => ⟨hentered r hr, feedback_head hchain r hr⟩,
      fun k hk => feedback_succ hchain hk, hlast, hanswer, fun r _ => ⟨_, ?_, rfl⟩, hinquired, hrecord, hbound⟩
    rw [horigin]
    exact corrected_prepare (access.metered meter) s r.feedback
  · intro t outer role hdraws st s' scope st' hrun
    obtain ⟨content, left, ms, hcontent, hms, hgoes⟩ := Template.exec_of_draws hdraws hrun
    exact ⟨content, left, ms, hcontent, hms, hgoes.adds.messages, hgoes.shows⟩
  · intro index st s' st' hrun
    rcases Parallel.exec_of_runBranch hrun with hfailed | ⟨content, left, ms, hcontent, hms, hgoes⟩
    · exact .inl hfailed
    · exact .inr ⟨content, left, ms, hcontent, hms, hgoes.adds.messages, hgoes.shows⟩

/-! ### A model that is corrected once -/

/-- Access to a model that is late at first, then uses a banned word, and then answers well. -/
def greeterAccess : ModelAccess Unit where
  options := {}
  backend := some (.scripted 0 [.failure (.fault .timeout "late"), .value (.str "bad"), .value (.str "good")])
  attached := 1
  budget := { cell := 2 }

/-- A source that bans a word, and whose middleware mends every failure. -/
def greeter : Source Unit where
  origin := .model greeterAccess
  policy := {
    validator := some (.keywords [] ["bad"] true "")
    maxAttempts := 3
    pipeline := ⟨[{ onError := fun ctx _ => pure (some ctx) }]⟩
    retry := { maxAttempts := .int 2 } }

theorem callersMaintain_greeter (P : State Unit → Prop) : CallersMaintain P greeterAccess greeter.policy where
  backend _ _ h := nomatch h
  validator := by
    rintro v ⟨⟩ f hf
    exact absurd hf List.not_mem_nil
  middlewares := by
    intro m hm
    obtain rfl := List.mem_singleton.1 hm
    exact ⟨fun _ => .pure _, fun _ => .pure _, fun _ _ => .pure _, fun _ _ => .pure _, fun _ => .pure _⟩
  retry _ h := (Option.not_mem_none _ h).elim

/-- A greeting that is observed. -/
def greeted : Session where
  messages := [.user "Hi"]
  echo := true
  observer := some ⟨0⟩

/-- The model is asked twice about the greeting and once with the correction, of which neither the conversation nor
the observer has anything. -/
theorem feedback_reaches_model_greeter : ∃ trials counts,
    (((greeter.metered greeterAccess.budget 9).getContent greeted).exec (.alone Unit) { host := () }).2.asked.get 9 =
      (greeter.metered greeterAccess.budget 9).inquiries greeterAccess greeted trials counts ∧
    ((greeter.metered greeterAccess.budget 9).inquiries greeterAccess greeted trials counts).map
      (·.1.messages.map (·.content)) = [["Hi"], ["Hi"], ["Hi", "Content must not include: bad"]] ∧
    ∃ s' scope st', ((Template.assistant (some greeter) .nothing).run greeted).exec (.alone Unit) {} { host := () } =
        (.ok s', scope, st') ∧
      s'.messages.map (·.content) = ["Hi", "good"] ∧ (st'.echoes (some ⟨0⟩)).map (·.content) = ["good"] := by
  have hkeep : greeter.policy.pipeline.KeepsSessions := by
    constructor
    · intro m hm ctx
      obtain rfl := List.mem_singleton.1 hm
      exact .pure rfl
    · intro m hm ctx f
      obtain rfl := List.mem_singleton.1 hm
      exact .pure fun c hc => by rw [Option.some.inj hc]
  have hspares : SparesRecord 9 greeterAccess greeter.policy := by
    refine ⟨?_, fun record => callersMaintain_greeter _⟩
    rintro b ⟨⟩
    decide
  have hcount : greeter.policy.retry.attempts = .ok 2 := rfl
  obtain ⟨hasked, hshown, hadded, -⟩ := feedback_reaches_model (rfl : greeter.origin = .model greeterAccess) rfl hspares
    hkeep hcount (by decide) greeted (.alone Unit)
  obtain ⟨trials, last, counts, -, -, -, -, -, -, -, hrecord, -⟩ := hasked { host := () }
  have hinquiries : (((greeter.metered greeterAccess.budget 9).getContent greeted).exec (.alone Unit)
      { host := () }).2.asked.get 9 =
        (greeter.metered greeterAccess.budget 9).inquiries greeterAccess greeted trials counts := hrecord
  refine ⟨trials, counts, hinquiries, ?_, ?_⟩
  · rw [← hinquiries]
    decide +kernel
  have hcontents : (((Template.assistant (some greeter) .nothing).run greeted).exec (.alone Unit) {}
      { host := () }).1.toOption.map (·.messages.map (·.content)) = some ["Hi", "good"] := by
    decide +kernel
  rcases hrun : ((Template.assistant (some greeter) .nothing).run greeted).exec (.alone Unit) {}
    { host := () } with ⟨_ | s', scope, st'⟩
  · rw [hrun] at hcontents
    exact nomatch hcontents
  rw [hrun] at hcontents
  obtain ⟨content, left, ms, hcontent, -, hmessages, hechoes⟩ :=
    hadded _ {} _ (.assistant rfl .nothing) { host := () } s' scope st' hrun
  -- Callers' code shows nothing here, so nothing is shown before the message of the template.
  obtain ⟨earlier, hearlier, hnone⟩ := hshown (some ⟨0⟩) (fun _ => False)
    (fun before => callersMaintain_greeter _) { host := () }
  rw [hcontent, List.eq_nil_iff_forall_not_mem.2 hnone] at hearlier
  have hall : s'.messages.map (·.content) = ["Hi", "good"] := Option.some.inj hcontents
  have hms : ms.map (·.content) = ["good"] := by
    rw [hmessages] at hall
    exact (List.cons.inj hall).2
  refine ⟨s', scope, st', rfl, hall, ?_⟩
  rw [hechoes, hearlier]
  exact hms

end Source

end Colloquy
