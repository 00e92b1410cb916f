import Colloquy.Proofs.Pipeline.Hooks
import Colloquy.Proofs.Source.Upkeep
import Colloquy.Proofs.Twin.Run

/-!
# Sources of twins

A source is blind if everything that callers have handed over to it cannot tell twins apart.  Nothing on the way
from its generator to accepted content looks at what twin sessions differ in, so a blind source gives twin sessions
the same content, or fails alike, after the same calls (`Source.Blind.getContent`).
-/

namespace Colloquy

variable {σ : Type} {d : Leeway}

open Run

/-! ### Contexts -/

/-- Contexts that are the same but for their sessions, which are twins. -/
inductive Context.Twin (d : Leeway) (ctx : Context) : Context → Prop
  | intro {s' : Session} (h : ctx.session.Twin d s') : Twin d ctx { ctx with session := s' }

namespace Context.Twin

variable {ctx ctx' : Context}

theorem refl (ctx : Context) : Twin d ctx ctx := .intro (.refl ctx.session)

theorem session (h : Twin d ctx ctx') : ctx.session.Twin d ctx'.session := by
  cases h with
  | intro h => exact h

theorem aux (h : Twin d ctx ctx') : ctx'.aux = ctx.aux := by
  cases h
  rfl

theorem attempt (h : Twin d ctx ctx') : ctx'.attempt = ctx.attempt := by
  cases h
  rfl

theorem result (h : Twin d ctx ctx') : ctx'.result = ctx.result := by
  cases h
  rfl

theorem plant (h : Twin d ctx ctx') (response : Content) :
    Twin d (ctx.plant response) (ctx'.plant response) := by
  cases h with
  | intro h => exact .intro h

/-- Twins start an attempt as twins. -/
theorem withAttempt (h : Twin d ctx ctx') (attempt : Nat) (previous : Option Failure) :
    Twin d { ctx with attempt, previous } { ctx' with attempt, previous } := by
  cases h with
  | intro h => exact .intro h

/-- Twins that get the same response stay twins. -/
theorem withResult (h : Twin d ctx ctx') (result : Content) :
    Twin d { ctx with result } { ctx' with result } := by
  cases h with
  | intro h => exact .intro h

theorem usesCache (h : Twin d ctx ctx') : ctx'.usesCache = ctx.usesCache := by
  unfold Context.usesCache auxValue
  rw [h.aux]

end Context.Twin

/-! ### What callers hand over -/

/-- A middleware all of whose hooks take twins to twins. -/
structure Middleware.Blind (d : Leeway) (m : Middleware σ) : Prop where
  before : ∀ ctx ctx', ctx.Twin d ctx' → Run.Twin d (Context.Twin d) (m.before ctx) (m.before ctx')
  after : ∀ ctx ctx', ctx.Twin d ctx' → Run.Twin d (Context.Twin d) (m.after ctx) (m.after ctx')
  onError : ∀ ctx ctx' f, ctx.Twin d ctx' →
    Run.Twin d (Option.Rel (Context.Twin d)) (m.onError ctx f) (m.onError ctx' f)
  transform : ∀ content ctx ctx', ctx.Twin d ctx' →
    Run.Twin d Eq (m.transform content ctx) (m.transform content ctx')
  onRejected : ∀ ctx ctx', ctx.Twin d ctx' → Run.Twin d Eq (m.onRejected ctx) (m.onRejected ctx')

/-- A policy that tells of failures blindly. -/
def RetryPolicy.Blind (d : Leeway) (p : RetryPolicy σ) : Prop :=
  ∀ notify ∈ p.onRetry, ∀ f attempt delay, (notify f attempt delay).Blind d

/-- Functions that judge twins alike. -/
def Validator.AllBlind (d : Leeway) (fs : List (Value → Session → Run σ Finding)) : Prop :=
  ∀ f ∈ fs, ∀ content, OnTwins d Eq (f content)

/-- An origin whose function, prompter or backend is blind, if it is the caller's. -/
def Origin.Blind (d : Leeway) : Origin σ → Prop
  | .callback f => OnTwins d Eq f
  | .prompt _ _ (.console ask) => ∀ text, (ask text).Blind d
  | .model access => ∀ cell respond, access.backend = some (.computed cell respond) →
    ∀ o, OnTwins d Eq (respond · o)
  | _ => True

/-- A source in which everything that callers have handed over is blind. -/
structure Source.Blind (d : Leeway) (src : Source σ) : Prop where
  origin : src.origin.Blind d
  validator : ∀ v ∈ src.policy.validator, Validator.AllBlind d v.functions
  middlewares : ∀ m ∈ src.policy.pipeline.middlewares, m.Blind d
  retry : src.policy.retry.Blind d

/-! ### Pipelines -/

/-- Setbacks that are the same but for the sessions of the contexts to go on with. -/
structure Pipeline.Setback.Twin (d : Leeway) (s s' : Setback) : Prop where
  cause : s'.cause = s.cause
  failure : s'.failure = s.failure
  mended : Option.Rel (Context.Twin d) s.mended s'.mended

/-- What is gone on with after twin setbacks are twins. -/
theorem Pipeline.Setback.Twin.mended_getD {s s' : Setback} {current current' : Context}
    (h : s.Twin d s') (hcurrent : current.Twin d current') :
    (s.mended.getD current).Twin d (s'.mended.getD current') := by
  obtain ⟨cause, failure, mended⟩ := s
  obtain ⟨cause', failure', mended'⟩ := s'
  cases h.mended with
  | none => exact hcurrent
  | some hmended => exact hmended

namespace Pipeline

variable {ms : List (Middleware σ)} {p : Pipeline σ} {call : Context → Run σ Content}
  {policy : RetryPolicy σ} {ctx ctx' : Context} {s s' : Setback}

theorem twin_runTransform (h : ∀ m ∈ ms, m.Blind d) (content : Content) (hctx : ctx.Twin d ctx') :
    Run.Twin d Eq (runTransform ms content ctx) (runTransform ms content ctx') := by
  rw [runTransform_eq_foldlM, runTransform_eq_foldlM]
  refine .foldlM (fun m hm content content' hcontent => ?_) rfl
  rw [← hcontent]
  exact (h m hm).transform content ctx ctx' hctx

theorem twin_runRejected (h : ∀ m ∈ ms, m.Blind d) (hctx : ctx.Twin d ctx') :
    Run.Twin d Eq (runRejected ms ctx) (runRejected ms ctx') := by
  rw [runRejected_eq_forM, runRejected_eq_forM]
  exact Blind.forM fun m hm => (h m hm).onRejected ctx ctx' hctx

theorem twin_runOnError (h : ∀ m ∈ ms, m.Blind d) (hctx : ctx.Twin d ctx') (f : Failure) :
    Run.Twin d (Option.Rel (Context.Twin d)) (runOnError ms ctx f) (runOnError ms ctx' f) := by
  induction ms with
  | nil => exact .pure .none
  | cons m rest ih =>
    rw [List.forall_mem_cons] at h
    refine (h.1.onError ctx ctx' f hctx).bind fun mended mended' hmended => ?_
    cases hmended with
    | none => exact ih h.2
    | some hmended =>
      simp only [hctx.attempt]
      exact (Blind.log _).bind fun _ => .pure (.some hmended)

theorem twin_attempt (hp : ∀ m ∈ p.middlewares, m.Blind d)
    (hcall : ∀ ctx ctx', ctx.Twin d ctx' → Run.Twin d Eq (call ctx) (call ctx'))
    (hctx : ctx.Twin d ctx') : Run.Twin d Eq (p.attempt call ctx) (p.attempt call ctx') := by
  have hbefore : Run.Twin d (Context.Twin d) (p.before ctx) (p.before ctx') := by
    rw [before, before, runBefore_eq_foldlM, runBefore_eq_foldlM]
    exact .foldlM (fun m hm => (hp m hm).before) hctx
  refine hbefore.bind fun ctx ctx' hctx => ?_
  have hafter : ∀ result, Run.Twin d Eq (do
      let _ ← p.after { ctx with result }
      return result : Run σ Content) (do
      let _ ← p.after { ctx' with result }
      return result : Run σ Content) := by
    intro result
    rw [after, after, runAfter_eq_foldlM, runAfter_eq_foldlM]
    refine Run.Twin.bind (R := Context.Twin d) (.foldlM (fun m hm => ?_) ?_) fun _ _ _ => .pure rfl
    · exact (hp m (List.mem_reverse.1 hm)).after
    · exact hctx.withResult result
  have hplanted : ctx'.auxValue Context.cachedKey = ctx.auxValue Context.cachedKey := by
    unfold Context.auxValue
    rw [hctx.aux]
  simp only [hplanted, hctx.usesCache]
  exact .ite Iff.rfl (Blind.bind (.pure rfl) hafter)
    ((hcall ctx ctx' hctx).bind fun result result' h => h ▸ hafter result)

theorem twin_setback (hp : ∀ m ∈ p.middlewares, m.Blind d) (hctx : ctx.Twin d ctx') (f : Failure) :
    Run.Twin d (Setback.Twin d) (p.setback ctx f) (p.setback ctx' f) := by
  refine (twin_runOnError hp hctx f).outcome.bind fun ended ended' hended => ?_
  cases hended with
  | ok hmended => exact .pure ⟨rfl, rfl, hmended⟩
  | error g => exact .pure ⟨rfl, rfl, .none⟩

theorem twin_resume (hs : s.Twin d s') (policy : RetryPolicy σ) (attempt : Nat) :
    Run.Twin d Eq (s.resume policy attempt) (s'.resume policy attempt) := by
  obtain ⟨cause, failure, mended⟩ := s
  obtain ⟨cause', failure', mended'⟩ := s'
  obtain ⟨hcause, hfailure, hmended⟩ := hs
  obtain rfl : cause' = cause := hcause
  obtain rfl : failure' = failure := hfailure
  have hdelay : ∀ chance, (Run.ofArithmetic (policy.delayAfter chance attempt) : Run σ Num).Blind d :=
    fun chance => Blind.ofArithmetic _
  cases hmended with
  | none =>
    refine (Blind.ofExcept _).bind fun worth => .ite Iff.rfl ?_ (.throw _)
    exact .ite Iff.rfl (Blind.draw.bind hdelay) (Blind.bind (.pure rfl) hdelay)
  | some _ => exact (Blind.ofExcept _).bind fun worth => .ite Iff.rfl (.pure rfl) (.throw _)

theorem twin_pause (hpolicy : policy.Blind d) (hs : s.Twin d s') (attempt : Nat) (delay : Float) :
    Run.Twin d Eq (s.pause policy attempt delay) (s'.pause policy attempt delay) := by
  have htell : (policy.tell s.failure attempt delay).Blind d := by
    unfold RetryPolicy.tell
    cases h : policy.onRetry with
    | none => exact .pure rfl
    | some notify => exact hpolicy notify h s.failure attempt delay
  unfold Setback.pause
  rw [hs.failure]
  exact (Blind.log _).bind fun _ => htell.bind fun _ => Blind.sleep delay

theorem twin_attempts (hp : ∀ m ∈ p.middlewares, m.Blind d)
    (hcall : ∀ ctx ctx', ctx.Twin d ctx' → Run.Twin d Eq (call ctx) (call ctx'))
    (hpolicy : policy.Blind d) (left number : Nat) {current current' : Context}
    (hcurrent : current.Twin d current') (previous : Option Failure) :
    Run.Twin d Eq (p.attempts call policy left number current previous)
      (p.attempts call policy left number current' previous) := by
  -- The attempts that are left start from any twins, with any failure before them.
  induction left generalizing number current current' previous with
  | zero =>
    rw [attempts, attempts]
    have hctx := hcurrent.withAttempt number previous
    refine (twin_attempt hp hcall hctx).outcome.bind fun ended ended' hended => ?_
    cases hended with
    | ok h => exact .pure h
    | error f =>
      refine (twin_setback hp hctx f).bind fun s s' hs => ?_
      refine Run.Twin.bind (twin_resume hs policy number) fun _ _ _ => ?_
      rw [hs.failure]
      exact .throw _
  | succ left ih =>
    rw [attempts, attempts]
    have hctx := hcurrent.withAttempt number previous
    refine (twin_attempt hp hcall hctx).outcome.bind fun ended ended' hended => ?_
    cases hended with
    | ok h => exact .pure h
    | error f =>
      refine (twin_setback hp hctx f).bind fun s s' hs => ?_
      refine Run.Twin.bind (twin_resume hs policy number) fun wait wait' hwait => ?_
      rw [← hwait]
      refine (Blind.ofArithmetic _).bind fun delay => ?_
      refine (twin_pause hpolicy hs number delay).bind fun _ _ _ => ?_
      rw [hs.cause]
      exact ih _ (hs.mended_getD hcurrent) _

theorem twin_execute (hp : ∀ m ∈ p.middlewares, m.Blind d)
    (hcall : ∀ ctx ctx', ctx.Twin d ctx' → Run.Twin d Eq (call ctx) (call ctx'))
    (hpolicy : policy.Blind d) (hctx : ctx.Twin d ctx') :
    Run.Twin d Eq (p.execute call ctx policy) (p.execute call ctx' policy) :=
  (Blind.ofExcept _).bind fun _ => twin_attempts hp hcall hpolicy _ _ hctx _

end Pipeline

/-! ### Validators -/

namespace Validator

variable {s s' : Session}

theorem AllBlind.append {fs gs : List (Value → Session → Run σ Finding)} :
    AllBlind d (fs ++ gs) ↔ AllBlind d fs ∧ AllBlind d gs :=
  List.forall_mem_append

mutual

theorem twin_judge (hs : s.Twin d s') (v : Validator σ) (h : AllBlind d v.functions)
    (content : Value) : Run.Twin d Eq (v.judge content s) (v.judge content s') := by
  cases v with
  | matching pattern description =>
    rw [judge, judge]
    exact (Blind.ofExcept _).bind fun text => .pure rfl
  | notMatching pattern description =>
    rw [judge, judge]
    exact (Blind.ofExcept _).bind fun text => .pure rfl
  | keywords wanted banned caseSensitive description =>
    rw [judge, judge]
    exact Blind.ofExcept _
  | length least most description =>
    rw [judge, judge]
    exact Blind.ofExcept _
  | shaped shape description =>
    rw [judge, judge]
    exact .pure rfl
  | function f description =>
    rw [judge, judge]
    refine (h f (List.mem_singleton_self f) content s s' hs).bind fun finding _ hfinding => ?_
    cases hfinding
    cases finding with
    | verdict verdict => exact .pure rfl
    | value v => exact .pure rfl
  | all validators description =>
    rw [judge, judge]
    exact twin_judgeAll hs validators h content
  | any validators description =>
    rw [judge, judge]
    exact twin_judgeAny hs description [] validators h content

theorem twin_judgeAll (hs : s.Twin d s') (vs : List (Validator σ))
    (h : AllBlind d (functionsAll vs)) (content : Value) :
    Run.Twin d Eq (judgeAll vs content s) (judgeAll vs content s') := by
  cases vs with
  | nil => exact .pure rfl
  | cons v rest =>
    obtain ⟨hv, hrest⟩ := AllBlind.append.1 h
    refine (twin_judge hs v hv content).bind fun verdict _ hverdict => ?_
    cases hverdict
    exact .ite Iff.rfl (twin_judgeAll hs rest hrest content) (.pure rfl)

theorem twin_judgeAny (hs : s.Twin d s') (description : String) (instructions : List String)
    (vs : List (Validator σ)) (h : AllBlind d (functionsAll vs)) (content : Value) :
    Run.Twin d Eq (judgeAny description instructions vs content s)
      (judgeAny description instructions vs content s') := by
  cases vs with
  | nil => exact .pure rfl
  | cons v rest =>
    obtain ⟨hv, hrest⟩ := AllBlind.append.1 h
    refine (twin_judge hs v hv content).bind fun verdict _ hverdict => ?_
    cases hverdict
    exact .ite Iff.rfl (.pure rfl) (twin_judgeAny hs description _ rest hrest content)

end

end Validator

/-! ### Providers' services -/

namespace Provider

theorem blind_connect (cell : Nat) (p : ProviderConfig) : (connect cell p : Run σ Unit).Blind d := by
  refine .get_bind (fun _ _ _ _ => rfl) fun st => .ite Iff.rfl (.pure rfl) ?_
  -- The rest of the run stands behind the failure for a missing key as well as without it.
  refine .ite Iff.rfl (Run.Twin.bind (R := Eq) (.throw _) fun _ _ _ => ?_) ?_
  all_goals
    refine Blind.read.bind fun w => (Blind.onHost _).bind fun refusal => ?_
    cases refusal with
    | some reason => exact .throw _
    | none => exact (Blind.log _).bind fun _ => Blind.modify fun _ _ _ _ => rfl

theorem blind_callHandler (handler : Handler) (c : ToolCall) :
    (callHandler handler c : Run σ Value).Blind d := by
  refine Blind.read.bind fun w => (Run.Twin.outcome (Blind.onHost _)).bind fun ended _ hended => ?_
  cases hended with
  | ok h =>
    cases h
    exact .pure rfl
  | error f => exact (Blind.log _).bind fun _ => .pure rfl

theorem blind_answerCalls (tools : List ToolSpec) (calls : List ToolCall) :
    (answerCalls tools calls : Run σ (List ToolResult)).Blind d := by
  induction calls with
  | nil => exact .pure rfl
  | cons c rest ih =>
    rw [answerCalls]
    cases handlerOf tools c.name with
    | none => exact ih
    | some handler =>
      exact (blind_callHandler handler c).bind fun result => ih.bind fun results => .pure rfl

theorem blind_send (p : ProviderConfig) (request : Entries) :
    (send p request : Run σ Value).Blind d :=
  Blind.read.bind fun _ => Blind.onHost _

/-- A request has the messages of a session, but nothing of its settings. -/
theorem blind_ask (s : Session) (o : Options) : (ask s o : Run σ Output).Blind d := by
  unfold ask
  split
  · exact (blind_send _ _).bind fun reply => Blind.read.bind fun _ => Blind.ofExcept _
  · have hreply : (do
        let reply ← send o.provider (OpenAI.request s o)
        Run.ofExcept (OpenAI.answer (← read).wording o reply) : Run σ Output).Blind d :=
      (blind_send _ _).bind fun reply => Blind.read.bind fun _ => Blind.ofExcept _
    split
    · exact hreply
    · exact (Blind.log _).bind fun _ => hreply

theorem twin_generate (cell : Nat) {s s' : Session} (hs : s.Twin d s') (o : Options) :
    Run.Twin (σ := σ) d Eq (generate cell s o) (generate cell s' o) := by
  have hrequest : (ask s' o : Run σ Output) = ask s o := by
    rw [hs.eq_with]
    rfl
  unfold generate
  rw [hrequest]
  refine (blind_connect cell o.provider).bind fun _ => (blind_ask s o).bind fun out => ?_
  refine (blind_answerCalls o.tools out.toolCalls).bind fun results => ?_
  exact Blind.newObject.bind fun object => .pure rfl

end Provider

/-! ### Generators -/

namespace Backend

variable {s s' : Session}

/-- Twins are recorded for twin calls. -/
theorem twin_recordCall (cell : Nat) (hs : s.Twin d s') (o : Options) :
    Run.Twin (σ := σ) d Eq (recordCall cell s o) (recordCall cell s' o) := by
  intro w st st' hst
  rw [recordCall, recordCall, exec_modify, exec_modify]
  refine ⟨.ok rfl, ?_⟩
  cases hst with
  | intro hreports hasked =>
    refine .intro hreports fun other => ?_
    simp only [Cells.get_set]
    split
    · exact List.rel_append (hasked cell) (.cons ⟨hs, rfl⟩ .nil)
    · exact hasked other

theorem blind_nextResponse (cell : Nat) (responses : List Response) :
    (nextResponse cell responses : Run σ Response).Blind d :=
  .get_bind (fun _ _ _ _ => rfl) fun _ =>
    (Blind.modify fun _ _ _ _ => rfl).bind fun _ => .pure rfl

theorem twin_generate (b : Backend σ)
    (h : ∀ cell respond, b = .computed cell respond → ∀ o, OnTwins d Eq (respond · o))
    (hs : s.Twin d s') (o : Options) : Run.Twin d Eq (b.generate s o) (b.generate s' o) := by
  cases b with
  | scripted cell responses =>
    refine (twin_recordCall cell hs o).bind fun _ _ _ => ?_
    exact (blind_nextResponse cell responses).bind fun response => Blind.ofExcept _
  | computed cell respond =>
    refine (twin_recordCall cell hs o).bind fun _ _ _ => ?_
    exact (h cell respond rfl o s s' hs).bind fun response _ h => h ▸ Blind.ofExcept _
  | provider cell => exact Provider.twin_generate cell hs o

end Backend

theorem Budget.blind_acquire (b : Budget) : (b.acquire : Run σ Nat).Blind d := by
  have hcount : (b.count : Run σ Nat).Blind d := .get_bind (fun _ _ _ _ => rfl) fun st => .pure rfl
  have hspend : ∀ count, (do
      modify fun s => { s with spent := s.spent.set b.cell (count + 1) }
      return count + 1 : Run σ Nat).Blind d := fun count =>
    (Blind.modify fun _ _ _ _ => rfl).bind fun _ => .pure rfl
  refine hcount.bind fun count => .ite Iff.rfl ?_ (hspend count)
  exact (Blind.log _).bind fun _ => Run.Twin.bind (R := Eq) (.throw _) fun _ _ _ => hspend count

namespace Source

variable {s s' : Session}

theorem fill_of_twin (things : Things) (template : Value) (hs : s.Twin d s') :
    fill things template s' = fill things template s := by
  rw [hs.eq_with]
  rfl

theorem blind_nextItem (items : List Content) (loop : Bool) (cell : Nat) :
    (nextItem items loop cell : Run σ Content).Blind d := by
  have hnext : ∀ position, (do
      modify fun s => { s with cursors := s.cursors.set cell (position + 1) }
      return items.getD position default : Run σ Content).Blind d := fun position =>
    (Blind.modify fun _ _ _ _ => rfl).bind fun _ => .pure rfl
  refine .get_bind (fun _ _ _ _ => rfl) fun st => .ite Iff.rfl ?_ (.ite Iff.rfl ?_ ?_)
  · exact Blind.bind (.pure rfl) hnext
  · exact Blind.bind (.pure rfl) hnext
  · exact Blind.bind (.throw _) hnext

theorem blind_drawItem (items : List Content) (cell : Nat) :
    (drawItem items cell : Run σ Content).Blind d :=
  Blind.read.bind fun _ => .get_bind (fun _ _ _ _ => rfl) fun _ =>
    (Blind.modify fun _ _ _ _ => rfl).bind fun _ => .pure rfl

theorem blind_askScripted (cell : Nat) (text : String) (default : Option String) :
    (askScripted cell text default : Run σ String).Blind d := by
  refine (Blind.modify fun _ _ _ _ => rfl).bind fun _ => .get_bind (fun _ _ _ _ => rfl) fun st => ?_
  split
  · exact .pure rfl
  · exact .throw _
  · exact (Blind.modify fun _ _ _ _ => rfl).bind fun _ => .pure rfl

theorem twin_askPerson (prompt : Value) (default : Option String) {prompter : Prompter σ}
    (h : ∀ read, prompter = .console read → ∀ text, (read text).Blind d) (hs : s.Twin d s')
    (feedback : Option String) : Run.Twin d Eq (askPerson prompt default prompter s feedback)
      (askPerson prompt default prompter s' feedback) := by
  have hask : ∀ text, (ask prompter text default).Blind d := by
    intro text
    cases prompter with
    | scripted cell => exact blind_askScripted cell text default
    | console read => exact (h read rfl text).bind fun answer => .pure rfl
  refine Blind.read.bind fun w => ?_
  rw [fill_of_twin w.things prompt hs]
  exact (Blind.ofExcept _).bind fun text => (hask _).bind fun answer => .pure rfl

theorem blind_backendOf (access : ModelAccess σ) : (backendOf access).Blind d := by
  unfold backendOf
  cases access.backend with
  | some b => exact .pure rfl
  | none =>
    refine .get_bind (fun _ _ _ _ => rfl) fun st => ?_
    cases st.attached.get access.attached with
    | some cell => exact .pure rfl
    | none =>
      refine Blind.newCell.bind fun cell => ?_
      exact (Blind.modify fun _ _ _ _ => rfl).bind fun _ => .pure rfl

theorem twin_askModel (access : ModelAccess σ) (h : (Origin.model access).Blind d)
    (hs : s.Twin d s') : Run.Twin d Eq (askModel access s) (askModel access s') := by
  have hask : Run.Twin d Eq (do (← backendOf access).generate s access.options : Run σ Output)
      (do (← backendOf access).generate s' access.options : Run σ Output) := by
    refine Run.Twin.bind_of_ensures (blind_backendOf access) (ensures_backendOf access)
      (ensures_backendOf access) fun b _ hb hown _ => ?_
    cases hb
    refine b.twin_generate (fun cell respond hcomputed => ?_) hs access.options
    rcases hown with hown | ⟨other, rfl⟩
    · exact h cell respond (hown.trans (congrArg some hcomputed))
    · exact nomatch hcomputed
  refine access.budget.blind_acquire.bind fun _ => hask.outcome.bind fun ended _ hended => ?_
  cases hended with
  | error f => exact .throw _
  | ok h =>
    cases h
    exact .ite Iff.rfl (.pure rfl) (.throw _)

/-- A blind origin generates the same for twins. -/
theorem twin_generate {origin : Origin σ} (h : origin.Blind d) (hs : s.Twin d s')
    (feedback : Option String) :
    Run.Twin d Eq (generate origin s feedback) (generate origin s' feedback) := by
  cases origin with
  | literal template =>
    refine Blind.read.bind fun w => ?_
    rw [fill_of_twin w.things template hs]
    exact (Blind.ofExcept _).bind fun text => .pure rfl
  | list items loop cell => exact blind_nextItem items loop cell
  | random items cell => exact blind_drawItem items cell
  | callback f => exact h s s' hs
  | prompt prompt default prompter =>
    refine twin_askPerson prompt default ?_ hs feedback
    rintro read rfl
    exact h
  | model access => exact twin_askModel access h hs

theorem blind_noteReading (out : Output) (parsed : Value) : (noteReading out parsed : Run σ Content).Blind d := by
  unfold noteReading
  cases out.object with
  | none => exact .pure rfl
  | some object => exact (Blind.modify fun _ _ _ _ => rfl).bind fun _ => .pure rfl

/-- Inspecting content changes nothing but that it notes what was read or reports what is wrong. -/
theorem blind_inspect (origin : Origin σ) (content : Content) : (inspect origin content).Blind d := by
  unfold inspect
  split
  · exact .pure rfl
  · exact .pure rfl
  · split
    · exact .pure rfl
    · split
      · exact .pure rfl
      · split
        · exact (blind_noteReading _ _).bind fun _ => .pure rfl
        · exact (Blind.log _).bind fun _ => .pure rfl

/-! ### Accepted content -/

theorem twin_contextFor (src : Source σ) (hs : s.Twin d s') (feedback : Option String) :
    (src.contextFor s feedback).Twin d (src.contextFor s' feedback) := by
  refine .intro ?_
  show (prepare src.origin s feedback).Twin d (prepare src.origin s' feedback)
  unfold prepare
  split
  · exact (hs.withEcho false none none).append _
  · exact hs

namespace Blind

variable {src : Source σ} (h : src.Blind d)
include h

theorem produce {ctx ctx' : Context} (hctx : ctx.Twin d ctx') (feedback : Option String) :
    Run.Twin d Eq (src.produce ctx feedback) (src.produce ctx' feedback) := by
  have hcall : ∀ ctx ctx' : Context, ctx.Twin d ctx' →
      Run.Twin d Eq (generate src.origin ctx.session feedback)
        (generate src.origin ctx'.session feedback) := fun ctx ctx' hctx =>
    twin_generate h.origin hctx.session feedback
  refine (Pipeline.twin_execute h.middlewares hcall h.retry hctx).bind fun content _ hcontent => ?_
  cases hcontent
  refine Run.Twin.bind (Pipeline.twin_runTransform h.middlewares _ hctx) fun transformed _ heq => ?_
  cases heq
  exact .get_bind (fun _ _ _ _ => rfl) fun st => .pure rfl

theorem judgeContent (hs : s.Twin d s') (content : Content) :
    Run.Twin d Eq (src.judgeContent s content) (src.judgeContent s' content) := by
  refine (blind_inspect src.origin content).bind fun inspected => ?_
  obtain ⟨own, content⟩ := inspected
  simp only
  split
  · exact .pure rfl
  · rename_i validator _ hvalidator
    refine (Validator.twin_judge hs validator (h.validator validator hvalidator) _).bind
      fun verdict _ hverdict => ?_
    cases hverdict
    exact .pure rfl
  · exact .pure rfl

theorem attempt (hs : s.Twin d s') (feedback : Option String) :
    Run.Twin d Eq (src.attempt s feedback) (src.attempt s' feedback) := by
  have hctx := src.twin_contextFor hs feedback
  refine (h.produce hctx feedback).bind fun candidate _ hcandidate => ?_
  cases hcandidate
  refine (h.judgeContent hs candidate).bind fun judged _ hjudged => ?_
  cases hjudged
  obtain ⟨verdict, content⟩ := judged
  refine .ite Iff.rfl ?_ (.pure rfl)
  exact Run.Twin.bind (Pipeline.twin_runRejected h.middlewares hctx) fun _ _ _ => .pure rfl

omit h in
theorem exhausted (src : Source σ) (content : Content) (instruction : Option String) :
    (src.exhausted content instruction).Blind d := by
  have hreturn : (do
      Run.log (.validationExhausted src.origin.kindName src.policy.maxAttempts instruction)
      return content : Run σ Content).Blind d :=
    (Run.Blind.log _).bind fun _ => .pure rfl
  exact .ite Iff.rfl (Run.Twin.bind (R := Eq) (.throw _) fun _ _ _ => hreturn) hreturn

theorem attemptsAt (hs : s.Twin d s') (left number : Nat) (feedback : Option String) :
    Run.Twin d Eq (src.attemptsAt s left number feedback)
      (src.attemptsAt s' left number feedback) := by
  induction left generalizing number feedback with
  | zero =>
    rw [Source.attemptsAt, Source.attemptsAt]
    refine (h.attempt hs feedback).bind fun judged _ hjudged => ?_
    cases hjudged
    obtain ⟨verdict, content⟩ := judged
    exact .ite Iff.rfl (.pure rfl) (exhausted src content verdict.instruction)
  | succ left ih =>
    rw [Source.attemptsAt, Source.attemptsAt]
    refine (h.attempt hs feedback).bind fun judged _ hjudged => ?_
    cases hjudged
    obtain ⟨verdict, content⟩ := judged
    refine .ite Iff.rfl (.pure rfl) ?_
    exact (Run.Blind.log _).bind fun _ => ih (number + 1) verdict.instruction

/-- **Blind sources.** If everything that callers have handed over to a source is blind, then so is the source:
on twin sessions it answers the same, or fails alike, and leaves twin states. -/
theorem getContent (hs : s.Twin d s') : Run.Twin d Eq (src.getContent s) (src.getContent s') :=
  h.attemptsAt hs _ 1 none

end Blind

end Source

end Colloquy
