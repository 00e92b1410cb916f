import Colloquy.Proofs.Pipeline.Hooks
import Colloquy.Proofs.Run.Books
import Colloquy.Source.Content

/-!
# What sources maintain

A source does nothing to the books of a state but through what callers have handed over to it, and through a
model's calls.  So a property that only depends on the books is maintained by a source if the callers' code and
the generator of the source maintain it (`Source.Maintains.getContent`), and nothing on the way from the generator
to accepted content takes part in that.
-/

namespace Colloquy

variable {σ α : Type} {P : State σ → Prop}

open Run

/-! ### What callers hand over -/

/-- A middleware all of whose hooks maintain a property. -/
structure Middleware.Maintains (P : State σ → Prop) (m : Middleware σ) : Prop where
  before : ∀ ctx, (m.before ctx).Maintains P
  after : ∀ ctx, (m.after ctx).Maintains P
  onError : ∀ ctx f, (m.onError ctx f).Maintains P
  transform : ∀ content ctx, (m.transform content ctx).Maintains P
  onRejected : ∀ ctx, (m.onRejected ctx).Maintains P

/-- A policy that maintains a property when it tells of failures. -/
def RetryPolicy.Maintains (P : State σ → Prop) (p : RetryPolicy σ) : Prop :=
  ∀ notify ∈ p.onRetry, ∀ f attempt delay, (notify f attempt delay).Maintains P

mutual

/-- The callers' functions in a validator. -/
def Validator.functions : Validator σ → List (Value → Session → Run σ Finding)
  | .function f _ => [f]
  | .all validators _ | .any validators _ => Validator.functionsAll validators
  | _ => []

/-- The callers' functions in validators. -/
def Validator.functionsAll : List (Validator σ) → List (Value → Session → Run σ Finding)
  | [] => []
  | v :: rest => v.functions ++ Validator.functionsAll rest

end

/-- Functions that maintain a property when they judge. -/
def Validator.AllMaintain (P : State σ → Prop) (fs : List (Value → Session → Run σ Finding)) : Prop :=
  ∀ f ∈ fs, ∀ content s, (f content s).Maintains P

/-- A source whose generator, and all that callers have handed over to it, maintain a property. -/
structure Source.Maintains (P : State σ → Prop) (src : Source σ) : Prop where
  generate : ∀ s feedback, (generate src.origin s feedback).Maintains P
  validator : ∀ v ∈ src.policy.validator, Validator.AllMaintain P v.functions
  middlewares : ∀ m ∈ src.policy.pipeline.middlewares, m.Maintains P
  retry : src.policy.retry.Maintains P

/-! ### Pipelines -/

namespace Pipeline

variable {ms : List (Middleware σ)} {p : Pipeline σ} {call : Context → Run σ Content}
  {policy : RetryPolicy σ}

theorem maintains_runTransform (h : ∀ m ∈ ms, m.Maintains P) (content : Content) (ctx : Context) :
    (runTransform ms content ctx).Maintains P := by
  rw [runTransform_eq_foldlM]
  exact .foldlM (fun m hm content => (h m hm).transform content ctx) content

theorem maintains_runRejected (h : ∀ m ∈ ms, m.Maintains P) (ctx : Context) :
    (runRejected ms ctx).Maintains P := by
  rw [runRejected_eq_forM]
  exact .forM fun m hm => (h m hm).onRejected ctx

theorem maintains_before (hp : ∀ m ∈ p.middlewares, m.Maintains P) (ctx : Context) :
    (p.before ctx).Maintains P := by
  rw [before, runBefore_eq_foldlM]
  exact .foldlM (fun m hm => (hp m hm).before) ctx

theorem maintains_after (hp : ∀ m ∈ p.middlewares, m.Maintains P) (ctx : Context) :
    (p.after ctx).Maintains P := by
  rw [after, runAfter_eq_foldlM]
  exact .foldlM (fun m hm => (hp m (List.mem_reverse.1 hm)).after) ctx

theorem maintains_attempt (hp : ∀ m ∈ p.middlewares, m.Maintains P)
    (hcall : ∀ ctx, (call ctx).Maintains P) (ctx : Context) : (p.attempt call ctx).Maintains P := by
  refine (maintains_before hp ctx).bind fun ctx => ?_
  have hafter : ∀ result, (do
      let _ ← p.after { ctx with result }
      return result : Run σ Content).Maintains P := fun result =>
    (maintains_after hp _).bind fun _ => .pure result
  exact .ite ((Maintains.pure _).bind hafter) ((hcall ctx).bind hafter)

/-- A wait maintains what drawing a chance for it maintains. -/
theorem maintains_resume (hdraw : (Run.draw : Run σ Float).Maintains P) (s : Setback) (policy : RetryPolicy σ)
    (attempt : Nat) : (s.resume policy attempt).Maintains P := by
  have hdelay : ∀ chance, (Run.ofArithmetic (policy.delayAfter chance attempt) : Run σ Num).Maintains P :=
    fun chance => .ofArithmetic _
  refine (Maintains.ofExcept _).bind fun worth => .ite ?_ (.throw s.failure)
  unfold Setback.wait
  cases s.mended with
  | some mended => exact .pure _
  | none => exact .ite (hdraw.bind hdelay) ((Maintains.pure _).bind hdelay)

/-- A wait changes nothing but the number of chances drawn. -/
theorem keeps_resume {γ : Type} {g : State σ → γ} (hdraw : ∀ s draws, g { s with draws } = g s) (s : Setback)
    (policy : RetryPolicy σ) (attempt : Nat) : (s.resume policy attempt).Keeps g := by
  have hkeeps : (Run.draw : Run σ Float).Keeps g := fun _ st => hdraw st _
  exact keeps_iff_maintains.2 fun c => maintains_resume (keeps_iff_maintains.1 hkeeps c) s policy attempt

/-- A pause maintains what reports and sleeps maintain. -/
theorem maintains_pause_of
    (hlog : ∀ number delay text, (Run.log (.retrying number delay text) : Run σ Unit).Maintains P)
    (hsleep : ∀ delay, (Run.sleep delay : Run σ Unit).Maintains P) (hpolicy : policy.Maintains P) (s : Setback)
    (attempt : Nat) (delay : Float) : (s.pause policy attempt delay).Maintains P := by
  have htell : (policy.tell s.failure attempt delay).Maintains P := by
    unfold RetryPolicy.tell
    cases h : policy.onRetry with
    | none => exact .pure ()
    | some notify => exact hpolicy notify h s.failure attempt delay
  exact (hlog _ _ _).bind fun _ => htell.bind fun _ => hsleep delay

variable (hP : Booked P)
include hP

theorem maintains_runOnError (h : ∀ m ∈ ms, m.Maintains P) (ctx : Context) (f : Failure) :
    (runOnError ms ctx f).Maintains P := by
  induction ms with
  | nil => exact .pure none
  | cons m rest ih =>
    rw [List.forall_mem_cons] at h
    refine (h.1.onError ctx f).bind fun mended => ?_
    cases mended with
    | none => exact ih h.2
    | some mended => exact ((keepsBooks_log rfl).maintains hP).bind fun _ => .pure (some mended)

theorem maintains_setback (hp : ∀ m ∈ p.middlewares, m.Maintains P) (ctx : Context) (f : Failure) :
    (p.setback ctx f).Maintains P := by
  refine (maintains_runOnError hP hp ctx f).outcome.bind fun ended => ?_
  cases ended with
  | ok mended => exact .pure _
  | error g => exact .pure _

theorem maintains_pause (hpolicy : policy.Maintains P) (s : Setback) (attempt : Nat)
    (delay : Float) : (s.pause policy attempt delay).Maintains P :=
  maintains_pause_of (fun _ _ _ => (keepsBooks_log rfl).maintains hP)
    (fun delay => (keepsBooks_sleep delay).maintains hP) hpolicy s attempt delay

theorem maintains_attempts (hp : ∀ m ∈ p.middlewares, m.Maintains P)
    (hcall : ∀ ctx, (call ctx).Maintains P) (hpolicy : policy.Maintains P) (left number : Nat)
    (current : Context) (previous : Option Failure) :
    (p.attempts call policy left number current previous).Maintains P := by
  -- The attempts that are left start from any context, with any failure before them.
  induction left generalizing number current previous with
  | zero =>
    rw [attempts]
    refine (maintains_attempt hp hcall _).outcome.bind fun ended => ?_
    cases ended with
    | ok result => exact .pure result
    | error f =>
      refine (maintains_setback hP hp _ f).bind fun s => ?_
      exact (maintains_resume (keepsBooks_draw.maintains hP) s policy number).bind fun _ => .throw s.failure
  | succ left ih =>
    rw [attempts]
    refine (maintains_attempt hp hcall _).outcome.bind fun ended => ?_
    cases ended with
    | ok result => exact .pure result
    | error f =>
      refine (maintains_setback hP hp _ f).bind fun s => ?_
      refine (maintains_resume (keepsBooks_draw.maintains hP) s policy number).bind fun wait => ?_
      refine (Maintains.ofArithmetic _).bind fun delay => ?_
      exact (maintains_pause hP hpolicy s number delay).bind fun _ => ih _ _ _

theorem maintains_execute (hp : ∀ m ∈ p.middlewares, m.Maintains P)
    (hcall : ∀ ctx, (call ctx).Maintains P) (hpolicy : policy.Maintains P) (ctx : Context) :
    (p.execute call ctx policy).Maintains P :=
  (Maintains.ofExcept _).bind fun _ => maintains_attempts hP hp hcall hpolicy _ _ _ _

end Pipeline

/-! ### Validators -/

namespace Validator

theorem AllMaintain.append {fs gs : List (Value → Session → Run σ Finding)} :
    AllMaintain P (fs ++ gs) ↔ AllMaintain P fs ∧ AllMaintain P gs :=
  List.forall_mem_append

mutual

theorem maintains_judge (v : Validator σ) (h : AllMaintain P v.functions) (content : Value)
    (s : Session) : (v.judge content s).Maintains P := by
  cases v with
  | matching pattern description =>
    rw [judge]
    exact (Maintains.ofExcept _).bind fun text => .pure _
  | notMatching pattern description =>
    rw [judge]
    exact (Maintains.ofExcept _).bind fun text => .pure _
  | keywords wanted banned caseSensitive description =>
    rw [judge]
    exact .ofExcept _
  | length least most description =>
    rw [judge]
    exact .ofExcept _
  | shaped shape description =>
    rw [judge]
    exact .pure _
  | function f description =>
    rw [judge]
    refine (h f (List.mem_singleton_self f) content s).bind fun finding => ?_
    cases finding with
    | verdict verdict => exact .pure verdict
    | value v => exact .pure _
  | all validators description =>
    rw [judge]
    exact maintains_judgeAll validators h content s
  | any validators description =>
    rw [judge]
    exact maintains_judgeAny description [] validators h content s

theorem maintains_judgeAll (vs : List (Validator σ)) (h : AllMaintain P (functionsAll vs))
    (content : Value) (s : Session) : (judgeAll vs content s).Maintains P := by
  cases vs with
  | nil => exact .pure _
  | cons v rest =>
    obtain ⟨hv, hrest⟩ := AllMaintain.append.1 h
    refine (maintains_judge v hv content s).bind fun verdict => ?_
    exact .ite (maintains_judgeAll rest hrest content s) (.pure verdict)

theorem maintains_judgeAny (description : String) (instructions : List String)
    (vs : List (Validator σ)) (h : AllMaintain P (functionsAll vs)) (content : Value)
    (s : Session) : (judgeAny description instructions vs content s).Maintains P := by
  cases vs with
  | nil => exact .pure _
  | cons v rest =>
    obtain ⟨hv, hrest⟩ := AllMaintain.append.1 h
    refine (maintains_judge v hv content s).bind fun verdict => ?_
    exact .ite (.pure verdict) (maintains_judgeAny description _ rest hrest content s)

end

end Validator

/-! ### Providers' services -/

namespace Provider

theorem keepsBooks_connect (cell : Nat) (p : ProviderConfig) :
    (connect cell p : Run σ Unit).KeepsBooks := by
  refine Keeps.get.bind fun st => .ite (.pure ()) ?_
  -- The rest of the run stands behind the failure for a missing key as well as without it.
  refine .ite ((Keeps.throw _).bind fun _ => ?_) ?_
  all_goals
    refine Keeps.read.bind fun w => (keepsBooks_onHost _).bind fun refusal => ?_
    cases refusal with
    | some reason => exact .throw _
    | none => exact (keepsBooks_log rfl).bind fun _ => .modify fun _ => rfl

theorem keepsBooks_callHandler (handler : Handler) (c : ToolCall) :
    (callHandler handler c : Run σ Value).KeepsBooks := by
  refine Keeps.read.bind fun w => ?_
  refine (keepsBooks_onHost _).outcome.bind fun ended => ?_
  cases ended with
  | ok v => exact .pure v
  | error f => exact (keepsBooks_log rfl).bind fun _ => .pure _

theorem keepsBooks_answerCalls (tools : List ToolSpec) (calls : List ToolCall) :
    (answerCalls tools calls : Run σ (List ToolResult)).KeepsBooks := by
  induction calls with
  | nil => exact .pure []
  | cons c rest ih =>
    rw [answerCalls]
    cases handlerOf tools c.name with
    | none => exact ih
    | some handler =>
      exact (keepsBooks_callHandler handler c).bind fun result => ih.bind fun results => .pure _

theorem keepsBooks_send (p : ProviderConfig) (request : Entries) :
    (send p request : Run σ Value).KeepsBooks :=
  Keeps.read.bind fun _ => keepsBooks_onHost _

theorem keepsBooks_ask (s : Session) (o : Options) : (ask s o : Run σ Output).KeepsBooks := by
  unfold ask
  split
  · exact (keepsBooks_send _ _).bind fun reply => Keeps.read.bind fun _ => .ofExcept _
  · have hreply : (do
        let reply ← send o.provider (OpenAI.request s o)
        Run.ofExcept (OpenAI.answer (← read).wording o reply) : Run σ Output).KeepsBooks :=
      (keepsBooks_send _ _).bind fun reply => Keeps.read.bind fun _ => .ofExcept _
    split
    · exact hreply
    · exact (keepsBooks_log rfl).bind fun _ => hreply

theorem keepsBooks_generate (cell : Nat) (s : Session) (o : Options) :
    (generate cell s o : Run σ Output).KeepsBooks := by
  refine (keepsBooks_connect cell o.provider).bind fun _ => ?_
  refine (keepsBooks_ask s o).bind fun out => ?_
  refine (keepsBooks_answerCalls o.tools out.toolCalls).bind fun results => ?_
  exact keepsBooks_newObject.bind fun object => .pure _

end Provider

/-! ### Generators -/

theorem Backend.keepsBooks_nextResponse (cell : Nat) (responses : List Response) :
    (nextResponse cell responses : Run σ Response).KeepsBooks :=
  Keeps.get.bind fun _ => Keeps.bind (.modify fun _ => rfl) fun _ => .pure _

/-- The cell in which a backend records its calls; a provider's backend records none. -/
def Backend.record? : Backend σ → Option Nat
  | .scripted cell _ | .computed cell _ => some cell
  | .provider _ => none

/-- A backend maintains a property of the books if recording a call and computing the answer to it do. -/
theorem Backend.maintains_generate (hP : Booked P) (b : Backend σ) (s : Session) (o : Options)
    (hrecord : ∀ cell ∈ b.record?, (recordCall cell s o).Maintains P)
    (hrespond : ∀ cell respond, b = .computed cell respond → (respond s o).Maintains P) :
    (b.generate s o).Maintains P := by
  cases b with
  | scripted cell responses =>
    refine (hrecord cell rfl).bind fun _ => ?_
    exact ((keepsBooks_nextResponse cell responses).maintains hP).bind fun _ => .ofExcept _
  | computed cell respond =>
    refine (hrecord cell rfl).bind fun _ => ?_
    exact (hrespond cell respond rfl).bind fun _ => .ofExcept _
  | provider cell => exact (Provider.keepsBooks_generate cell s o).maintains hP

/-- Drawing on a budget counts a call, or reports that there is none left. -/
theorem Budget.keeps_acquire {γ : Type} {g : State σ → γ} (hspent : ∀ st spent, g { st with spent } = g st)
    (hlog : ∀ count limit, (Run.log (.callLimitExceeded count limit) : Run σ Unit).Keeps g)
    (b : Budget) : (b.acquire : Run σ Nat).Keeps g := by
  have hcount : (b.count : Run σ Nat).Keeps g := Keeps.get.bind fun st => .pure _
  have hspend : ∀ count, (do
      modify fun s => { s with spent := s.spent.set b.cell (count + 1) }
      return count + 1 : Run σ Nat).Keeps g := fun count =>
    Keeps.bind (.modify fun st => hspent st _) fun _ => .pure _
  refine hcount.bind fun count => .ite ?_ (hspend count)
  exact (hlog _ _).bind fun _ => (Keeps.throw _).bind fun _ => hspend count

namespace Source

/-- Handing out an item changes nothing but the position. -/
theorem keeps_nextItem {γ : Type} {g : State σ → γ}
    (hmove : ∀ s cursors, g { s with cursors } = g s) (items : List Content) (loop : Bool)
    (cell : Nat) : (nextItem items loop cell : Run σ Content).Keeps g := by
  have hnext : ∀ position, (do
      modify fun s => { s with cursors := s.cursors.set cell (position + 1) }
      return items.getD position default : Run σ Content).Keeps g := fun position =>
    Keeps.bind (.modify fun s => hmove s _) fun _ => .pure _
  refine Keeps.get.bind fun st => .ite ?_ (.ite ?_ ?_)
  · exact (Keeps.pure _).bind hnext
  · exact (Keeps.pure _).bind hnext
  · exact (Keeps.throw _).bind hnext

theorem keepsBooks_nextItem (items : List Content) (loop : Bool) (cell : Nat) :
    (nextItem items loop cell : Run σ Content).KeepsBooks :=
  keeps_nextItem (fun _ _ => rfl) items loop cell

theorem keepsBooks_drawItem (items : List Content) (cell : Nat) :
    (drawItem items cell : Run σ Content).KeepsBooks :=
  Keeps.read.bind fun _ => Keeps.get.bind fun _ => Keeps.bind (.modify fun _ => rfl) fun _ => .pure _

theorem keepsBooks_askScripted (cell : Nat) (text : String) (default : Option String) :
    (askScripted cell text default : Run σ String).KeepsBooks := by
  refine Keeps.bind (.modify fun _ => rfl) fun _ => Keeps.get.bind fun st => ?_
  split
  · exact .pure _
  · exact .throw _
  · exact Keeps.bind (.modify fun _ => rfl) fun _ => .pure _

/-- The backend of a source is its own, or one of the providers' that was made for it. -/
theorem ensures_backendOf (access : ModelAccess σ) :
    (backendOf access).Ensures fun b => access.backend = some b ∨ ∃ cell, b = .provider cell := by
  unfold backendOf
  cases access.backend with
  | some b => exact .pure (.inl rfl)
  | none =>
    refine .after fun st => ?_
    cases st.attached.get access.attached with
    | some cell => exact .pure (.inr ⟨cell, rfl⟩)
    | none => exact .after fun cell => .after fun _ => .pure (.inr ⟨cell, rfl⟩)

theorem keepsBooks_backendOf (access : ModelAccess σ) : (backendOf access).KeepsBooks := by
  unfold backendOf
  cases access.backend with
  | some b => exact .pure b
  | none =>
    refine Keeps.get.bind fun st => ?_
    cases st.attached.get access.attached with
    | some cell => exact .pure _
    | none =>
      exact keepsBooks_newCell.bind fun cell => Keeps.bind (.modify fun _ => rfl) fun _ => .pure _

/-- A reading changes nothing but the readings. -/
theorem keeps_noteReading {γ : Type} {g : State σ → γ} (hread : ∀ s readings, g { s with readings } = g s)
    (out : Output) (parsed : Value) : (noteReading out parsed : Run σ Content).Keeps g := by
  unfold noteReading
  cases out.object with
  | none => exact .pure _
  | some object => exact Keeps.bind (.modify fun s => hread s _) fun _ => .pure _

/-- An inspection changes nothing but that it notes what was read or reports what is wrong. -/
theorem keeps_inspect {γ : Type} {g : State σ → γ}
    (hlog : ∀ schema errors, (Run.log (.structureInvalid schema errors) : Run σ Unit).Keeps g)
    (hread : ∀ s readings, g { s with readings } = g s)
    (origin : Origin σ) (content : Content) : (inspect origin content).Keeps g := by
  unfold inspect
  split
  · exact .pure _
  · exact .pure _
  · split
    · exact .pure _
    · split
      · exact .pure _
      · split
        · exact (keeps_noteReading hread _ _).bind fun _ => .pure _
        · exact (hlog _ _).bind fun _ => .pure _

theorem keepsBooks_inspect (origin : Origin σ) (content : Content) :
    (inspect origin content).KeepsBooks :=
  keeps_inspect (fun _ _ => keepsBooks_log rfl) (fun _ _ => rfl) origin content

variable (hP : Booked P)
include hP

theorem maintains_askPerson (prompt : Value) (default : Option String) {prompter : Prompter σ}
    (h : ∀ read, prompter = .console read → ∀ text, (read text).Maintains P) (s : Session)
    (feedback : Option String) : (askPerson prompt default prompter s feedback).Maintains P := by
  have hask : ∀ text, (ask prompter text default).Maintains P := by
    intro text
    cases prompter with
    | scripted cell => exact (keepsBooks_askScripted cell text default).maintains hP
    | console read => exact (h read rfl text).bind fun answer => .pure _
  refine Maintains.read.bind fun w => ?_
  exact (Maintains.ofExcept _).bind fun text => (hask _).bind fun answer => .pure _

/-- What the backend of a source is asked maintains a property if this holds of a backend of its own. -/
theorem maintains_askBackend {access : ModelAccess σ} {s : Session}
    (h : ∀ b, access.backend = some b → (b.generate s access.options).Maintains P) :
    (do (← backendOf access).generate s access.options : Run σ Output).Maintains P := by
  refine .bind_of_ensures ((keepsBooks_backendOf access).maintains hP) (ensures_backendOf access)
    fun b hb => ?_
  rcases hb with hb | ⟨cell, rfl⟩
  · exact h b hb
  · exact (Provider.keepsBooks_generate cell s access.options).maintains hP

/-! ### Accepted content -/

namespace Maintains

variable {src : Source σ} (h : src.Maintains P)
include h

theorem produce (ctx : Context) (feedback : Option String) :
    (src.produce ctx feedback).Maintains P := by
  have hcall : ∀ c : Context, (Source.generate src.origin c.session feedback).Maintains P := fun c =>
    h.generate c.session feedback
  refine (Pipeline.maintains_execute hP h.middlewares hcall h.retry ctx).bind fun content => ?_
  refine (Pipeline.maintains_runTransform h.middlewares _ ctx).bind fun transformed => ?_
  exact Maintains.get.bind fun st => .pure _

theorem judgeContent (s : Session) (content : Content) :
    (src.judgeContent s content).Maintains P := by
  refine ((keepsBooks_inspect src.origin content).maintains hP).bind fun inspected => ?_
  obtain ⟨own, content⟩ := inspected
  simp only
  split
  · exact .pure _
  · rename_i validator _ hvalidator
    exact (validator.maintains_judge (h.validator validator hvalidator) _ s).bind fun _ => .pure _
  · exact .pure _

theorem attempt (s : Session) (feedback : Option String) : (src.attempt s feedback).Maintains P := by
  refine (h.produce hP _ feedback).bind fun candidate => ?_
  refine (h.judgeContent hP s candidate).bind fun (verdict, content) => ?_
  refine .ite ?_ (.pure _)
  exact (Pipeline.maintains_runRejected h.middlewares _).bind fun _ => .pure _

omit h in
theorem exhausted (src : Source σ) (content : Content) (instruction : Option String) :
    (src.exhausted content instruction).Maintains P := by
  have hreturn : (do
      Run.log (.validationExhausted src.origin.kindName src.policy.maxAttempts instruction)
      return content : Run σ Content).Maintains P :=
    ((keepsBooks_log rfl).maintains hP).bind fun _ => .pure content
  exact .ite ((Maintains.throw _).bind fun _ => hreturn) hreturn

theorem attemptsAt (s : Session) (left number : Nat) (feedback : Option String) :
    (src.attemptsAt s left number feedback).Maintains P := by
  induction left generalizing number feedback with
  | zero =>
    rw [Source.attemptsAt]
    refine (h.attempt hP s feedback).bind fun (verdict, content) => .ite (.pure content) ?_
    exact exhausted hP src content verdict.instruction
  | succ left ih =>
    rw [Source.attemptsAt]
    refine (h.attempt hP s feedback).bind fun (verdict, content) => .ite (.pure content) ?_
    exact ((keepsBooks_log rfl).maintains hP).bind fun _ => ih (number + 1) verdict.instruction

/-- **What sources maintain.** A property of the books that the generator of a source and all callers' code in it
maintain is maintained by the source, whatever session it is asked on, and whether it answers or fails. -/
theorem getContent (s : Session) : (src.getContent s).Maintains P :=
  h.attemptsAt hP s _ 1 none

end Maintains

end Source

end Colloquy
