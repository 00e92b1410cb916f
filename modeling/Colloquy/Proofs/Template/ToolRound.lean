import Colloquy.Proofs.Backend.Reply
import Colloquy.Proofs.Backend.Tools
import Colloquy.Proofs.Budget.Meter
import Colloquy.Proofs.Echo.Output
import Colloquy.Proofs.Source.Delivery
import Colloquy.Proofs.Template.Lexical

/-!
# Rounds of tool calls

A reply of a service that says a text and makes calls leads to a `ToolRound`: a message of the assistant with the text,
the calls of tools and the structure, and one message for each result of a call that has a handler.  The generator of a
source makes this round of every such reply, whichever handlers fail (`exec_askModel_of_said`), and whatever the
pipeline, the validator and the retries of the source are, the messages of the reply that is accepted in the end are
what the template adds to the session (`run_tool_round`).
-/

namespace Colloquy

variable {σ : Type} {w : Surroundings σ} {st st' : State σ}

/-! ### From a reply to an output -/

namespace Provider

/-- Reports an option that a service does not have. -/
def noteTopK (o : Options) : Run σ Unit :=
  match o.provider.kind with
  | .anthropic => pure ()
  | .openai =>
    match o.topK with
    | .null => pure ()
    | topK => Run.log (.topKIgnored topK)

/-- The reply of a service about a session, by the clients in a cell. -/
def consult (cell : Nat) (s : Session) (o : Options) : Run σ Value := do
  connect cell o.provider
  noteTopK o
  send o.provider (requestOf s o)

/-- The output for a reply, with its calls answered. -/
def respond (o : Options) (reply : Value) : Run σ Output := do
  let out ← Run.ofExcept (readReply (← read).wording o reply)
  let toolResults ← answerCalls o.tools out.toolCalls
  return { out with toolResults, object := some (← Run.newObject) }

theorem generate_eq (cell : Nat) (s : Session) (o : Options) :
    (generate cell s o : Run σ Output) = consult cell s o >>= respond o := by
  unfold generate ask consult respond noteTopK requestOf readReply
  cases o.provider.kind with
  | anthropic => simp only [bind_assoc, pure_bind]
  | openai => cases o.topK <;> simp only [bind_assoc, pure_bind]

/-- The messages that a reply with a text and calls leads to once its calls are answered: that of the assistant, and one
for each result, under the id of its call. -/
inductive ToolRound (w : Surroundings σ) (o : Options) (text : String) (calls : List ToolCall)
    (replied : State σ) : List Message → State σ → Prop
  | mk {attrs : Entries} {results : List ToolResult} {written : List Message} {answered : State σ}
    (hanswered : Answered w o.tools (o.toolCallsOf calls) replied results answered)
    (hwritten : results.mapM ToolResult.message = .ok written) :
    ToolRound w o text calls replied
      ({ role := .assistant, content := text, attrs,
         toolCalls := if (o.toolCallsOf calls).isEmpty then none else some (o.toolCallsOf calls),
         structured := o.structureOf calls } :: written) { answered with objects := answered.objects + 1 }

/-- Handlers answer values, and these can be written. -/
theorem Answered.body {tools : List ToolSpec} {calls : List ToolCall} {results : List ToolResult} {st st' : State σ}
    (h : Answered w tools calls st results st') : ∀ r ∈ results, ∃ body, r.body = .ok body := by
  induction h with
  | nil => exact fun r hr => absurd hr List.not_mem_nil
  | unhandled _ _ ih => exact ih
  | returned _ _ _ ih => exact List.forall_mem_cons.2 ⟨ToolResult.exists_body _ _, ih⟩
  | failed _ _ _ ih => exact List.forall_mem_cons.2 ⟨ToolResult.exists_body _ _, ih⟩

/-- Every reply that says a text and makes calls is made an output of, which amounts to the messages of the round. -/
theorem exec_respond_of_said (w : Surroundings σ) (o : Options) {reply : Value} {text : String}
    {calls : List ToolCall} (h : o.provider.kind.Says reply text calls) (st : State σ) :
    ∃ out ms st', (respond o reply).exec w st = (.ok out, st') ∧ out.role = .assistant ∧
      (Content.output out).messages w = .ok ms ∧ ToolRound w o text calls st ms st' := by
  obtain ⟨metadata, hread⟩ := readReply_of_said w.wording o h
  obtain ⟨results, st', hexec, hanswered⟩ := exec_answerCalls w o.tools (o.toolCallsOf calls) st
  obtain ⟨written, hwritten⟩ := Content.exists_mapM_message hanswered.body
  have hrun : (respond o reply).exec w st = (.ok {
      content := .str text
      toolCalls := o.toolCallsOf calls
      toolResults := results
      structured := o.structureOf calls
      metadata
      object := some st'.objects }, { st' with objects := st'.objects + 1 }) := by
    unfold respond
    rw [Run.exec_bind_ok _ Run.exec_read, hread, Run.exec_bind_ok _ (Run.exec_ofExcept _),
      Run.exec_bind_ok _ hexec]
    rfl
  exact ⟨_, _, _, hrun, rfl, Content.messages_of_message rfl hwritten, .mk hanswered hwritten⟩

end Provider

/-! ### Asking a model -/

namespace Source

variable {access : ModelAccess σ} {s : Session} {reply : Value} {content : Content}

/-- A call of a model gets a reply: it is counted, and the service that its backend stands for is asked. -/
inductive Consults (access : ModelAccess σ) (w : Surroundings σ) (s : Session) : State σ → Value → State σ → Prop
  | mk {count cell : Nat} {reply : Value} {st st₁ st₂ st' : State σ}
    (hcount : access.budget.acquire.exec w st = (.ok count, st₁))
    (hbackend : (backendOf access).exec w st₁ = (.ok (.provider cell), st₂))
    (hreply : (Provider.consult cell s access.options).exec w st₂ = (.ok reply, st')) :
    Consults access w s st reply st'

/-- A call that gets a reply that says a text and makes calls never fails, and answers the output of the round. -/
theorem exec_askModel_of_said {text : String} {calls : List ToolCall} (h : Consults access w s st reply st')
    (hsaid : access.options.provider.kind.Says reply text calls) :
    ∃ out ms answered, (askModel access s).exec w st = (.ok (.output out), answered) ∧
      (Content.output out).messages w = .ok ms ∧
      Provider.ToolRound w access.options text calls st' ms answered := by
  cases h with
  | @mk count cell _ _ st₁ st₂ _ hcount hbackend hreply =>
  obtain ⟨out, ms, answered, hrespond, hrole, hmessages, hround⟩ :=
    Provider.exec_respond_of_said w access.options hsaid st'
  have hask : (askBackend access s access.options).exec w st₁ = (.ok out, answered) := by
    rw [askBackend, Run.exec_bind_ok _ hbackend]
    show (Provider.generate cell s access.options).exec w st₂ = _
    rw [Provider.generate_eq, Run.exec_bind_ok _ hreply, hrespond]
  refine ⟨out, ms, answered, ?_, hmessages, hround⟩
  rw [askModel_eq, Run.exec_bind_ok _ hcount, Run.exec_bind_ok _ (Run.exec_outcome _), hask]
  show (if out.role = .assistant then pure (.output out) else _ : Run σ Content).exec w answered = _
  rw [if_pos hrole]
  rfl

/-- A call that is answered has got a reply, if its backend is that of the providers. -/
theorem consults_of_askModel (hprovider : ∀ b ∈ access.backend, ∃ cell, b = .provider cell)
    (h : (askModel access s).exec w st = (.ok content, st')) :
    ∃ reply replied, Consults access w s st reply replied := by
  rw [askModel_eq] at h
  obtain ⟨count, st₁, hcount, h⟩ := Run.exec_of_bind_ok h
  rw [Run.exec_bind_ok _ (Run.exec_outcome _)] at h
  rcases hask : (askBackend access s access.options).exec w st₁ with ⟨f | out, st₂⟩
  · rw [hask] at h
    exact nomatch (Prod.mk.inj h).1
  obtain ⟨b, st₃, hbackend, hgenerate⟩ := Run.exec_of_bind_ok hask
  have hb : ∃ cell, b = .provider cell :=
    (ensures_backendOf access w st₁ b st₃ hbackend).elim (hprovider b) id
  obtain ⟨cell, rfl⟩ := hb
  have hconsult : (Provider.generate cell s access.options).exec w st₃ = (.ok out, st₂) := hgenerate
  rw [Provider.generate_eq] at hconsult
  obtain ⟨reply, replied, hreply, -⟩ := Run.exec_of_bind_ok hconsult
  exact ⟨reply, replied, hcount, hbackend, hreply⟩

end Source

/-! ### Adding the messages -/

theorem Content.messages_bare (c : Content) : c.bare.messages w = c.messages w := by
  cases c <;> rfl

theorem Content.toOutput_of_messages {c : Content} {ms : List Message} (h : c.messages w = .ok ms) :
    ∃ out, c.toOutput = .ok out := by
  unfold messages at h
  cases hout : c.toOutput with
  | error issues =>
    rw [hout] at h
    exact nomatch h
  | ok out => exact ⟨out, rfl⟩

namespace Template

variable {src : Source σ} {access : ModelAccess σ} {s : Session} {content : Content} {ms : List Message}

/-- The template adds the messages of the content that its source hands out, and at most vars besides. -/
theorem exec_runAssistant (extract : Extract) (hcontent : (src.getContent s).exec w st = (.ok content, st'))
    (hmessages : content.messages w = .ok ms) :
    ∃ s' left, (runAssistant (some src) extract s).exec w st = (.ok s', left) ∧ s.ExtendsBy s' ms := by
  obtain ⟨out, hout⟩ := Content.toOutput_of_messages hmessages
  obtain ⟨left, hadd, -⟩ := s.exec_addAll ms w st'
  have happend : (s.appendOutput content).exec w st' = (.ok (s.extend ms), left) := by
    rw [Session.appendOutput_eq hmessages, hadd]
  have hchecked : (Run.ofChecked "ModelOutput" (.ok out : Checked Output)).exec w st' = (.ok out, st') := rfl
  have hextends : s.ExtendsBy (s.extend ms) ms := s.extendsBy_extend ms
  unfold runAssistant
  rw [Run.exec_bind_ok _ hcontent, hout, Run.exec_bind_ok _ hchecked, Run.exec_bind_ok _ happend]
  cases out.structured with
  | none => exact ⟨_, left, rfl, hextends⟩
  | some data =>
    refine ⟨_, left, rfl, ?_⟩
    split_ifs
    · have hvars := hextends.trans (Session.extendsBy_withVars (s.extend ms) (extract.vars data))
      rwa [List.append_nil] at hvars
    · exact hextends

/-- **Rounds of tool calls.**  A template asks a model by the providers' services, through a pipeline that transforms no
texts.  A reply that says a text and makes calls never fails to be answered, whichever handlers fail.  Of the content
that is accepted in the end, whatever the pipeline, the retries and the validator have made of the replies before, this
is true: it comes from a call unless a middleware plants a response, and for the reply to this call the messages of its
round, and nothing else, are added to the session. -/
theorem run_tool_round (hmodel : src.origin = .model access)
    (hprovider : ∀ b ∈ access.backend, ∃ cell, b = .provider cell) (hleave : src.LeavesTexts)
    {source : Option (Source σ)} {outer : Defaults σ} (hsource : source.or outer.assistant = some src)
    (extract : Extract) (s : Session) (w : Surroundings σ) :
    (∀ asked st reply replied text calls, Source.Consults access w asked st reply replied →
      access.options.provider.kind.Says reply text calls →
      ∃ out ms answered, (Source.askModel access asked).exec w st = (.ok (.output out), answered) ∧
        (Content.output out).messages w = .ok ms ∧
        Provider.ToolRound w access.options text calls replied ms answered) ∧
    ∀ st content st', (src.getContent s).exec w st = (.ok content, st') →
      ∃ d, src.Delivers w s st d ∧
        (src.policy.pipeline.PlantsNothing → ∃ c, d.pass.trace.call = some c) ∧
        ∀ c ∈ d.pass.trace.call, ∃ asked reply replied answered,
          d.pass.Calls (src.callFor d.round.feedback) w c asked answered ∧
          Source.Consults access w c.given.session asked reply replied ∧
          ∀ text calls, access.options.provider.kind.Says reply text calls →
            ∃ ms, Provider.ToolRound w access.options text calls replied ms answered ∧
              ∃ s' left, ((assistant source extract).run s).exec w outer st = (.ok s', outer, left) ∧
                s.ExtendsBy s' ms := by
  refine ⟨fun asked st reply replied text calls hconsults hsaid =>
    Source.exec_askModel_of_said hconsults hsaid, fun st content st' hcontent => ?_⟩
  obtain ⟨d, hdelivers, hbare, start, hhappens, houtcome⟩ := Source.exists_delivery hleave hcontent
  refine ⟨d, hdelivers, fun hplants => hdelivers.called hplants, fun c hc => ?_⟩
  obtain ⟨asked, answered, hcalls⟩ := hhappens.calls hc
  have hended : c.ended = .ok d.response := (houtcome ▸ hhappens.brackets).ended_of_ok hc
  have hasked : (Source.askModel access c.given.session).exec w asked = (.ok d.response, answered) := by
    have hcall := hcalls.run
    rwa [hended, Source.callFor, hmodel] at hcall
  obtain ⟨reply, replied, hconsults⟩ := Source.consults_of_askModel hprovider hasked
  refine ⟨asked, reply, replied, answered, hcalls, hconsults, fun text calls hsaid => ?_⟩
  obtain ⟨out, ms, answered', hexec, hmessages, hround⟩ := Source.exec_askModel_of_said hconsults hsaid
  obtain ⟨hout, rfl⟩ := Prod.mk.inj (hasked.symm.trans hexec)
  have hadded : content.messages w = .ok ms := by
    rw [← content.messages_bare, hbare, Content.messages_bare, Except.ok.inj hout, hmessages]
  obtain ⟨s', left, hrun, hextends⟩ := exec_runAssistant extract hcontent hadded
  refine ⟨ms, hround, s', left, ?_, hextends⟩
  rw [run_eq_reading, Scoped.exec_reading, runIn, hsource, hrun]

/-! ### A round with failing, missing and repeated handlers -/

/-- Three tools of one name, of which the second one is the last with a handler, and two others. -/
def ferryTools : List ToolSpec := [
  { name := "departures", handler := some ⟨0⟩ }, { name := "departures", handler := some ⟨1⟩ },
  { name := "departures" }, { name := "tides", handler := some ⟨2⟩ }, { name := "notes" }]

/-- The calls of a reply.  Two of them give the structure, one has a handler that fails, and one has none. -/
def ferryCalls : List ToolCall := [
  { name := "departures", arguments := [("port", .str "Kiel")], id := "c1" },
  { name := "answer", arguments := [("sure", .bool false)], id := "c2" },
  { name := "tides", arguments := [], id := "c3" },
  { name := "notes", arguments := [], id := "c4" },
  { name := "answer", arguments := [("sure", .bool true)], id := "c5" }]

def ferryBlocks : List Anthropic.Block :=
  .text "The ferry " :: ferryCalls.map .call ++ [.text "leaves."]

def ferryValues : List Value :=
  .object [("type", .str "text"), ("text", .str "The ferry ")] :: ferryCalls.map Anthropic.call ++
    [.object [("type", .str "text"), ("text", .str "leaves.")]]

def ferryWorld : Surroundings Unit where
  observe _ _ := none
  afterSleep clock _ := clock
  chance _ := 0.5
  choose _ _ := 0
  things := .numeric
  wording := .plain
  connect _ host := (none, host)
  send _ _ host := (.ok (.object [("content", .list ferryValues)]), host)
  handle h _ host :=
    match h.handle with
    | 0 => (.ok (.str "no ship"), host)
    | 1 => (.ok (.list [.int 9, .int 17]), host)
    | _ => (.error (.fault .connection "no gauge"), host)

def ferryAccess : ModelAccess Unit where
  options := {
    provider := { apiKey := "key" }
    tools := ferryTools
    structured := some { name := "answer", jsonSchema := [] } }
  backend := some (.provider 0)
  attached := 1
  budget := { cell := 2 }

def ferrySource : Source Unit where
  origin := .model ferryAccess
  policy := {}

def ferryScope : Defaults Unit := { assistant := some ferrySource }

theorem says_ferry : Anthropic.Says (.object [("content", .list ferryValues)]) "The ferry leaves." ferryCalls := by
  have hcall := Anthropic.laidOut_call
  have hblocks : List.Forall₂ Anthropic.Block.LaidOut ferryBlocks ferryValues :=
    .cons ⟨rfl, rfl⟩ (.cons (hcall _) (.cons (hcall _) (.cons (hcall _) (.cons (hcall _) (.cons (hcall _)
      (.cons ⟨rfl, rfl⟩ .nil))))))
  exact ⟨ferryBlocks, ferryValues, rfl, hblocks, by decide +kernel, rfl⟩

theorem reply_ferry {s : Session} {reply : Value} {st replied : State Unit}
    (h : Source.Consults ferryAccess ferryWorld s st reply replied) :
    reply = .object [("content", .list ferryValues)] := by
  cases h with
  | mk hcount hbackend hreply =>
  obtain ⟨_, _, -, hreply⟩ := Run.exec_of_bind_ok hreply
  obtain ⟨_, _, -, hsend⟩ := Run.exec_of_bind_ok hreply
  exact (Except.ok.inj (Prod.mk.inj hsend).1).symm

theorem getContent_ferry : ∃ content st', (ferrySource.getContent {}).exec ferryWorld { host := () } =
    (.ok content, st') := by
  have hok : ((ferrySource.getContent {}).exec ferryWorld { host := () }).1.isOk = true := by decide +kernel
  rcases hrun : (ferrySource.getContent {}).exec ferryWorld { host := () } with ⟨f | content, st'⟩
  · rw [hrun] at hok
    exact nomatch hok
  · exact ⟨content, st', rfl⟩

/-- The round is that of the reply, whose messages a template adds that only finds the source in its scope. -/
theorem run_tool_round_ferry : ferrySource.origin = .model ferryAccess ∧
    (∀ b ∈ ferryAccess.backend, ∃ cell, b = .provider cell) ∧ ferrySource.LeavesTexts ∧
    Option.or none ferryScope.assistant = some ferrySource ∧ ∃ replied answered ms s' left,
      Provider.ToolRound ferryWorld ferryAccess.options "The ferry leaves." ferryCalls replied ms answered ∧
      ((assistant none .everything).run {}).exec ferryWorld ferryScope { host := () } = (.ok s', ferryScope, left) ∧
      Session.ExtendsBy {} s' ms := by
  have hprovider : ∀ b ∈ ferryAccess.backend, ∃ cell, b = .provider cell := by
    rintro b ⟨⟩
    exact ⟨0, rfl⟩
  have hleave : ferrySource.LeavesTexts := fun m hm => nomatch hm
  have hplants : ferrySource.policy.pipeline.PlantsNothing := by
    constructor <;> exact fun m hm => nomatch hm
  have hsource : Option.or none ferryScope.assistant = some ferrySource := rfl
  obtain ⟨content, st', hcontent⟩ := getContent_ferry
  obtain ⟨d, -, hcalled, hround⟩ :=
    (run_tool_round rfl hprovider hleave hsource .everything {} ferryWorld).2 _ _ _ hcontent
  obtain ⟨c, hc⟩ := hcalled hplants
  obtain ⟨asked, reply, replied, answered, -, hconsults, hadds⟩ := hround c hc
  obtain rfl := reply_ferry hconsults
  obtain ⟨ms, hms, s', left, hrun, hextends⟩ := hadds _ _ says_ferry
  exact ⟨rfl, hprovider, hleave, hsource, replied, answered, ms, s', left, hms, hrun, hextends⟩

example : (((assistant none .everything).run {}).exec ferryWorld ferryScope { host := () }).1.toOption.map
    (fun s => s.messages.map fun m => (m.role, m.content)) =
      some [(.assistant, "The ferry leaves."), (.toolResult, "[9, 17]"),
        (.toolResult, "\x7b\"error\": \"no gauge\"\x7d")] := by decide +kernel

end Template

end Colloquy
