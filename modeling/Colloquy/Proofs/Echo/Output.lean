import Colloquy.Proofs.Echo.Session
import Colloquy.Template.Parallel

/-!
# Messages of content

Content that has a text, and all of whose tools' results can be written, amounts to messages: that of the assistant, and
one for each result (`Content.exists_messages`).  Any other content amounts to a failure
(`Content.messages_of_not_isWritable`).  Adding content to a session adds its messages (`Session.appendOutput_eq`); on a
quiet session nothing else happens, whether there are messages or a failure (`Session.exec_appendOutput`).
-/

namespace Colloquy

variable {σ : Type} {target : Option Observer} {s : Session} {w : Surroundings σ} {st : State σ}

/-! ### Content that can be written -/

/-- A tool's result that is a value can be written. -/
theorem ToolResult.exists_body (callId : String) (v : Value) :
    ∃ body, ToolResult.body { callId, result := v } = .ok body := by
  cases v <;> exact ⟨_, rfl⟩

namespace Content

/-- Content whose text is a text. -/
def IsText (c : Content) : Prop := ∃ t, c.text = .str t

/-- The results of tools in content. -/
def toolResults : Content → List ToolResult
  | plain _ => []
  | output out => out.toolResults

/-- Content whose text is a text, and all of whose tools' results can be written. -/
structure IsWritable (c : Content) : Prop where
  isText : c.IsText
  results : ∀ r ∈ c.toolResults, ∃ body, r.body = .ok body

/-- The messages that content amounts to: that of the assistant, and one for each result of a tool. -/
def messages (c : Content) (w : Surroundings σ) : Except Failure (List Message) :=
  match c.toOutput with
  | .error issues => .error (.ofIssues w.wording "ModelOutput" issues)
  | .ok out =>
    match out.message with
    | .error issues => .error (.ofIssues w.wording "Message" issues)
    | .ok m => (out.toolResults.mapM ToolResult.message).map (m :: ·)

theorem exists_mapM_message {rs : List ToolResult} (h : ∀ r ∈ rs, ∃ body, r.body = .ok body) :
    ∃ ms, rs.mapM ToolResult.message = .ok ms := by
  induction rs with
  | nil => exact ⟨[], rfl⟩
  | cons r rest ih =>
    rw [List.forall_mem_cons] at h
    obtain ⟨body, hbody⟩ := h.1
    obtain ⟨ms, hrest⟩ := ih h.2
    have hmessage : r.message = .ok (.toolResult body r.callId) := by
      rw [ToolResult.message, hbody, Except.map]
    refine ⟨.toolResult body r.callId :: ms, ?_⟩
    rw [List.mapM_cons, hmessage, hrest]
    rfl

theorem exists_error_of_body {rs : List ToolResult} (h : ¬∀ r ∈ rs, ∃ body, r.body = .ok body) :
    ∃ f, rs.mapM ToolResult.message = .error f := by
  induction rs with
  | nil => exact absurd nofun h
  | cons r rest ih =>
    rw [List.mapM_cons]
    cases hbody : r.body with
    | error f =>
      refine ⟨f, ?_⟩
      rw [ToolResult.message, hbody]
      rfl
    | ok body =>
      have hrest : ¬∀ r ∈ rest, ∃ body, r.body = .ok body := fun hall =>
        h (List.forall_mem_cons.2 ⟨⟨body, hbody⟩, hall⟩)
      obtain ⟨f, hf⟩ := ih hrest
      refine ⟨f, ?_⟩
      rw [ToolResult.message, hbody, hf]
      rfl

theorem messages_of_message {out : Output} {m : Message} {rest : List Message} (hm : out.message = .ok m)
    (hrest : out.toolResults.mapM ToolResult.message = .ok rest) : (output out).messages w = .ok (m :: rest) := by
  simp only [messages, toOutput, hm, hrest, Except.map]

/-- Content that can be written amounts to messages, and the first of them is that of the assistant. -/
theorem exists_messages {c : Content} (h : c.IsWritable) (w : Surroundings σ) :
    ∃ m rest, c.messages w = .ok (m :: rest) ∧ m.role = .assistant := by
  obtain ⟨⟨t, ht⟩, hresults⟩ := h
  cases c with
  | plain v =>
    obtain rfl : v = .str t := ht
    exact ⟨_, _, rfl, rfl⟩
  | output out =>
    have hmessage : ∃ m, out.message = .ok m ∧ m.role = .assistant := by
      unfold Output.message
      rw [show out.content = .str t from ht]
      exact ⟨_, rfl, rfl⟩
    obtain ⟨m, hm, hrole⟩ := hmessage
    obtain ⟨rest, hrest⟩ : ∃ rest, out.toolResults.mapM ToolResult.message = .ok rest := exists_mapM_message hresults
    exact ⟨m, rest, messages_of_message hm hrest, hrole⟩

theorem check_text_of_ne {v : Value} (h : ∀ t, v ≠ .str t) :
    Check.text v = .error [⟨[], .notText, v⟩] := by
  cases v with
  | str t => exact absurd rfl (h t)
  | _ => rfl

/-- Content without a text amounts to no messages. -/
theorem messages_of_not_isText {c : Content} (h : ¬ c.IsText) (w : Surroundings σ) :
    ∃ f, c.messages w = .error f := by
  have htext : Check.text c.text = .error [⟨[], .notText, c.text⟩] :=
    check_text_of_ne fun t ht => h ⟨t, ht⟩
  cases c with
  | plain v =>
    have houtput : (plain v).toOutput = .error [⟨["content"], .notText, v⟩] := by
      change Check.text v = .error [⟨[], .notText, v⟩] at htext
      simp only [toOutput, htext]
      rfl
    exact ⟨.ofIssues w.wording "ModelOutput" [⟨["content"], .notText, v⟩], by simp only [messages, houtput]⟩
  | output out =>
    have hmessage : out.message = .error [⟨["content"], .notText, out.content⟩] := by
      change Check.text out.content = .error [⟨[], .notText, out.content⟩] at htext
      simp only [Output.message, htext]
      rfl
    refine ⟨.ofIssues w.wording "Message" [⟨["content"], .notText, out.content⟩], ?_⟩
    simp only [messages, toOutput, hmessage]

/-- Content that cannot be written amounts to no messages. -/
theorem messages_of_not_isWritable {c : Content} (h : ¬ c.IsWritable) (w : Surroundings σ) :
    ∃ f, c.messages w = .error f := by
  by_cases htext : c.IsText
  · have hresults : ¬∀ r ∈ c.toolResults, ∃ body, r.body = .ok body := fun hresults => h ⟨htext, hresults⟩
    cases c with
    | plain v => exact absurd nofun hresults
    | output out =>
      obtain ⟨f, hf⟩ : ∃ f, out.toolResults.mapM ToolResult.message = .error f := exists_error_of_body hresults
      cases hm : out.message with
      | error issues => exact ⟨.ofIssues w.wording "Message" issues, by simp only [messages, toOutput, hm]⟩
      | ok m => exact ⟨f, by simp only [messages, toOutput, hm, hf, Except.map]⟩
  · exact messages_of_not_isText htext w

theorem isWritable_of_messages {c : Content} {ms : List Message} (h : c.messages w = .ok ms) : c.IsWritable := by
  refine Classical.byContradiction fun hnot => ?_
  obtain ⟨f, hf⟩ := messages_of_not_isWritable hnot w
  rw [hf] at h
  cases h

end Content

/-! ### Adding content to a session -/

namespace Session

theorem appendResults_eq {rs : List ToolResult} {ms : List Message} (h : rs.mapM ToolResult.message = .ok ms) :
    (s.appendResults rs : Run σ Session) = s.addAll ms := by
  induction rs generalizing s ms with
  | nil =>
    obtain rfl := Except.ok.inj h
    rfl
  | cons r rest ih =>
    rw [List.mapM_cons] at h
    cases hm : r.message with
    | error f =>
      rw [hm] at h
      cases h
    | ok m =>
      cases hrest : rest.mapM ToolResult.message with
      | error f =>
        rw [hm, hrest] at h
        cases h
      | ok others =>
        rw [hm, hrest] at h
        obtain rfl := Except.ok.inj h
        have hadded : ∀ s : Session, (s.appendResults rest : Run σ Session) = s.addAll others := fun s => ih hrest
        rw [appendResults, hm, addAll]
        simp only [hadded]
        rfl

/-- Content that amounts to messages adds these. -/
theorem appendOutput_eq {c : Content} {ms : List Message} (h : c.messages w = .ok ms) :
    (s.appendOutput c : Run σ Session) = s.addAll ms := by
  rw [Content.messages] at h
  unfold appendOutput
  cases hout : c.toOutput with
  | error issues =>
    rw [hout] at h
    cases h
  | ok out =>
    cases hm : out.message with
    | error issues =>
      simp only [hout, hm] at h
      cases h
    | ok m =>
      cases hrest : out.toolResults.mapM ToolResult.message with
      | error f =>
        simp only [hout, hm, hrest] at h
        cases h
      | ok rest =>
        simp only [hout, hm, hrest] at h
        obtain rfl := Except.ok.inj h
        have hadded : ∀ s : Session, (s.appendResults out.toolResults : Run σ Session) = s.addAll rest := fun s =>
          appendResults_eq hrest
        rw [addAll]
        simp only [Run.ofChecked_ok, pure_bind, hadded, hm]

/-- What is put on top of a message comes on top of the session with the message. -/
theorem map_extend_append (s : Session) (m : Message) (rest : Except Failure (List Message)) :
    rest.map (s.append m).extend = (rest.map (m :: ·)).map s.extend := by
  cases rest with
  | error f => rfl
  | ok ms => exact congrArg Except.ok (s.extend_append [m] ms).symm

theorem exec_appendResults (hquiet : s.echo = false) (rs : List ToolResult) :
    (s.appendResults rs).exec w st = ((rs.mapM ToolResult.message).map s.extend, st) := by
  induction rs generalizing s with
  | nil =>
    have hsame : Except.map (ε := Failure) s.extend (.ok []) = .ok s := by rw [Except.map, extend_nil]
    exact Prod.ext hsame.symm rfl
  | cons r rest ih =>
    rw [appendResults, List.mapM_cons]
    cases hm : r.message with
    | error f => rfl
    | ok m =>
      refine (Run.exec_bind_ok _ (Run.exec_pure m)).trans ?_
      rw [Run.exec_bind_ok _ (exec_add_quiet hquiet m), ih (s := s.append m) hquiet, map_extend_append]
      cases rest.mapM ToolResult.message with
      | error f => rfl
      | ok ms => rfl

/-- A quiet session gets the messages of content at its end. -/
theorem exec_appendOutput (hquiet : s.echo = false) (c : Content) :
    (s.appendOutput c).exec w st = ((c.messages w).map s.extend, st) := by
  unfold appendOutput Content.messages
  cases c.toOutput with
  | error issues => rfl
  | ok out =>
    rw [Run.ofChecked_ok, pure_bind]
    dsimp only
    cases out.message with
    | error issues => rfl
    | ok m =>
      rw [Run.ofChecked_ok, pure_bind, Run.exec_bind_ok _ (exec_add_quiet hquiet m),
        exec_appendResults (s := s.append m) hquiet, map_extend_append]

theorem silent_appendOutput (hquiet : s.echo = false) (content : Content) :
    (s.appendOutput content : Run σ Session).Silent target := by
  intro w st
  rw [exec_appendOutput hquiet]

theorem appends_appendResults (s : Session) (rs : List ToolResult) :
    (s.appendResults rs : Run σ Session).Appends target s := by
  induction rs generalizing s with
  | nil => exact .pure (.refl s)
  | cons r rest ih =>
    refine .after_silent (Run.Keeps.ofExcept _) fun m => ?_
    exact (s.appends_add m).bind fun s' ms _ => ih s'

theorem appends_appendOutput (s : Session) (content : Content) :
    (s.appendOutput content : Run σ Session).Appends target s := by
  refine .after_silent (Run.Keeps.ofChecked _ _) fun out => ?_
  refine .after_silent (Run.Keeps.ofChecked _ _) fun m => ?_
  exact (s.appends_add m).bind fun s' ms _ => s'.appends_appendResults out.toolResults

end Session

end Colloquy
