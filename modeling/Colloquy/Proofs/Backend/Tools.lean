import Colloquy.Backend.Provider
import Mathlib.Data.List.Induction

/-!
# Answers to tool calls

`Answered` says how the calls of a reply are answered one after the other: a call whose name no tool with a handler has
is passed over, and any other one is given to the handler of the last such tool.  A handler that fails is reported, and
its failure is the result.  So all calls are answered in every state, whichever handlers fail: `exec_answerCalls`.
-/

namespace Colloquy.Provider

variable {σ : Type} {w : Surroundings σ} {tools : List ToolSpec} {name : String}

/-! ### Handlers -/

/-- A name is handled by the last tool of that name that has a handler. -/
def HandledBy (tools : List ToolSpec) (name : String) (h : Handler) : Prop :=
  ∃ before t after, tools = before ++ t :: after ∧ t.name = name ∧ t.handler = some h ∧
    ∀ t' ∈ after, t'.name = name → t'.handler = none

/-- No tool of a name has a handler. -/
def Unhandled (tools : List ToolSpec) (name : String) : Prop :=
  ∀ t ∈ tools, t.name = name → t.handler = none

theorem handlerOf_concat_of_ne {t : ToolSpec} (h : t.name ≠ name) :
    handlerOf (tools ++ [t]) name = handlerOf tools name := by
  have hfilter : (tools ++ [t]).filter (·.name = name) = tools.filter (·.name = name) := by
    rw [List.filter_append, List.filter_cons_of_neg (by simpa using h), List.filter_nil, List.append_nil]
  unfold handlerOf
  rw [hfilter]

theorem handlerOf_concat_of_eq {t : ToolSpec} (h : t.name = name) :
    handlerOf (tools ++ [t]) name = t.handler.or (handlerOf tools name) := by
  have hfilter : (tools ++ [t]).filter (·.name = name) = tools.filter (·.name = name) ++ [t] := by
    rw [List.filter_append, List.filter_cons_of_pos (by simpa using h), List.filter_nil]
  unfold handlerOf
  rw [hfilter, List.foldl_append]
  rfl

/-- The handler of a name is that of the last tool that has one.  The induction is on the tools from the end, where a
further tool comes before all that were there. -/
theorem handlerOf_cases (tools : List ToolSpec) (name : String) :
    (∃ h, handlerOf tools name = some h ∧ HandledBy tools name h) ∨
      handlerOf tools name = none ∧ Unhandled tools name := by
  induction tools using List.reverseRecOn with
  | nil => exact .inr ⟨rfl, by simp [Unhandled]⟩
  | append_singleton tools t ih =>
    -- A tool that has another name or no handler leaves the handler of the name as it was.
    have hskip : handlerOf (tools ++ [t]) name = handlerOf tools name → (t.name = name → t.handler = none) →
        (∃ h, handlerOf (tools ++ [t]) name = some h ∧ HandledBy (tools ++ [t]) name h) ∨
          handlerOf (tools ++ [t]) name = none ∧ Unhandled (tools ++ [t]) name := by
      intro heq hnone
      rw [heq]
      rcases ih with ⟨h, hsome, before, u, after, rfl, hname, hhandler, hafter⟩ | ⟨hempty, hunhandled⟩
      · refine .inl ⟨h, hsome, before, u, after ++ [t], by simp, hname, hhandler, ?_⟩
        exact List.forall_mem_append.2 ⟨hafter, by simpa using hnone⟩
      · exact .inr ⟨hempty, List.forall_mem_append.2 ⟨hunhandled, by simpa using hnone⟩⟩
    by_cases hname : t.name = name
    · cases hhandler : t.handler with
      | none =>
        refine hskip ?_ fun _ => hhandler
        rw [handlerOf_concat_of_eq hname, hhandler, Option.none_or]
      | some h =>
        refine .inl ⟨h, ?_, tools, t, [], rfl, hname, hhandler, by simp⟩
        rw [handlerOf_concat_of_eq hname, hhandler, Option.some_or]
    · exact hskip (handlerOf_concat_of_ne hname) fun heq => absurd heq hname

/-! ### Answers -/

/-- How calls are answered one after the other, from one state to another one. -/
inductive Answered (w : Surroundings σ) (tools : List ToolSpec) :
    List ToolCall → State σ → List ToolResult → State σ → Prop
  | nil {st : State σ} : Answered w tools [] st [] st
  | unhandled {c : ToolCall} {calls : List ToolCall} {results : List ToolResult} {st st' : State σ}
      (hnone : Unhandled tools c.name) (hrest : Answered w tools calls st results st') :
      Answered w tools (c :: calls) st results st'
  | returned {c : ToolCall} {calls : List ToolCall} {results : List ToolResult} {st st' : State σ}
      {h : Handler} {v : Value} {host : σ} (hlast : HandledBy tools c.name h)
      (hrun : w.handle h c.arguments st.host = (.ok v, host))
      (hrest : Answered w tools calls { st with host } results st') :
      Answered w tools (c :: calls) st ({ callId := c.id, result := v } :: results) st'
  /-- The result tells the failure, and it is reported. -/
  | failed {c : ToolCall} {calls : List ToolCall} {results : List ToolResult} {st st' : State σ}
      {h : Handler} {f : Failure} {host : σ} (hlast : HandledBy tools c.name h)
      (hrun : w.handle h c.arguments st.host = (.error f, host))
      (hrest : Answered w tools calls
        { st with host, events := st.events ++ [.handlerFailed c.name f.text] } results st') :
      Answered w tools (c :: calls) st
        ({ callId := c.id, result := Value.object [("error", .str f.text)] } :: results) st'

theorem callHandler_of_ok {h : Handler} {c : ToolCall} {v : Value} {st : State σ} {host : σ}
    (hrun : w.handle h c.arguments st.host = (.ok v, host)) :
    (callHandler h c).exec w st = (.ok v, { st with host }) := by
  unfold callHandler
  rw [Run.exec_bind_ok _ Run.exec_read, Run.exec_bind_ok _ (Run.exec_outcome _), Run.exec_onHost, hrun]
  rfl

theorem callHandler_of_error {h : Handler} {c : ToolCall} {f : Failure} {st : State σ} {host : σ}
    (hrun : w.handle h c.arguments st.host = (.error f, host)) :
    (callHandler h c).exec w st = (.ok (.object [("error", .str f.text)]),
      { st with host, events := st.events ++ [.handlerFailed c.name f.text] }) := by
  unfold callHandler
  rw [Run.exec_bind_ok _ Run.exec_read, Run.exec_bind_ok _ (Run.exec_outcome _), Run.exec_onHost, hrun]
  rfl

/-- All calls are answered, whichever handlers fail.  The induction is on the calls, from every state. -/
theorem exec_answerCalls (w : Surroundings σ) (tools : List ToolSpec) (calls : List ToolCall) (st : State σ) :
    ∃ results st', (answerCalls tools calls).exec w st = (.ok results, st') ∧
      Answered w tools calls st results st' := by
  induction calls generalizing st with
  | nil => exact ⟨[], st, rfl, .nil⟩
  | cons c rest ih =>
    rw [answerCalls]
    rcases handlerOf_cases tools c.name with ⟨h, hsome, hlast⟩ | ⟨hempty, hunhandled⟩
    · rw [hsome]
      rcases hrun : w.handle h c.arguments st.host with ⟨f | v, host⟩
      · obtain ⟨results, st', hexec, hanswered⟩ :=
          ih { st with host, events := st.events ++ [.handlerFailed c.name f.text] }
        refine ⟨_, st', ?_, .failed hlast hrun hanswered⟩
        rw [Run.exec_bind_ok _ (callHandler_of_error hrun), Run.exec_bind_ok _ hexec]
        rfl
      · obtain ⟨results, st', hexec, hanswered⟩ := ih { st with host }
        refine ⟨_, st', ?_, .returned hlast hrun hanswered⟩
        rw [Run.exec_bind_ok _ (callHandler_of_ok hrun), Run.exec_bind_ok _ hexec]
        rfl
    · rw [hempty]
      obtain ⟨results, st', hexec, hanswered⟩ := ih st
      exact ⟨results, st', hexec, .unhandled hunhandled hanswered⟩

end Colloquy.Provider
