import Colloquy.Proofs.Backend.Reply
import Colloquy.Proofs.Json.RoundTrip

/-!
# Translations that lose nothing

Sessions are written for two services in different layouts.  `OpenAI.readTurns` and `Anthropic.readTurns` read a
request back into utterances, the calls in it as the calls of replies are read.  Either reading gives the messages
of the session in order, apart from the system messages in the second one, whose texts stand in a field of their
own (`Session.turns_read_back`).
-/

namespace Colloquy

/-! ### Utterances -/

/-- A message as far as a service is told about it. -/
structure Utterance where
  role : Role
  text : String
  calls : List ToolCall := []
  /-- The id of the call that the result of a tool answers. -/
  answers : Option Value := none

/-- A message as an utterance; a result that does not name its call has an empty id. -/
def Message.utterance (m : Message) : Utterance where
  role := m.role
  text := m.content
  calls := m.calls
  answers := if m.role = .toolResult then some ((m.attrs.lookup "tool_call_id").getD (.str "")) else none

theorem Message.utterance_of_no_calls {m : Message} (hcalls : m.calls = []) : m.utterance =
    { role := m.role, text := m.content,
      answers := if m.role = .toolResult then some ((m.attrs.lookup "tool_call_id").getD (.str "")) else none } := by
  rw [Message.utterance, hcalls]

theorem Message.utterance_of_assistant {m : Message} (h : m.role = .assistant) :
    m.utterance = { role := .assistant, text := m.content, calls := m.calls } := by
  rw [Message.utterance, h]
  rfl

/-- What is said of an entry that no message is written as. -/
def Utterance.unknown : Failure := .fault .badValue "unknown entry"

/-! ### Reading entries for OpenAI -/

namespace OpenAI

/-- The text of an entry; null stands for an empty one. -/
def readText : Value → Except Failure String
  | .null => .ok ""
  | v => Reply.text 0 v

/-- Reads an entry of a request. -/
def readTurn (turn : Value) : Except Failure Utterance := do
  let text ← readText (← Reply.field "content" turn)
  match ← Reply.field "role" turn with
  | .str "system" => return { role := .system, text }
  | .str "user" => return { role := .user, text }
  | .str "assistant" =>
    let calls ← Reply.items (Reply.fieldOr "tool_calls" (.list []) turn)
    return { role := .assistant, text, calls := (← calls.foldlM (Draft.take .plain {}) {}).calls }
  | .str "tool" => return { role := .toolResult, text, answers := some (← Reply.field "tool_call_id" turn) }
  | _ => throw Utterance.unknown

/-- Reads the entries of a request. -/
def readTurns (turns : List Value) : Except Failure (List Utterance) := turns.mapM readTurn

end OpenAI

/-! ### Reading entries for Anthropic -/

namespace Anthropic

/-- Reads the result of a tool in a turn of the user. -/
def readResult (block : Value) : Except Failure Utterance := do
  match ← Reply.field "type" block with
  | .str "tool_result" =>
    let text ← Reply.text 0 (← Reply.field "content" block)
    return { role := .toolResult, text, answers := some (← Reply.field "tool_use_id" block) }
  | _ => throw Utterance.unknown

/-- Reads an entry of a request; each result in a turn of the user is an utterance of its own. -/
def readTurn (turn : Value) : Except Failure (List Utterance) := do
  match ← Reply.field "role" turn, ← Reply.field "content" turn with
  | .str "user", .str text => return [{ role := .user, text }]
  | .str "user", .list blocks => blocks.mapM readResult
  | .str "assistant", .str text => return [{ role := .assistant, text }]
  | .str "assistant", .list blocks =>
    let draft ← blocks.foldlM (Draft.take .plain {}) {}
    return [{ role := .assistant, text := ← Reply.joined draft.texts, calls := draft.calls }]
  | _, _ => throw Utterance.unknown

/-- Reads the entries of a request. -/
def readTurns (turns : List Value) : Except Failure (List Utterance) := do
  return (← turns.mapM readTurn).flatten

end Anthropic

/-! ### Messages for OpenAI -/

variable {wording : Wording} {o : Options} {m : Message}

namespace OpenAI

theorem callLaidOut_call {c : ToolCall} (h : Json.Representable (.object c.arguments)) :
    CallLaidOut c (call c) :=
  ⟨rfl, _, rfl, rfl, _, rfl, .object (Json.readWith_render h)⟩

theorem foldlM_take (ho : o.structured = none) (draft : Draft) {calls : List ToolCall}
    (h : ∀ c ∈ calls, Json.Representable (.object c.arguments)) :
    (calls.map call).foldlM (Draft.take wording o) draft = .ok { draft with calls := draft.calls ++ calls } := by
  have hcalls : List.Forall₂ CallLaidOut calls (calls.map call) :=
    List.forall₂_map_right_iff.2 (List.forall₂_same.2 fun c hc => callLaidOut_call (h c hc))
  rw [foldlM_take_laidOut hcalls, Options.toolCallsOf_of_none _ ho, Options.structureAfter_of_none ho]

/-- An empty text may be written as null. -/
theorem readText_content (content : String) :
    readText (if content = "" then .null else .str content) = .ok content := by
  split_ifs with h
  · rw [h]
    rfl
  · rfl

/-- Messages read back from their entries. -/
theorem readTurn_turn (hm : m.Admissible)
    (hcalls : ∀ c ∈ m.calls, Json.Representable (.object c.arguments)) :
    readTurn (turn m) = .ok m.utterance := by
  unfold turn
  cases hrole : m.role with
  | system =>
    rw [Message.utterance_of_no_calls (hm (by rw [hrole]; decide)).1, hrole]
    rfl
  | user =>
    rw [Message.utterance_of_no_calls (hm (by rw [hrole]; decide)).1, hrole]
    rfl
  | toolResult =>
    rw [Message.utterance_of_no_calls (hm (by rw [hrole]; decide)).1, hrole]
    rfl
  | assistant =>
    rw [Message.utterance_of_assistant hrole]
    show readTurn (if (!m.calls.isEmpty) = true then _ else _) = _
    by_cases hnone : m.calls = []
    · rw [hnone]
      rfl
    · have hsome : (!m.calls.isEmpty) = true := by rw [List.isEmpty_eq_false_iff.2 hnone]; rfl
      rw [if_pos hsome]
      show (readText (if m.content = "" then .null else .str m.content) >>= _) = _
      rw [readText_content]
      show ((m.calls.map call).foldlM (Draft.take .plain {}) {} >>= _) = _
      rw [foldlM_take rfl _ hcalls]
      rfl

end OpenAI

/-! ### Messages for Anthropic -/

namespace Anthropic

theorem foldlM_take (ho : o.structured = none) (draft : Draft) (calls : List ToolCall) :
    (calls.map call).foldlM (Draft.take wording o) draft = .ok { draft with calls := draft.calls ++ calls } := by
  have hcalls : List.Forall₂ Block.LaidOut (calls.map .call) (calls.map call) := by
    rw [List.forall₂_map_left_iff, List.forall₂_map_right_iff]
    exact List.forall₂_same.2 fun c _ => laidOut_call c
  have htexts : (calls.map Block.call).filterMap Block.text? = [] := by
    simp [List.filterMap_map, Function.comp_def, Block.text?]
  have hkept : (calls.map Block.call).filterMap Block.call? = calls := by
    simp [List.filterMap_map, Function.comp_def, Block.call?]
  rw [foldlM_take_laidOut hcalls, htexts, hkept, List.map_nil, List.append_nil, Options.toolCallsOf_of_none _ ho,
    Options.structureAfter_of_none ho]

/-- The texts of a message's blocks: none for an empty text. -/
def texts (content : String) : List Value := if content = "" then [] else [.str content]

theorem foldlM_text (o : Options) (content : String) :
    (if content = "" then [] else [Value.object [("type", .str "text"), ("text", .str content)]]).foldlM
      (Draft.take wording o) {} = .ok { texts := texts content } := by
  unfold texts
  split_ifs <;> rfl

theorem joined_texts (content : String) : Reply.joined (texts content) = .ok content := by
  unfold texts
  split_ifs with h
  · rw [h]
    rfl
  · exact congrArg Except.ok (String.empty_append)

/-- The blocks of a message of the assistant. -/
def blocks (m : Message) : List Value :=
  (if m.content = "" then [] else [Value.object [("type", .str "text"), ("text", .str m.content)]]) ++
    m.calls.map call

theorem foldlM_blocks (ho : o.structured = none) (m : Message) :
    (blocks m).foldlM (Draft.take wording o) {} = .ok { texts := texts m.content, calls := m.calls } := by
  rw [blocks, List.foldlM_append, foldlM_text]
  exact foldlM_take ho _ m.calls

/-- Messages read back from their entries. -/
theorem readTurn_turn (hm : m.Admissible) {turn : Value} (h : turn? m = some turn) :
    readTurn turn = .ok [m.utterance] := by
  unfold turn? at h
  cases hrole : m.role with
  | system =>
    rw [hrole] at h
    exact nomatch h
  | user =>
    rw [hrole] at h
    rw [← Option.some.inj h, Message.utterance_of_no_calls (hm (by rw [hrole]; decide)).1, hrole]
    rfl
  | toolResult =>
    rw [hrole] at h
    rw [← Option.some.inj h, Message.utterance_of_no_calls (hm (by rw [hrole]; decide)).1, hrole]
    rfl
  | assistant =>
    rw [hrole] at h
    rw [← Option.some.inj h, Message.utterance_of_assistant hrole]
    show readTurn (.object [("role", .str "assistant"),
      ("content", if (blocks m).isEmpty then .str m.content else .list (blocks m))]) = _
    split_ifs with hempty
    · have hcalls : m.calls = [] := by
        have hnil := List.isEmpty_iff.1 hempty
        exact List.map_eq_nil_iff.1 (List.append_eq_nil_iff.1 hnil).2
      rw [hcalls]
      rfl
    · show ((blocks m).foldlM (Draft.take .plain {}) {} >>= _) = _
      rw [foldlM_blocks rfl]
      show (Reply.joined (texts m.content) >>= _) = _
      rw [joined_texts]
      rfl

end Anthropic

/-! ### Sessions -/

theorem OpenAI.readTurns_turns {s : Session} (hm : ∀ m ∈ s.messages, m.Admissible)
    (hcalls : ∀ m ∈ s.messages, ∀ c ∈ m.calls, Json.Representable (.object c.arguments)) :
    OpenAI.readTurns (OpenAI.turns s) = .ok (s.messages.map Message.utterance) := by
  unfold OpenAI.readTurns OpenAI.turns
  generalize s.messages = messages at hm hcalls
  induction messages with
  | nil => rfl
  | cons m messages ih =>
    rw [List.map_cons, List.mapM_cons, OpenAI.readTurn_turn (hm m (List.mem_cons_self ..))
      (hcalls m (List.mem_cons_self ..)), ih (fun n hn => hm n (List.mem_cons_of_mem m hn))
      fun n hn => hcalls n (List.mem_cons_of_mem m hn)]
    rfl

theorem Anthropic.turn?_eq_none_iff {m : Message} : Anthropic.turn? m = none ↔ m.role = .system := by
  unfold Anthropic.turn?
  cases m.role with
  | system => exact ⟨fun _ => rfl, fun _ => rfl⟩
  | user => exact ⟨nofun, nofun⟩
  | assistant => exact ⟨nofun, nofun⟩
  | toolResult => exact ⟨nofun, nofun⟩

theorem Anthropic.readTurns_turns {s : Session} (hm : ∀ m ∈ s.messages, m.Admissible) :
    Anthropic.readTurns (Anthropic.turns s) =
      .ok ((s.messages.filter (·.role ≠ .system)).map Message.utterance) := by
  have hturns : (Anthropic.turns s).mapM Anthropic.readTurn =
      .ok ((s.messages.filter (·.role ≠ .system)).map fun m => [m.utterance]) := by
    unfold Anthropic.turns
    generalize s.messages = messages at hm
    induction messages with
    | nil => rfl
    | cons m messages ih =>
      have hrest := ih fun n hn => hm n (List.mem_cons_of_mem m hn)
      cases hturn : Anthropic.turn? m with
      | none =>
        have hrole := Anthropic.turn?_eq_none_iff.1 hturn
        rw [List.filterMap_cons_none hturn, List.filter_cons_of_neg (by simp [hrole]), hrest]
      | some turn =>
        have hrole : m.role ≠ .system := fun h => by
          rw [Anthropic.turn?_eq_none_iff.2 h] at hturn
          exact nomatch hturn
        rw [List.filterMap_cons_some hturn, List.filter_cons_of_pos (by simp [hrole]), List.mapM_cons,
          Anthropic.readTurn_turn (hm m (List.mem_cons_self ..)) hturn, hrest]
        rfl
  have hflatten : ∀ messages : List Message,
      (messages.map fun m => [m.utterance]).flatten = messages.map Message.utterance := by
    intro messages
    rw [← List.flatMap_def, ← List.map_eq_flatMap]
  rw [Anthropic.readTurns, hturns, ← hflatten]
  rfl

/-- **Translations lose nothing.**  Read back, the entries for OpenAI are the messages of the session, and those for
Anthropic are the same without the system messages, whose texts are put together with empty lines between them. -/
theorem Session.turns_read_back (s : Session) (hm : ∀ m ∈ s.messages, m.Admissible)
    (hcalls : ∀ m ∈ s.messages, ∀ c ∈ m.calls, Json.Representable (.object c.arguments)) :
    OpenAI.readTurns (OpenAI.turns s) = .ok (s.messages.map Message.utterance) ∧
      Anthropic.readTurns (Anthropic.turns s) =
        .ok ((s.messages.map Message.utterance).filter (·.role ≠ .system)) ∧
      Anthropic.systemText s = "\n\n".intercalate
        (((s.messages.map Message.utterance).filter (·.role = .system)).map (·.text)) := by
  refine ⟨OpenAI.readTurns_turns hm hcalls, ?_, ?_⟩
  · rw [Anthropic.readTurns_turns hm, List.filter_map]
    rfl
  · rw [List.filter_map, List.map_map]
    rfl

/-- Arguments in which texts need escapes and values are nested. -/
def forecastArguments : Entries :=
  [("city", .str "Tromsø\n\"🌍\""), ("days", .list [.int (-1), .float 2.5, .null]),
    ("units", .object [("metric", .bool true)])]

/-- A conversation with a call, and with a result that names no call. -/
def forecastSession : Session where
  messages := [.system "Be brief.", .user "Weather?",
    { role := .assistant, toolCalls := some [{ name := "weather", arguments := forecastArguments, id := "call_1" }] },
    .toolResult "3" "call_1", .system "Use words.", { role := .toolResult, content := "4" }, .assistant ""]

theorem representable_forecastArguments : Json.Representable (.object forecastArguments) := by
  refine .object (by decide) (List.forall_mem_cons.2 ⟨.str _, List.forall_mem_cons.2 ⟨.list ?_, ?_⟩⟩)
  · exact List.forall_mem_cons.2 ⟨.int _, List.forall_mem_cons.2 ⟨.float (by decide +kernel),
      List.forall_mem_singleton.2 .null⟩⟩
  · exact List.forall_mem_singleton.2 (.object (by decide) (List.forall_mem_singleton.2 (.bool _)))

theorem Session.turns_read_back_forecast :
    (∀ m ∈ forecastSession.messages, m.Admissible) ∧
      (∀ m ∈ forecastSession.messages, ∀ c ∈ m.calls, Json.Representable (.object c.arguments)) ∧
      OpenAI.readTurns (OpenAI.turns forecastSession) = .ok (forecastSession.messages.map Message.utterance) ∧
      Anthropic.readTurns (Anthropic.turns forecastSession) =
        .ok ((forecastSession.messages.map Message.utterance).filter (·.role ≠ .system)) ∧
      Anthropic.systemText forecastSession = "Be brief.\n\nUse words." := by
  have hbreach : ∀ m ∈ forecastSession.messages, m.breach? = none := by decide
  have hm : ∀ m ∈ forecastSession.messages, m.Admissible := fun m h =>
    (Message.breach?_eq_none_iff m).1 (hbreach m h)
  have hcalls : ∀ m ∈ forecastSession.messages, ∀ c ∈ m.calls, Json.Representable (.object c.arguments) := by
    intro m h c hc
    have hmem : c ∈ forecastSession.messages.flatMap Message.calls := List.mem_flatMap.2 ⟨m, h, hc⟩
    have honly : forecastSession.messages.flatMap Message.calls =
        [{ name := "weather", arguments := forecastArguments, id := "call_1" }] := rfl
    rw [honly] at hmem
    rw [List.mem_singleton.1 hmem]
    exact representable_forecastArguments
  obtain ⟨hopenai, hanthropic, hsystem⟩ := Session.turns_read_back forecastSession hm hcalls
  exact ⟨hm, hcalls, hopenai, hanthropic, hsystem.trans (by decide)⟩

end Colloquy
