import Colloquy.Backend.Provider
import Colloquy.Value.Access
import Mathlib.Data.List.Forall2

/-!
# What replies say

A reply carries a text and makes calls, and each service has a layout of its own for them: `Anthropic.Says` and
`OpenAI.Says`.  The calls that bear the name of the structure that was asked for are no calls of tools; the last of them
is the structure.  Reading a reply that is laid out in this way never fails, and gives its text, the calls of tools in
their order, and the structure (`readReply_of_said`).
-/

namespace Colloquy

/-! ### Calls of tools and the structure -/

namespace Options

variable (o : Options)

/-- Whether a call stands for the structure that was asked for. -/
def isStructure (c : ToolCall) : Bool := o.structured.any (·.name = c.name)

/-- The calls that are calls of tools. -/
def toolCallsOf (calls : List ToolCall) : List ToolCall := calls.filter (!o.isStructure ·)

/-- The structure among calls: the arguments of the last call that stands for it. -/
def structureOf (calls : List ToolCall) : Option Entries :=
  (calls.filter o.isStructure).getLast?.map (·.arguments)

variable {o} {c : ToolCall} (calls : List ToolCall)

theorem isStructure_of_none (h : o.structured = none) (c : ToolCall) : o.isStructure c = false := by
  rw [isStructure, h]
  rfl

theorem isStructure_of_some {spec : StructureSpec} (h : o.structured = some spec) (c : ToolCall) :
    o.isStructure c = Value.same (.str c.name) (.str spec.name) := by
  rw [isStructure, h, Value.same_str, Option.any_some, Bool.beq_eq_decide_eq]
  exact decide_eq_decide.2 eq_comm

theorem toolCallsOf_of_none (h : o.structured = none) : o.toolCallsOf calls = calls :=
  List.filter_eq_self.2 fun c _ => by rw [isStructure_of_none h, Bool.not_false]

theorem structureOf_of_none (h : o.structured = none) : o.structureOf calls = none := by
  rw [structureOf, List.filter_eq_nil_iff.2 fun c _ => by rw [isStructure_of_none h]; exact Bool.false_ne_true]
  rfl

theorem toolCallsOf_cons_structure (h : o.isStructure c = true) :
    o.toolCallsOf (c :: calls) = o.toolCallsOf calls := by
  rw [toolCallsOf, List.filter_cons_of_neg (by simp [h])]
  rfl

theorem toolCallsOf_cons_tool (h : o.isStructure c = false) :
    o.toolCallsOf (c :: calls) = c :: o.toolCallsOf calls := by
  rw [toolCallsOf, List.filter_cons_of_pos (by simp [h])]
  rfl

theorem structureOf_cons_structure (h : o.isStructure c = true) :
    o.structureOf (c :: calls) = some ((o.structureOf calls).getD c.arguments) := by
  rw [structureOf, List.filter_cons_of_pos h, List.getLast?_cons, structureOf]
  cases (calls.filter o.isStructure).getLast? <;> rfl

theorem structureOf_cons_tool (h : o.isStructure c = false) :
    o.structureOf (c :: calls) = o.structureOf calls := by
  rw [structureOf, List.filter_cons_of_neg (by simp [h])]
  rfl

end Options

/-! ### Layouts of replies -/

namespace Anthropic

/-- A block of a reply. -/
inductive Block where
  | text (t : String)
  | call (c : ToolCall)

namespace Block

/-- The text of a block, if it is one. -/
def text? : Block → Option String
  | text t => some t
  | call _ => none

/-- The call of a block, if it is one. -/
def call? : Block → Option ToolCall
  | text _ => none
  | call c => some c

/-- How a block is laid out. -/
def LaidOut : Block → Value → Prop
  | text t, v => v.field? "type" = some (.str "text") ∧ v.field? "text" = some (.str t)
  | call c, v => v.field? "type" = some (.str "tool_use") ∧ v.field? "id" = some (.str c.id) ∧
      v.field? "name" = some (.str c.name) ∧ v.field? "input" = some (.object c.arguments)

end Block

/-- A reply says a text and makes calls: it consists of blocks, in any order, with the parts of the text and the
calls. -/
def Says (reply : Value) (text : String) (calls : List ToolCall) : Prop :=
  ∃ blocks values, reply.field? "content" = some (.list values) ∧ List.Forall₂ Block.LaidOut blocks values ∧
    text = String.join (blocks.filterMap Block.text?) ∧ calls = blocks.filterMap Block.call?

end Anthropic

namespace OpenAI

/-- The arguments of a call are the JSON text of an object; a text that is left empty stands for one without
entries. -/
inductive Decodes : String → Entries → Prop
  | empty : Decodes "" []
  | object {t : String} {es : Entries} (h : Json.read t = .ok (.object es)) : Decodes t es

/-- How a call is laid out. -/
def CallLaidOut (c : ToolCall) (v : Value) : Prop :=
  v.field? "id" = some (.str c.id) ∧ ∃ function, v.field? "function" = some function ∧
    function.field? "name" = some (.str c.name) ∧
    ∃ t, function.field? "arguments" = some (.str t) ∧ Decodes t c.arguments

/-- How a text is laid out; null stands for an empty one. -/
inductive TextLaidOut : String → Value → Prop
  | text (t : String) : TextLaidOut t (.str t)
  | null : TextLaidOut "" .null

/-- How calls are laid out; null stands for none. -/
inductive CallsLaidOut : List ToolCall → Value → Prop
  | list {calls : List ToolCall} {values : List Value} (h : List.Forall₂ CallLaidOut calls values) :
      CallsLaidOut calls (.list values)
  | null : CallsLaidOut [] .null

/-- A reply says a text and makes calls: its first choice has a message with both of them. -/
def Says (reply : Value) (text : String) (calls : List ToolCall) : Prop :=
  ∃ choice others message finish content made, reply.field? "choices" = some (.list (choice :: others)) ∧
    choice.field? "message" = some message ∧ choice.field? "finish_reason" = some finish ∧
    message.field? "content" = some content ∧ TextLaidOut text content ∧
    message.field? "tool_calls" = some made ∧ CallsLaidOut calls made

end OpenAI

/-- A reply of a service says a text and makes calls. -/
def ProviderKind.Says : ProviderKind → Value → String → List ToolCall → Prop
  | .anthropic => Anthropic.Says
  | .openai => OpenAI.Says

/-! ### Parts of replies -/

namespace Reply

variable {v x : Value} {name : String}

theorem field_eq_ok (h : v.field? name = some x) : field name v = .ok x := by
  cases v with
  | object es =>
    have hlookup : Assoc.lookup name es = some x := h
    simp only [field, hlookup]
  | _ => exact nomatch h

theorem mapM_text (ts : List String) (n : Nat) :
    ((ts.map Value.str).zipIdx n).mapM (fun (v, position) => text position v) = .ok ts := by
  induction ts generalizing n with
  | nil => rfl
  | cons t ts ih =>
    rw [List.map_cons, List.zipIdx_cons, List.mapM_cons, ih]
    rfl

theorem joined_str (ts : List String) : joined (ts.map .str) = .ok (String.join ts) := by
  unfold joined
  rw [mapM_text ts 0]
  rfl

theorem output_str (wording : Wording) (t : String) (calls : List ToolCall) (structured : Option Entries)
    (metadata : Entries) : output wording (.str t) calls ((structured.map Value.object).getD .null) metadata =
      .ok { content := .str t, toolCalls := calls, structured, metadata } := by
  cases structured <;> rfl

theorem arguments_of_decodes {function : Value} {t : String} {es : Entries}
    (h : function.field? "arguments" = some (.str t)) (hdecodes : OpenAI.Decodes t es) :
    arguments function = .ok (.object es) := by
  unfold arguments
  rw [field_eq_ok h]
  cases hdecodes with
  | empty => rfl
  | object hread =>
    have hne : t ≠ "" := by
      rintro rfl
      have hempty : (Json.read "").isOk = false := by decide +kernel
      rw [hread] at hempty
      exact nomatch hempty
    show (if (Value.str t).truthy = true then _ else _) = _
    rw [if_pos (show (Value.str t).truthy = true from bne_iff_ne.2 hne)]
    simp only [hread]

end Reply

/-! ### Reading replies -/

/-- The structure of a draft after further calls: that among them, or else what it was before. -/
def Options.structureAfter (o : Options) (structured : Value) (calls : List ToolCall) : Value :=
  ((o.structureOf calls).map Value.object).getD structured

theorem Options.structureAfter_of_none {o : Options} (h : o.structured = none) (structured : Value)
    (calls : List ToolCall) : o.structureAfter structured calls = structured := by
  rw [structureAfter, structureOf_of_none calls h]
  rfl

theorem Options.structureAfter_cons_structure {o : Options} {c : ToolCall} (h : o.isStructure c = true)
    (structured : Value) (calls : List ToolCall) :
    o.structureAfter structured (c :: calls) = o.structureAfter (.object c.arguments) calls := by
  rw [structureAfter, structureOf_cons_structure calls h, structureAfter]
  cases o.structureOf calls <;> rfl

theorem Options.structureAfter_cons_tool {o : Options} {c : ToolCall} (h : o.isStructure c = false)
    (structured : Value) (calls : List ToolCall) :
    o.structureAfter structured (c :: calls) = o.structureAfter structured calls := by
  rw [structureAfter, structureOf_cons_tool calls h, structureAfter]

namespace Anthropic

variable {wording : Wording} {o : Options} {v : Value}

theorem laidOut_call (c : ToolCall) : (Block.call c).LaidOut (call c) := ⟨rfl, rfl, rfl, rfl⟩

theorem take_text {t : String} (h : (Block.text t).LaidOut v) (draft : Draft) :
    Draft.take wording o draft v = .ok { draft with texts := draft.texts ++ [.str t] } := by
  obtain ⟨htype, htext⟩ := h
  unfold Draft.take
  rw [Reply.field_eq_ok htype, Reply.field_eq_ok htext]
  rfl

theorem take_laidOut {c : ToolCall} (h : (Block.call c).LaidOut v) (draft : Draft) :
    Draft.take wording o draft v = .ok (if o.isStructure c then { draft with structured := .object c.arguments }
      else { draft with calls := draft.calls ++ [c] }) := by
  obtain ⟨htype, hid, hname, hinput⟩ := h
  unfold Draft.take
  rw [Reply.field_eq_ok htype, Reply.field_eq_ok hname, Reply.field_eq_ok hinput, Reply.field_eq_ok hid]
  cases ho : o.structured with
  | none =>
    rw [Options.isStructure_of_none ho]
    rfl
  | some spec =>
    rw [Options.isStructure_of_some ho]
    show (if Value.same (.str c.name) (.str spec.name) = true then _ else _) = _
    split_ifs <;> rfl

/-- Blocks are read one after the other.  The induction is on the blocks, for every draft. -/
theorem foldlM_take_laidOut {blocks : List Block} {values : List Value}
    (h : List.Forall₂ Block.LaidOut blocks values) (draft : Draft) :
    values.foldlM (Draft.take wording o) draft = .ok {
      texts := draft.texts ++ (blocks.filterMap Block.text?).map .str
      calls := draft.calls ++ o.toolCallsOf (blocks.filterMap Block.call?)
      structured := o.structureAfter draft.structured (blocks.filterMap Block.call?) } := by
  induction h generalizing draft with
  | nil => simp [Options.toolCallsOf, Options.structureAfter, Options.structureOf, pure, Except.pure]
  | @cons block v blocks values hblock _ ih =>
    rw [List.foldlM_cons]
    cases block with
    | text t =>
      rw [take_text hblock, List.filterMap_cons_some (show (Block.text t).text? = some t from rfl),
        List.filterMap_cons_none (show (Block.text t).call? = none from rfl), List.map_cons]
      refine (ih _).trans ?_
      rw [List.append_assoc]
      rfl
    | call c =>
      rw [take_laidOut hblock, List.filterMap_cons_none (show (Block.call c).text? = none from rfl),
        List.filterMap_cons_some (show (Block.call c).call? = some c from rfl)]
      cases hc : o.isStructure c with
      | true =>
        rw [if_pos rfl, Options.toolCallsOf_cons_structure _ hc, Options.structureAfter_cons_structure hc]
        exact ih _
      | false =>
        rw [if_neg Bool.false_ne_true, Options.toolCallsOf_cons_tool _ hc,
          Options.structureAfter_cons_tool hc]
        refine (ih _).trans ?_
        rw [List.append_assoc]
        rfl

theorem answer_of_said {reply : Value} {text : String} {calls : List ToolCall} (h : Says reply text calls) :
    ∃ metadata, answer wording o reply = .ok {
      content := .str text, toolCalls := o.toolCallsOf calls, structured := o.structureOf calls, metadata } := by
  obtain ⟨blocks, values, hcontent, hblocks, rfl, rfl⟩ := h
  unfold answer
  rw [Reply.field_eq_ok hcontent]
  show ∃ metadata, (values.foldlM (Draft.take wording o) {} >>= _) = _
  rw [foldlM_take_laidOut hblocks]
  show ∃ metadata, (Reply.joined ((blocks.filterMap Block.text?).map .str) >>= _) = _
  rw [Reply.joined_str]
  exact ⟨_, Reply.output_str _ _ _ _ _⟩

end Anthropic

namespace OpenAI

variable {wording : Wording} {o : Options} {v : Value} {c : ToolCall}

theorem take_laidOut (h : CallLaidOut c v) (draft : Draft) :
    Draft.take wording o draft v = .ok (if o.isStructure c then { draft with structured := .object c.arguments }
      else { draft with calls := draft.calls ++ [c] }) := by
  obtain ⟨hid, function, hfunction, hname, t, harguments, hdecodes⟩ := h
  unfold Draft.take
  rw [Reply.field_eq_ok hfunction]
  show (Reply.arguments function >>= _) = _
  rw [Reply.arguments_of_decodes harguments hdecodes, Reply.field_eq_ok hname, Reply.field_eq_ok hid]
  cases ho : o.structured with
  | none =>
    rw [Options.isStructure_of_none ho]
    rfl
  | some spec =>
    rw [Options.isStructure_of_some ho]
    show (if Value.same (.str c.name) (.str spec.name) = true then _ else _) = _
    split_ifs <;> rfl

/-- Calls are read one after the other.  The induction is on the calls, for every draft. -/
theorem foldlM_take_laidOut {calls : List ToolCall} {values : List Value}
    (h : List.Forall₂ CallLaidOut calls values) (draft : Draft) :
    values.foldlM (Draft.take wording o) draft = .ok {
      calls := draft.calls ++ o.toolCallsOf calls
      structured := o.structureAfter draft.structured calls } := by
  induction h generalizing draft with
  | nil => simp [Options.toolCallsOf, Options.structureAfter, Options.structureOf, pure, Except.pure]
  | @cons c v calls values hcall _ ih =>
    rw [List.foldlM_cons, take_laidOut hcall]
    cases hc : o.isStructure c with
    | true =>
      rw [if_pos rfl, Options.toolCallsOf_cons_structure _ hc, Options.structureAfter_cons_structure hc]
      exact ih _
    | false =>
      rw [if_neg Bool.false_ne_true, Options.toolCallsOf_cons_tool _ hc,
        Options.structureAfter_cons_tool hc]
      refine (ih _).trans ?_
      rw [List.append_assoc]
      rfl

/-- No calls are laid out as null or as an empty list, and any others as a list. -/
theorem CallsLaidOut.cases {calls : List ToolCall} {made : Value} (h : CallsLaidOut calls made) :
    (calls = [] ∧ (made = .null ∨ made = .list [])) ∨
      ∃ v values, made = .list (v :: values) ∧ List.Forall₂ CallLaidOut calls (v :: values) := by
  cases h with
  | null => exact .inl ⟨rfl, .inl rfl⟩
  | list hlist =>
    cases hlist with
    | nil => exact .inl ⟨rfl, .inr rfl⟩
    | cons hcall hrest => exact .inr ⟨_, _, rfl, .cons hcall hrest⟩

theorem textLaidOut_or {text : String} {content : Value} (h : TextLaidOut text content) :
    (if content.truthy then content else .str "") = .str text := by
  cases h with
  | null => rfl
  | text =>
    by_cases ht : text = ""
    · rw [ht]
      rfl
    · exact if_pos (bne_iff_ne.2 ht)

theorem answer_of_said {reply : Value} {text : String} {calls : List ToolCall} (h : Says reply text calls) :
    ∃ metadata, answer wording o reply = .ok {
      content := .str text, toolCalls := o.toolCallsOf calls, structured := o.structureOf calls, metadata } := by
  obtain ⟨choice, others, message, finish, content, made, hchoices, hmessage, hfinish, hcontent, htext, hmade,
    hcalls⟩ := h
  unfold answer
  rw [Reply.field_eq_ok hchoices]
  show ∃ metadata, (Reply.field "message" choice >>= _) = _
  rw [Reply.field_eq_ok hmessage]
  show ∃ metadata, (Reply.field "tool_calls" message >>= _) = _
  rw [Reply.field_eq_ok hmade, Reply.field_eq_ok hcontent, Reply.field_eq_ok hfinish]
  have houtput : ∀ calls (structured : Option Entries) metadata,
      Reply.output wording (if content.truthy then content else .str "") calls
        ((structured.map Value.object).getD .null) metadata =
        .ok { content := .str text, toolCalls := calls, structured, metadata } := by
    intro calls structured metadata
    rw [textLaidOut_or htext]
    exact Reply.output_str wording text calls structured metadata
  rcases hcalls.cases with ⟨rfl, rfl | rfl⟩ | ⟨v, values, rfl, hsome⟩
  · exact ⟨_, houtput [] none _⟩
  · exact ⟨_, houtput [] none _⟩
  · show ∃ metadata, ((v :: values).foldlM (Draft.take wording o) {} >>= _) = _
    rw [foldlM_take_laidOut hsome]
    exact ⟨_, houtput _ _ _⟩

end OpenAI

/-! ### Either service -/

namespace Provider

/-- The request of a session to a service. -/
def requestOf (s : Session) (o : Options) : Entries :=
  match o.provider.kind with
  | .anthropic => Anthropic.request s o
  | .openai => OpenAI.request s o

/-- The output that a reply of a service amounts to. -/
def readReply (wording : Wording) (o : Options) (reply : Value) : Except Failure Output :=
  match o.provider.kind with
  | .anthropic => Anthropic.answer wording o reply
  | .openai => OpenAI.answer wording o reply

theorem readReply_of_said (wording : Wording) (o : Options) {reply : Value} {text : String} {calls : List ToolCall}
    (h : o.provider.kind.Says reply text calls) : ∃ metadata, readReply wording o reply = .ok {
      content := .str text, toolCalls := o.toolCallsOf calls, structured := o.structureOf calls, metadata } := by
  unfold readReply
  cases hkind : o.provider.kind with
  | anthropic =>
    rw [hkind] at h
    exact Anthropic.answer_of_said h
  | openai =>
    rw [hkind] at h
    exact OpenAI.answer_of_said h

end Provider

end Colloquy
