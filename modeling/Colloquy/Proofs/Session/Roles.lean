import Colloquy.Proofs.Session.ReadBack

/-!
# The rule of the roles

Messages are made by the functions for each role or read from objects, and changed by making copies.  However a message
is made, it keeps the rule that only the assistant calls tools and answers in a structure (`Message.Made.admissible`),
and copies with another text or further attributes keep it as well.

A copy with structured content does not ask for the role, so a message that breaks the rule can be made after all
(`Message.structured_userMessage`).  That is the only way to one, and exactly the sessions without such a message can
be read back (`Message.roles_of_histories`).
-/

namespace Colloquy.Message

/-! ### Messages that are made -/

/-- A message as it is made, with the attributes that are given along with it. -/
inductive Made : Message → Prop
  | system (content : String) (attrs : Entries) : Made ((system content).withAttrs attrs)
  | user (content : String) (attrs : Entries) : Made ((user content).withAttrs attrs)
  /-- An empty list of calls counts as none. -/
  | assistant (content : String) (calls : List ToolCall) (structured : Option Entries) (attrs : Entries) :
    Made { (assistant content).withAttrs attrs with
      toolCalls := if calls.isEmpty then none else some calls, structured }
  | toolResult (content callId : String) (attrs : Entries) : Made ((toolResult content callId).withAttrs attrs)
  | read {v : Value} {n n' : Nat} {m : Message} (h : check v n = (.ok m, n')) : Made m

/-- No message that is read breaks the rule. -/
theorem admissible_of_check {v : Value} {n n' : Nat} {m : Message} (h : check v n = (.ok m, n')) : m.Admissible := by
  cases v with
  | object entries =>
    rw [check_object] at h
    obtain ⟨fields, -, hadmitted⟩ := Checked.bind_eq_ok_iff.1 (Prod.mk.inj h).1
    obtain ⟨hadmissible, rfl⟩ := admitted_eq_ok_iff.1 hadmitted
    exact hadmissible
  | _ => exact nomatch (Prod.mk.inj h).1

theorem Made.admissible {m : Message} (h : Made m) : m.Admissible := by
  cases h with
  | system content attrs => exact fun _ => ⟨rfl, rfl⟩
  | user content attrs => exact fun _ => ⟨rfl, rfl⟩
  | assistant content calls structured attrs => exact fun hrole => absurd rfl hrole
  | toolResult content callId attrs => exact fun _ => ⟨rfl, rfl⟩
  | read h => exact admissible_of_check h

/-! ### Copies -/

/-- What a copy of a message changes. -/
inductive Change where
  | content (text : String)
  | attrs (entries : Entries)
  | structured (data : Entries)

/-- The copy of a message with a change. -/
def Change.apply (m : Message) : Change → Message
  | content text => m.withContent text
  | attrs entries => m.withAttrs entries
  | structured data => m.withStructured data

/-- How a message has come about: it was made, and then changed by copies. -/
structure History where
  start : Message
  made : Made start
  changes : List Change

namespace History

/-- The message that a history leads to. -/
def message (h : History) : Message := h.changes.foldl Change.apply h.start

/-- Only a message of the assistant is given structured content. -/
def KeepsRule (h : History) : Prop :=
  h.start.role = .assistant ∨ ∀ data, Change.structured data ∉ h.changes

end History

theorem role_foldl (m : Message) (cs : List Change) : (cs.foldl Change.apply m).role = m.role := by
  induction cs generalizing m with
  | nil => rfl
  | cons c cs ih =>
    rw [List.foldl_cons, ih]
    cases c <;> rfl

theorem toolCalls_foldl (m : Message) (cs : List Change) :
    (cs.foldl Change.apply m).toolCalls = m.toolCalls := by
  induction cs generalizing m with
  | nil => rfl
  | cons c cs ih =>
    rw [List.foldl_cons, ih]
    cases c <;> rfl

/-- Structured content is never taken away again. -/
theorem structured_foldl_eq_none_iff (m : Message) (cs : List Change) :
    (cs.foldl Change.apply m).structured = none ↔ m.structured = none ∧ ∀ data, Change.structured data ∉ cs := by
  induction cs generalizing m with
  | nil => simp
  | cons c cs ih =>
    rw [List.foldl_cons, ih]
    cases c with
    | content text => simp [Change.apply, withContent]
    | attrs entries => simp [Change.apply, withAttrs]
    | structured data =>
      exact ⟨fun h => absurd h.1 (Option.some_ne_none data), fun h => absurd List.mem_cons_self (h.2 data)⟩

/-- A message keeps the rule just if it was given no structured content that belongs to the assistant. -/
theorem History.admissible_iff (h : History) : h.message.Admissible ↔ h.KeepsRule := by
  have hstart := h.made.admissible
  unfold Admissible KeepsRule message calls
  rw [role_foldl, toolCalls_foldl, structured_foldl_eq_none_iff]
  by_cases hrole : h.start.role = .assistant
  · exact ⟨fun _ => .inl hrole, fun _ hne => absurd hrole hne⟩
  · obtain ⟨hcalls, hstructured⟩ := hstart hrole
    exact ⟨fun hrule => .inr (hrule hrole).2.2,
      fun hrule _ => ⟨hcalls, hstructured, hrule.resolve_left hrole⟩⟩

/-- **The rule of the roles.**  Whatever was done to make messages, only those of the assistant call tools, and one of
them breaks the rule just if structured content was given to a message of another role.  A session of such messages can
be read back from the object that it is written as just if none of them breaks the rule. -/
theorem roles_of_histories (hs : List History) (s : Session) (n : Nat) :
    (∀ h ∈ hs, (h.message.calls ≠ [] → h.message.role = .assistant) ∧
      (h.message.Admissible ↔ h.KeepsRule)) ∧
    ((∃ restored, (Session.check { s with messages := hs.map History.message }.toValue n).1 = .ok restored) ↔
      ∀ h ∈ hs, h.KeepsRule) := by
  refine ⟨fun h _ => ⟨fun hcalls => ?_, h.admissible_iff⟩, ?_⟩
  · by_cases hrole : h.start.role = .assistant
    · exact (role_foldl h.start h.changes).trans hrole
    · refine absurd ?_ hcalls
      rw [calls, History.message, toolCalls_foldl]
      exact (h.made.admissible hrole).1
  · obtain ⟨result, hcheck, hresult⟩ :=
      Session.check_toValue { s with messages := hs.map History.message } n
    have hall : (∀ m ∈ hs.map History.message, m.Admissible) ↔ ∀ h ∈ hs, h.KeepsRule := by
      rw [List.forall_mem_map]
      exact forall₂_congr fun h _ => h.admissible_iff
    rw [hcheck, ← hall]
    constructor
    · rintro ⟨restored, hrestored⟩
      exact ((hresult restored).1 hrestored).1
    · intro hadmissible
      exact ⟨_, (hresult _).2 ⟨hadmissible, rfl⟩⟩

/-- The message of a user with structured content is made by a copy, and a session with it is written but not read
back. -/
theorem structured_userMessage :
    Made (user "hi") ∧ ¬ ((user "hi").withStructured [("k", .int 1)]).Admissible ∧
      (Session.check ({ messages := [(user "hi").withStructured [("k", .int 1)]] } : Session).toValue 0).1 =
        .error [⟨["messages", "0"], .rule "user messages cannot carry structured content",
          ((user "hi").withStructured [("k", .int 1)]).toValue⟩] := by
  refine ⟨.user "hi" [], ?_, rfl⟩
  rw [← breach?_eq_none_iff]
  decide

end Colloquy.Message
