import Colloquy.Session.Check

/-!
# Sessions read back

A session is written as an object and read from one.  Each field is read by the check that fits what is written for
it, so a message reads back as itself unless it breaks the rule of the roles (`Message.check_toValue`), and a session
reads back, but for its observer, just if none of its messages breaks it (`Session.check_toValue`).

All calls are written with their ids, so no id is given out on the way back: the count of ids is the same before and
after.
-/

namespace Colloquy

/-! ### Lists -/

namespace Checked

variable {α β : Type} {a : Checked α} {b : β}

theorem within_eq_ok_iff {step : String} {x : α} : a.within step = .ok x ↔ a = .ok x := by
  cases a <;> simp [within]

theorem map_eq_ok_iff {f : α → β} : a.map f = .ok b ↔ ∃ x, a = .ok x ∧ f x = b := by
  cases a <;> simp [Except.map]

theorem bind_eq_ok_iff {f : α → Checked β} : a.bind f = .ok b ↔ ∃ x, a = .ok x ∧ f x = .ok b := by
  cases a <;> simp [Except.bind]

end Checked

namespace Numbered

variable {α β : Type} {check : Value → Numbered (Checked β)} {write : α → Value}

theorem items_cons (check : Value → Numbered (Checked β)) (i : Nat) (v : Value) (vs : List Value) (n : Nat) :
    items check i (v :: vs) n =
      ((Checked.both ((check v n).1.within (toString i)) (items check (i + 1) vs (check v n).2).1).map
        fun read => read.1 :: read.2, (items check (i + 1) vs (check v n).2).2) := rfl

/-- Items that are read one by one without giving out ids are read as a list, of all that they are read as. -/
theorem items_map {read : α → Checked β} (h : ∀ a n, check (write a) n = (read a, n)) (as : List α) (i n : Nat) :
    ∃ result, items check i (as.map write) n = (result, n) ∧
      ∀ bs, result = .ok bs ↔ as.map read = bs.map .ok := by
  induction as generalizing i with
  | nil =>
    refine ⟨.ok [], rfl, fun bs => ?_⟩
    cases bs <;> simp
  | cons a as ih =>
    obtain ⟨others, hothers, hiff⟩ := ih (i + 1)
    refine ⟨(Checked.both ((read a).within (toString i)) others).map fun read => read.1 :: read.2, ?_, fun bs => ?_⟩
    · rw [List.map_cons, items_cons, h, hothers]
    · rw [Checked.map_eq_ok_iff]
      constructor
      · rintro ⟨⟨b, rest⟩, hboth, rfl⟩
        obtain ⟨hfirst, hrest⟩ := Checked.both_eq_ok_iff.1 hboth
        rw [List.map_cons, List.map_cons, Checked.within_eq_ok_iff.1 hfirst, (hiff rest).1 hrest]
      · intro hmap
        cases bs with
        | nil => exact nomatch hmap
        | cons b rest =>
          obtain ⟨hfirst, hrest⟩ := List.cons.inj hmap
          refine ⟨(b, rest), Checked.both_eq_ok_iff.2 ⟨?_, (hiff rest).2 hrest⟩, rfl⟩
          rw [hfirst]
          rfl

end Numbered

/-! ### Messages -/

theorem ToolCall.check_toValue (c : ToolCall) (n : Nat) : ToolCall.check c.toValue n = (.ok c, n) := rfl

namespace Message

/-- The message that a value is read as, unless it breaks the rule of the roles. -/
def admitted (m : Message) (v : Value) : Checked Message :=
  match m.breach? with
  | some message => .misfit (.rule message) v
  | none => .ok m

theorem admitted_eq_ok_iff {m m' : Message} {v : Value} : m.admitted v = .ok m' ↔ m.Admissible ∧ m = m' := by
  rw [← breach?_eq_none_iff, admitted]
  cases m.breach? with
  | none => simp
  | some message => exact ⟨nofun, fun h => nomatch h.1⟩

/-- What is read for the calls of a message. -/
def readCalls (entries : Entries) : Numbered (Checked (Option (List ToolCall))) := do
  match Assoc.lookup "tool_calls" entries with
  | none | some .null => return .ok none
  | some (.list vs) => return Checked.within "tool_calls" ((← Numbered.items ToolCall.check 0 vs).map some)
  | some v => return (Checked.misfit .notList v).within "tool_calls"

/-- What is read for a message, given what is read for its calls. -/
def readFields (entries : Entries) (calls : Checked (Option (List ToolCall))) : Checked Message :=
  let fields := (Check.required entries "role" Role.check).both
    ((Check.field entries "content" "" Check.text).both ((Check.field entries "attrs" [] Check.mapping).both
      (calls.both (Check.field entries "structured_content" none (Check.optional Check.mapping)))))
  fields.bind fun (role, content, attrs, toolCalls, structured) =>
    ({ role, content, attrs, toolCalls, structured } : Message).admitted (.object entries)

theorem check_object (entries : Entries) (n : Nat) : check (.object entries) n =
    (readFields entries (readCalls entries n).1, (readCalls entries n).2) := by
  unfold check readCalls
  dsimp only
  cases Assoc.lookup "tool_calls" entries with
  | none => rfl
  | some calls => cases calls <;> rfl

/-- A message reads back as itself, unless it breaks the rule of the roles. -/
theorem check_toValue (m : Message) (n : Nat) : check m.toValue n = (m.admitted m.toValue, n) := by
  obtain ⟨role, content, attrs, toolCalls, structured⟩ := m
  rw [toValue, check_object]
  cases toolCalls with
  | none => cases role <;> cases structured <;> rfl
  | some calls =>
    obtain ⟨result, hitems, hresult⟩ := Numbered.items_map ToolCall.check_toValue calls 0 n
    obtain rfl : result = .ok calls := (hresult calls).2 rfl
    have hcalls : ∀ entries : Entries,
        Assoc.lookup "tool_calls" entries = some (.list (calls.map ToolCall.toValue)) →
        readCalls entries n = (.ok (some calls), n) := by
      intro entries hentries
      unfold readCalls
      simp only [hentries, bind, StateT.bind, hitems]
      rfl
    rw [hcalls _ rfl]
    cases role <;> cases structured <;> rfl

end Message

/-! ### Sessions -/

namespace Session

theorem map_admitted_eq_iff {ms ms' : List Message} :
    (ms.map fun m => m.admitted m.toValue) = ms'.map .ok ↔ (∀ m ∈ ms, m.Admissible) ∧ ms' = ms := by
  induction ms generalizing ms' with
  | nil => cases ms' <;> simp
  | cons m ms ih =>
    cases ms' with
    | nil => simp
    | cons m' ms' =>
      rw [List.map_cons, List.map_cons, List.cons.injEq, ih, Message.admitted_eq_ok_iff, List.forall_mem_cons,
        List.cons.injEq]
      constructor
      · rintro ⟨⟨hm, rfl⟩, hms, rfl⟩
        exact ⟨⟨hm, hms⟩, rfl, rfl⟩
      · rintro ⟨⟨hm, hms⟩, rfl, rfl⟩
        exact ⟨⟨hm, rfl⟩, hms, rfl⟩

/-- What is read for a written session gives out no id, and is the session without its observer just if none of its
messages breaks the rule of the roles. -/
theorem check_toValue (s : Session) (n : Nat) : ∃ result, check s.toValue n = (result, n) ∧
    ∀ restored, result = .ok restored ↔
      (∀ m ∈ s.messages, m.Admissible) ∧ restored = { s with observer := none } := by
  obtain ⟨messages, hitems, hmessages⟩ := Numbered.items_map Message.check_toValue s.messages 0 n
  refine ⟨(Checked.both (messages.within "messages") (.both (.ok s.vars) (.both (.ok s.attrs)
    (.both (.ok s.echo) (.ok ()))))).map fun (messages, vars, attrs, echo, _) => { messages, vars, attrs, echo },
    ?_, fun restored => ?_⟩
  · unfold check toValue
    simp only [Assoc.lookup, String.reduceEq, reduceIte, bind, StateT.bind, Functor.map, StateT.map, hitems]
    rfl
  · rw [Checked.map_eq_ok_iff]
    constructor
    · rintro ⟨⟨ms, vars, attrs, echo, _⟩, hfields, rfl⟩
      obtain ⟨hread, hrest⟩ := Checked.both_eq_ok_iff.1 hfields
      obtain ⟨hadmissible, rfl⟩ :=
        map_admitted_eq_iff.1 ((hmessages ms).1 (Checked.within_eq_ok_iff.1 hread))
      cases hrest
      exact ⟨hadmissible, rfl⟩
    · rintro ⟨hadmissible, rfl⟩
      have hread : messages = .ok s.messages := (hmessages s.messages).2 (map_admitted_eq_iff.2 ⟨hadmissible, rfl⟩)
      refine ⟨⟨s.messages, s.vars, s.attrs, s.echo, ()⟩, ?_, rfl⟩
      rw [hread]
      rfl

/-- **Sessions read back.**  A session whose messages keep the rule of the roles is read back from the object that it
is written as: nothing is lost of its messages, vars and attributes, no id is given out, and only the observer, of
which nothing was written, is gone.  So what is read back is written as the same object. -/
theorem reads_back (s : Session) (n : Nat) (h : ∀ m ∈ s.messages, m.Admissible) :
    ∃ restored, check s.toValue n = (.ok restored, n) ∧ restored.messages = s.messages ∧
      restored.vars = s.vars ∧ restored.attrs = s.attrs ∧ restored.echo = s.echo ∧ restored.observer = none ∧
      restored.toValue = s.toValue := by
  obtain ⟨result, hcheck, hresult⟩ := check_toValue s n
  refine ⟨{ s with observer := none }, ?_, rfl, rfl, rfl, rfl, rfl, rfl⟩
  rw [hcheck, (hresult _).2 ⟨h, rfl⟩]

/-- A conversation with everything that a session can hold: calls and structured content of the assistant, an empty
list of calls beside a missing one, nested values, and an observer. -/
def bookingSession : Session where
  messages := [
    { role := .user, content := "Book a table.", attrs := [("lang", .str "en")], toolCalls := some [] },
    { role := .assistant, toolCalls := some [
        { name := "book", arguments := [("seats", .list [.int 2, .float 0.5, .null])], id := "call_7" },
        { name := "book", arguments := [], id := "" }],
      structured := some [("slot", .object [("open", .bool true)])] },
    .toolResult "done" "call_7"]
  vars := [("order", .object [("id", .int (-3)), ("notes", .list [])])]
  attrs := [("topic", .null)]
  echo := true
  observer := some ⟨1⟩

theorem reads_back_booking : (∀ m ∈ bookingSession.messages, m.Admissible) ∧
    ∃ restored, check bookingSession.toValue 4 = (.ok restored, 4) ∧
      restored.messages = bookingSession.messages ∧ restored.vars = bookingSession.vars ∧
      restored.attrs = bookingSession.attrs ∧ restored.echo = true ∧ restored.observer = none ∧
      restored.toValue = bookingSession.toValue := by
  have hbreach : ∀ m ∈ bookingSession.messages, m.breach? = none := by decide
  have h : ∀ m ∈ bookingSession.messages, m.Admissible := fun m hm =>
    (Message.breach?_eq_none_iff m).1 (hbreach m hm)
  exact ⟨h, reads_back bookingSession 4 h⟩

end Session

end Colloquy
