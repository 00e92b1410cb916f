import Colloquy.Middleware.Cache
import Colloquy.Proofs.Json.Sorted

/-!
# What the default key tells apart

The default key is the digest of a text in which a request is written down.  Each record in it is `Alike` another one
if the two agree in all that is written, up to the order of keys: tool calls, messages, sessions, tools, structures and
options are alike just when the objects are that they are written as.  So, unless the two texts are a collision of the
digest, two requests have one key just when they are alike (`Context.cacheKey_eq_iff`).
-/

namespace Colloquy

open Json (Representable)

/-! ### Values -/

namespace Value

@[simp]
theorem alike_null : Alike .null .null ↔ True := ⟨fun _ => trivial, fun _ => .null⟩

@[simp]
theorem alike_bool {b b' : Bool} : Alike (.bool b) (.bool b') ↔ b = b' :=
  ⟨fun h => by cases h; rfl, fun h => h ▸ .bool b⟩

@[simp]
theorem alike_str {s s' : String} : Alike (.str s) (.str s') ↔ s = s' :=
  ⟨fun h => by cases h; rfl, fun h => h ▸ .str s⟩

@[simp]
theorem alike_list {items items' : List Value} :
    Alike (.list items) (.list items') ↔ List.Forall₂ Alike items items' :=
  ⟨fun h => by cases h; assumption, .list⟩

theorem eq_null_of_alike {v : Value} (h : Alike .null v ∨ Alike v .null) : v = .null := by
  rcases h with h | h <;> cases h <;> rfl

/-- Values that may be left out, with null in their place. -/
theorem alike_optional {α : Type} {g : α → Value} {R : α → α → Prop} (hsome : ∀ a, g a ≠ .null)
    (h : ∀ a b, (g a).Alike (g b) ↔ R a b) (o o' : Option α) {v v' : Value} (hv : v = o.elim .null g)
    (hv' : v' = o'.elim .null g) : v.Alike v' ↔ Option.Rel R o o' := by
  rw [hv, hv']
  cases o with
  | none =>
    cases o' with
    | none => simp
    | some b => exact iff_of_false (fun halike => hsome b (eq_null_of_alike (.inl halike))) (by simp)
  | some a =>
    cases o' with
    | none => exact iff_of_false (fun halike => hsome a (eq_null_of_alike (.inr halike))) (by simp)
    | some b => exact (h a b).trans Option.rel_some_some.symm

theorem alike_ofText? {s s' : Option String} : Alike (.ofText? s) (.ofText? s') ↔ s = s' := by
  have hnotNull : ∀ s, str s ≠ .null := by simp
  rw [alike_optional hnotNull (fun _ _ => alike_str) s s' (by cases s <;> rfl) (by cases s' <;> rfl)]
  cases s <;> cases s' <;> simp

theorem alike_map {α : Type} {f : α → Value} {R : α → α → Prop} (h : ∀ a b, (f a).Alike (f b) ↔ R a b)
    {l l' : List α} : Alike (.list (l.map f)) (.list (l'.map f)) ↔ List.Forall₂ R l l' := by
  simp only [alike_list, List.forall₂_map_left_iff, List.forall₂_map_right_iff, h]

end Value

/-- Entries with alike values under the same keys. -/
def EntriesAlike (entries entries' : Entries) : Prop := Value.Alike (.object entries) (.object entries')

theorem alike_ofEntries? {entries entries' : Option Entries} :
    Value.Alike (.ofEntries? entries) (.ofEntries? entries') ↔ Option.Rel EntriesAlike entries entries' :=
  Value.alike_optional (by simp) (fun _ _ => Iff.rfl) entries entries' (by cases entries <;> rfl)
    (by cases entries' <;> rfl)

/-! ### Sessions -/

/-- Calls of the same name and id with alike arguments. -/
structure ToolCall.Alike (c c' : ToolCall) : Prop where
  name : c.name = c'.name
  arguments : EntriesAlike c.arguments c'.arguments
  id : c.id = c'.id

theorem ToolCall.alike_toValue (c c' : ToolCall) : c.toValue.Alike c'.toValue ↔ c.Alike c' := by
  rw [toValue, toValue, Value.alike_record_iff ["name", "arguments", "id"] (by decide) rfl rfl]
  simp only [List.forall₂_cons, Value.alike_str]
  exact ⟨fun ⟨hname, harguments, hid, _⟩ => ⟨hname, harguments, hid⟩,
    fun h => ⟨h.name, h.arguments, h.id, .nil⟩⟩

/-- Messages with the same role and text, with alike attributes and structured content, and with alike calls one by
one. -/
structure Message.Alike (m m' : Message) : Prop where
  role : m.role = m'.role
  content : m.content = m'.content
  attrs : EntriesAlike m.attrs m'.attrs
  toolCalls : Option.Rel (List.Forall₂ ToolCall.Alike) m.toolCalls m'.toolCalls
  structured : Option.Rel EntriesAlike m.structured m'.structured

theorem Role.word_inj {r r' : Role} : r.word = r'.word ↔ r = r' := by
  refine ⟨fun h => ?_, fun h => h ▸ rfl⟩
  have hword := ofWord?_word r
  rw [h, ofWord?_word] at hword
  exact (Option.some.inj hword).symm

theorem Message.alike_toValue (m m' : Message) : m.toValue.Alike m'.toValue ↔ m.Alike m' := by
  have hnotNull : ∀ calls : List ToolCall, Value.list (calls.map ToolCall.toValue) ≠ .null := by simp
  rw [toValue, toValue,
    Value.alike_record_iff ["role", "content", "attrs", "tool_calls", "structured_content"] (by decide) rfl rfl]
  simp only [List.forall₂_cons, Value.alike_str, Role.word_inj, alike_ofEntries?]
  have hcalls {v v' : Value} := @Value.alike_optional _ _ _ hnotNull (fun _ _ => Value.alike_map ToolCall.alike_toValue)
    m.toolCalls m'.toolCalls v v'
  constructor
  · rintro ⟨hrole, hcontent, hattrs, halike, hstructured, -⟩
    have hsame := (hcalls (by cases m.toolCalls <;> rfl) (by cases m'.toolCalls <;> rfl)).1 halike
    exact ⟨hrole, hcontent, hattrs, hsame, hstructured⟩
  · intro h
    refine ⟨h.role, h.content, h.attrs, (hcalls ?_ ?_).2 h.toolCalls, h.structured, .nil⟩
    · cases m.toolCalls <;> rfl
    · cases m'.toolCalls <;> rfl

/-- Sessions with alike messages one by one, with alike vars and attributes, and with the same echo. -/
structure Session.Alike (s s' : Session) : Prop where
  messages : List.Forall₂ Message.Alike s.messages s'.messages
  vars : EntriesAlike s.vars s'.vars
  attrs : EntriesAlike s.attrs s'.attrs
  echo : s.echo = s'.echo

theorem Session.alike_toValue (s s' : Session) : s.toValue.Alike s'.toValue ↔ s.Alike s' := by
  rw [toValue, toValue, Value.alike_record_iff ["messages", "vars", "attrs", "echo"] (by decide) rfl rfl]
  simp only [List.forall₂_cons, Value.alike_map Message.alike_toValue, Value.alike_bool]
  exact ⟨fun ⟨hmessages, hvars, hattrs, hecho, _⟩ => ⟨hmessages, hvars, hattrs, hecho⟩,
    fun h => ⟨h.messages, h.vars, h.attrs, h.echo, .nil⟩⟩

/-! ### Options -/

/-- Tools of the same name and description with alike parameters. -/
structure ToolSpec.Alike (t t' : ToolSpec) : Prop where
  name : t.name = t'.name
  description : t.description = t'.description
  parameters : EntriesAlike t.parameters t'.parameters

theorem ToolSpec.alike_toValue (t t' : ToolSpec) : t.toValue.Alike t'.toValue ↔ t.Alike t' := by
  rw [toValue, toValue, Value.alike_record_iff ["name", "description", "parameters"] (by decide) rfl rfl]
  simp only [List.forall₂_cons, Value.alike_str]
  exact ⟨fun ⟨hname, hdescription, hparameters, _⟩ => ⟨hname, hdescription, hparameters⟩,
    fun h => ⟨h.name, h.description, h.parameters, .nil⟩⟩

/-- Structures of the same name and mode with alike schemas. -/
structure StructureSpec.Alike (s s' : StructureSpec) : Prop where
  name : s.name = s'.name
  jsonSchema : EntriesAlike s.jsonSchema s'.jsonSchema
  mode : s.mode = s'.mode

theorem StructureSpec.alike_toValue (s s' : StructureSpec) : s.toValue.Alike s'.toValue ↔ s.Alike s' := by
  rw [toValue, toValue, Value.alike_record_iff ["name", "json_schema", "mode"] (by decide) rfl rfl]
  simp only [List.forall₂_cons, Value.alike_str]
  exact ⟨fun ⟨hname, hschema, hmode, _⟩ => ⟨hname, hschema, hmode⟩,
    fun h => ⟨h.name, h.jsonSchema, h.mode, .nil⟩⟩

theorem ProviderConfig.alike_toValue (p p' : ProviderConfig) : p.toValue.Alike p'.toValue ↔ p = p' := by
  have hword : p.kind.word = p'.kind.word ↔ p.kind = p'.kind := by
    cases p.kind <;> cases p'.kind <;> decide
  rw [toValue, toValue, Value.alike_record_iff ["type", "model", "api_key", "base_url"] (by decide) rfl rfl]
  simp only [List.forall₂_cons, Value.alike_str, Value.alike_ofText?, hword]
  constructor
  · rintro ⟨hkind, hmodel, hkey, hurl, -⟩
    cases p
    cases p'
    simp_all
  · rintro rfl
    exact ⟨rfl, rfl, rfl, rfl, .nil⟩

/-- Options of the same provider and tool choice, with alike sampling numbers, tools, structure and further options. -/
structure Options.Alike (o o' : Options) : Prop where
  provider : o.provider = o'.provider
  temperature : o.temperature.Alike o'.temperature
  maxTokens : o.maxTokens.Alike o'.maxTokens
  topP : o.topP.Alike o'.topP
  topK : o.topK.Alike o'.topK
  tools : List.Forall₂ ToolSpec.Alike o.tools o'.tools
  toolChoice : o.toolChoice = o'.toolChoice
  structured : Option.Rel StructureSpec.Alike o.structured o'.structured
  sdkOptions : EntriesAlike o.sdkOptions o'.sdkOptions

theorem Options.alike_toValue (o o' : Options) : o.toValue.Alike o'.toValue ↔ o.Alike o' := by
  have hchoice : o.toolChoice.map ToolChoice.word = o'.toolChoice.map ToolChoice.word ↔
      o.toolChoice = o'.toolChoice := by
    refine Option.map_inj_right fun c c' => ?_
    cases c <;> cases c' <;> decide
  have hnotNull : ∀ s : StructureSpec, s.toValue ≠ .null := by simp [StructureSpec.toValue]
  have hstructured {v v' : Value} := @Value.alike_optional _ _ _ hnotNull StructureSpec.alike_toValue o.structured
    o'.structured v v'
  rw [toValue, toValue, Value.alike_record_iff ["provider", "temperature", "max_tokens", "top_p", "top_k", "tools",
    "tool_choice", "structured_output", "sdk_options"] (by decide) rfl rfl]
  simp only [List.forall₂_cons, ProviderConfig.alike_toValue, Value.alike_map ToolSpec.alike_toValue,
    Value.alike_ofText?, hchoice]
  constructor
  · rintro ⟨hprovider, htemperature, htokens, htopP, htopK, htools, hchosen, halike, hsdk, -⟩
    have hsame := (hstructured (by cases o.structured <;> rfl) (by cases o'.structured <;> rfl)).1 halike
    exact ⟨hprovider, htemperature, htokens, htopP, htopK, htools, hchosen, hsame, hsdk⟩
  · intro h
    refine ⟨h.provider, h.temperature, h.maxTokens, h.topP, h.topK, h.tools, h.toolChoice,
      (hstructured ?_ ?_).2 h.structured, h.sdkOptions, .nil⟩
    · cases o.structured <;> rfl
    · cases o'.structured <;> rfl

/-! ### What can be written -/

/-- A message all of whose values JSON has a notation for. -/
structure Message.Writable (m : Message) : Prop where
  attrs : Representable (.object m.attrs)
  arguments : ∀ c ∈ m.calls, Representable (.object c.arguments)
  structured : ∀ entries ∈ m.structured, Representable (.object entries)

/-- A session all of whose values JSON has a notation for. -/
structure Session.Writable (s : Session) : Prop where
  messages : ∀ m ∈ s.messages, m.Writable
  vars : Representable (.object s.vars)
  attrs : Representable (.object s.attrs)

/-- Options all of whose values JSON has a notation for. -/
structure Options.Writable (o : Options) : Prop where
  temperature : Representable o.temperature
  maxTokens : Representable o.maxTokens
  topP : Representable o.topP
  topK : Representable o.topK
  parameters : ∀ t ∈ o.tools, Representable (.object t.parameters)
  jsonSchema : ∀ s ∈ o.structured, Representable (.object s.jsonSchema)
  sdkOptions : Representable (.object o.sdkOptions)

theorem representable_ofText? (s : Option String) : Representable (.ofText? s) := by
  cases s with
  | none => exact .null
  | some s => exact .str s

/-- A record with representable values is representable. -/
theorem representable_record {entries : Entries} (keys : List String) (hnodup : keys.Nodup)
    (hkeys : entries.keys = keys) (h : ∀ e ∈ entries, Representable e.2) : Representable (.object entries) :=
  .object (hkeys ▸ hnodup) h

theorem ToolCall.representable_toValue {c : ToolCall} (h : Representable (.object c.arguments)) :
    Representable c.toValue := by
  refine representable_record ["name", "arguments", "id"] (by decide) rfl ?_
  simp only [List.forall_mem_cons]
  exact ⟨.str c.name, h, .str c.id, nofun⟩

theorem Message.Writable.representable {m : Message} (h : m.Writable) : Representable m.toValue := by
  refine representable_record ["role", "content", "attrs", "tool_calls", "structured_content"] (by decide) rfl ?_
  simp only [List.forall_mem_cons]
  refine ⟨.str m.role.word, .str m.content, h.attrs, ?_, ?_, nofun⟩
  · cases hcalls : m.toolCalls with
    | none => exact .null
    | some cs =>
      have harguments : ∀ c ∈ cs, Representable (.object c.arguments) := by
        simpa only [calls, hcalls, Option.getD_some] using h.arguments
      exact .list (List.forall_mem_map.2 fun c hc => ToolCall.representable_toValue (harguments c hc))
  · cases hstructured : m.structured with
    | none => exact .null
    | some entries => exact h.structured entries hstructured

theorem Session.Writable.representable {s : Session} (h : s.Writable) : Representable s.toValue := by
  refine representable_record ["messages", "vars", "attrs", "echo"] (by decide) rfl ?_
  simp only [List.forall_mem_cons]
  exact ⟨.list (List.forall_mem_map.2 fun m hm => (h.messages m hm).representable), h.vars, h.attrs, .bool s.echo,
    nofun⟩

theorem ProviderConfig.representable_toValue (p : ProviderConfig) : Representable p.toValue := by
  refine representable_record ["type", "model", "api_key", "base_url"] (by decide) rfl ?_
  simp only [List.forall_mem_cons]
  exact ⟨.str p.kind.word, .str p.model, .str p.apiKey, representable_ofText? p.baseUrl, nofun⟩

theorem ToolSpec.representable_toValue {t : ToolSpec} (h : Representable (.object t.parameters)) :
    Representable t.toValue := by
  refine representable_record ["name", "description", "parameters"] (by decide) rfl ?_
  simp only [List.forall_mem_cons]
  exact ⟨.str t.name, .str t.description, h, nofun⟩

theorem StructureSpec.representable_toValue {s : StructureSpec} (h : Representable (.object s.jsonSchema)) :
    Representable s.toValue := by
  refine representable_record ["name", "json_schema", "mode"] (by decide) rfl ?_
  simp only [List.forall_mem_cons]
  exact ⟨.str s.name, h, .str s.mode, nofun⟩

theorem Options.Writable.representable {o : Options} (h : o.Writable) : Representable o.toValue := by
  refine representable_record ["provider", "temperature", "max_tokens", "top_p", "top_k", "tools", "tool_choice",
    "structured_output", "sdk_options"] (by decide) rfl ?_
  simp only [List.forall_mem_cons]
  refine ⟨o.provider.representable_toValue, h.temperature, h.maxTokens, h.topP, h.topK,
    .list (List.forall_mem_map.2 fun t ht => ToolSpec.representable_toValue (h.parameters t ht)),
    representable_ofText? _, ?_, h.sdkOptions, nofun⟩
  cases hstructured : o.structured with
  | none => exact .null
  | some s => exact StructureSpec.representable_toValue (h.jsonSchema s hstructured)

/-! ### Requests -/

/-- Two texts that the digest does not tell apart. -/
def Digest.Collides (s s' : String) : Prop := s ≠ s' ∧ hexDigest s = hexDigest s'

namespace Context

/-- The instruction with which the last content was rejected; null if there is none. -/
def feedback (ctx : Context) : Value := (ctx.auxValue feedbackKey).text

/-- A request all of whose values JSON has a notation for. -/
structure Writable (ctx : Context) : Prop where
  session : ctx.session.Writable
  options : ∀ o ∈ ctx.options, o.Writable
  feedback : Representable ctx.feedback

/-- Requests with alike sessions, options and feedback. -/
structure Alike (ctx ctx' : Context) : Prop where
  session : ctx.session.Alike ctx'.session
  options : Option.Rel Options.Alike ctx.options ctx'.options
  feedback : ctx.feedback.Alike ctx'.feedback

variable {ctx ctx' : Context}

theorem alike_identity (ctx ctx' : Context) : ctx.identity.Alike ctx'.identity ↔ ctx.Alike ctx' := by
  have hnotNull : ∀ o : Options, o.toValue ≠ .null := by simp [Options.toValue]
  have hoptions {v v' : Value} :=
    @Value.alike_optional _ _ _ hnotNull Options.alike_toValue ctx.options ctx'.options v v'
  rw [identity, identity, Value.alike_record_iff ["session", "options", "feedback"] (by decide) rfl rfl]
  simp only [List.forall₂_cons, Session.alike_toValue]
  constructor
  · rintro ⟨hsession, halike, hfeedback, -⟩
    have hsame := (hoptions (by cases ctx.options <;> rfl) (by cases ctx'.options <;> rfl)).1 halike
    exact ⟨hsession, hsame, hfeedback⟩
  · intro h
    refine ⟨h.session, (hoptions ?_ ?_).2 h.options, h.feedback, .nil⟩
    · cases ctx.options <;> rfl
    · cases ctx'.options <;> rfl

theorem Writable.representable (h : ctx.Writable) : Representable ctx.identity := by
  refine representable_record ["session", "options", "feedback"] (by decide) rfl ?_
  simp only [List.forall_mem_cons]
  refine ⟨h.session.representable, ?_, h.feedback, nofun⟩
  cases hoptions : ctx.options with
  | none => exact .null
  | some o => exact (h.options o hoptions).representable

/-- **Requests have one key** just when they are alike, unless the digest does not tell apart the two texts that they
are written as. -/
theorem cacheKey_eq_iff (h : ctx.Writable) (h' : ctx'.Writable)
    (hdigest : ¬Digest.Collides (Json.renderSorted ctx.identity) (Json.renderSorted ctx'.identity)) :
    ctx.cacheKey = ctx'.cacheKey ↔ ctx.Alike ctx' := by
  rw [← alike_identity, ← Json.renderSorted_eq_iff h.representable h'.representable]
  exact ⟨fun hkey => by_contra fun hne => hdigest ⟨hne, hkey⟩, fun htext => congrArg Digest.hexDigest htext⟩

/-- A request with nothing but vars. -/
def asking (vars : Entries) : Context := { session := { vars } }

theorem writable_asking {vars : Entries} (h : Representable (.object vars)) : (asking vars).Writable where
  session :=
    { messages := nofun
      vars := h
      attrs := .object List.nodup_nil nofun }
  options := nofun
  feedback := .null

/-- The order of vars is kept out of the key, and `true` is told apart from one. -/
theorem cacheKey_eq_iff_asking :
    let ctx := asking [("n", .int 1), ("m", .bool true)]
    ctx.Alike (asking [("m", .bool true), ("n", .int 1)]) ∧ ¬ctx.Alike (asking [("m", .int 1), ("n", .int 1)]) := by
  intro ctx
  have hflag : ctx.Writable := writable_asking (.object (by decide) (by simp [Representable.int, Representable.bool]))
  have hturned : (asking [("m", .bool true), ("n", .int 1)]).Writable :=
    writable_asking (.object (by decide) (by simp [Representable.int, Representable.bool]))
  have hnumber : (asking [("m", .int 1), ("n", .int 1)]).Writable :=
    writable_asking (.object (by decide) (by simp [Representable.int]))
  have hsame : Json.renderSorted ctx.identity =
      Json.renderSorted (asking [("m", .bool true), ("n", .int 1)]).identity := by
    decide +kernel
  have hdiffers : ctx.cacheKey ≠ (asking [("m", .int 1), ("n", .int 1)]).cacheKey := by
    decide +kernel
  exact ⟨(cacheKey_eq_iff hflag hturned fun h => h.1 hsame).1 (congrArg Digest.hexDigest hsame),
    fun h => hdiffers ((cacheKey_eq_iff hflag hnumber fun h => hdiffers h.2).2 h)⟩

end Context

end Colloquy
