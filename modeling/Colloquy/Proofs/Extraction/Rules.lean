import Colloquy.Extraction.Pattern

/-!
# What pattern rules store

A rule looks at the session that it is given and at nothing else (`PatternRule.Values`): the oldest message of its roles
in which the pattern matches decides, by the leftmost match there (`Pattern.Leftmost`).  The rules are asked in order,
and one whose transform fails ends the run before anything is stored (`Collects`).  Otherwise all values are overlaid at
once, so that for each var the last rule with a value decides, and a rule without one changes nothing
(`patternExtraction_collects`).
-/

namespace Colloquy

namespace Pattern

variable {p : Pattern} {text : String} {m : Match}

/-! ### The leftmost match -/

/-- A match that begins at the first place of a text at which the pattern matches at all. -/
structure Leftmost (p : Pattern) (text : String) (m : Match) : Prop where
  within : m.start ≤ text.toList.length
  here : p.tree.run text.toList.toArray ⟨m.start, []⟩ some = some ⟨m.stop, m.spans⟩
  first : ∀ i < m.start, p.tree.run text.toList.toArray ⟨i, []⟩ some = none

/-- A text with no place, its end included, at which the pattern matches. -/
def Nowhere (p : Pattern) (text : String) : Prop :=
  ∀ i ≤ text.toList.length, p.tree.run text.toList.toArray ⟨i, []⟩ some = none

/-- What a match hands on: its first group, which may have taken no part, and the whole match if the pattern has no
groups. -/
inductive Hands (p : Pattern) (text : String) (m : Match) : Option String → Prop
  | whole (hgroups : p.groupCount = 0) : Hands p text m (some (slice text.toList.toArray m.start m.stop))
  | group {start stop : Nat} (hgroups : p.groupCount ≠ 0)
      (hspan : Spot.span? ⟨m.stop, m.spans⟩ 1 = some (start, stop)) :
      Hands p text m (some (slice text.toList.toArray start stop))
  | apart (hgroups : p.groupCount ≠ 0) (hspan : Spot.span? ⟨m.stop, m.spans⟩ 1 = none) : Hands p text m none

theorem findSome?_range_eq_some_iff {α : Type} {f : Nat → Option α} {n : Nat} {a : α} :
    (List.range n).findSome? f = some a ↔ ∃ i < n, f i = some a ∧ ∀ j < i, f j = none := by
  induction n with
  | zero => exact ⟨nofun, fun ⟨i, hi, _⟩ => absurd hi (Nat.not_lt_zero i)⟩
  | succ n ih =>
    rw [List.range_succ, List.findSome?_append, List.findSome?_singleton, Option.or_eq_some_iff, ih,
      List.findSome?_eq_none_iff]
    constructor
    · rintro (⟨i, hi, hf⟩ | ⟨hnone, hf⟩)
      · exact ⟨i, Nat.lt_succ_of_lt hi, hf⟩
      · exact ⟨n, Nat.lt_succ_self n, hf, fun j hj => hnone j (List.mem_range.2 hj)⟩
    · rintro ⟨i, hi, hf, hfirst⟩
      rcases Nat.lt_succ_iff_lt_or_eq.1 hi with hlt | rfl
      · exact .inl ⟨i, hlt, hf, hfirst⟩
      · exact .inr ⟨fun j hj => hfirst j (List.mem_range.1 hj), hf⟩

theorem search?_eq_some_iff : p.search? text = some m ↔ p.Leftmost text m := by
  rw [search?, Node.search, findSome?_range_eq_some_iff]
  constructor
  · rintro ⟨i, hi, hmatch, hfirst⟩
    obtain ⟨spot, hrun, rfl⟩ := Option.map_eq_some_iff.1 hmatch
    exact ⟨Nat.le_of_lt_succ hi, hrun, fun j hj => Option.map_eq_none_iff.1 (hfirst j hj)⟩
  · rintro ⟨hwithin, hhere, hfirst⟩
    refine ⟨m.start, Nat.lt_succ_of_le hwithin, ?_, fun i hi => ?_⟩
    · rw [hhere]
      rfl
    · rw [hfirst i hi]
      rfl

theorem search?_eq_none_iff : p.search? text = none ↔ p.Nowhere text := by
  simp only [search?, Node.search, List.findSome?_eq_none_iff, List.mem_range, Option.map_eq_none_iff, Nat.lt_succ_iff,
    List.size_toArray, Nowhere]

theorem captured?_eq_none_iff : p.captured? text = none ↔ p.Nowhere text := by
  rw [captured?, Option.map_eq_none_iff, search?_eq_none_iff]

theorem hands_group? (p : Pattern) (text : String) (m : Match) :
    p.Hands text m (m.group? text (if p.groupCount = 0 then 0 else 1)) := by
  by_cases hgroups : p.groupCount = 0
  · rw [if_pos hgroups]
    exact .whole hgroups
  · rw [if_neg hgroups, Match.group?, if_neg Nat.one_ne_zero]
    cases hspan : Spot.span? ⟨m.stop, m.spans⟩ 1 with
    | none => exact .apart hgroups hspan
    | some span => exact .group hgroups hspan

theorem Hands.eq_group? {handed : Option String} (h : p.Hands text m handed) :
    m.group? text (if p.groupCount = 0 then 0 else 1) = handed := by
  cases h with
  | whole hgroups => rw [if_pos hgroups]; rfl
  | group hgroups hspan => rw [if_neg hgroups, Match.group?, if_neg Nat.one_ne_zero, hspan]; rfl
  | apart hgroups hspan => rw [if_neg hgroups, Match.group?, if_neg Nat.one_ne_zero, hspan]; rfl

theorem captured?_eq_some_iff {handed : Option String} :
    p.captured? text = some handed ↔ ∃ m, p.Leftmost text m ∧ p.Hands text m handed := by
  rw [captured?, Option.map_eq_some_iff]
  constructor
  · rintro ⟨m, hsearch, rfl⟩
    exact ⟨m, search?_eq_some_iff.1 hsearch, hands_group? p text m⟩
  · rintro ⟨m, hleftmost, hhands⟩
    exact ⟨m, search?_eq_some_iff.2 hleftmost, hhands.eq_group?⟩

end Pattern

/-! ### One rule -/

namespace PatternRule

variable {σ : Type} {rule : PatternRule σ} {messages : List Message} {w : Surroundings σ} {s : Session}
  {st st' : State σ}

/-- What a rule finds among messages: what the oldest message of its roles that matches hands on, or nothing. -/
inductive Finds (rule : PatternRule σ) : List Message → Option (Option String) → Prop
  | oldest {before after : List Message} {m : Message} {found : Pattern.Match} {handed : Option String}
      (hrole : m.role ∈ rule.roles)
      (hbefore : ∀ earlier ∈ before, earlier.role ∈ rule.roles → rule.pattern.Nowhere earlier.content)
      (hmatch : rule.pattern.Leftmost m.content found) (hhands : rule.pattern.Hands m.content found handed) :
      Finds rule (before ++ m :: after) (some handed)
  | nothing {messages : List Message}
      (hnone : ∀ m ∈ messages, m.role ∈ rule.roles → rule.pattern.Nowhere m.content) : Finds rule messages none

/-- The value that a rule has in a session: its default as it is if nothing is found, and otherwise what was found, once
the transform has worked on it. -/
inductive Values (w : Surroundings σ) (s : Session) (rule : PatternRule σ) (st : State σ) :
    Except Failure (Option Value) → State σ → Prop
  | default (hfinds : rule.Finds s.messages none) : Values w s rule st (.ok rule.default) st
  | plain {handed : Option String} (hfinds : rule.Finds s.messages (some handed)) (hplain : rule.transform = none) :
      Values w s rule st (.ok (some (.ofText? handed))) st
  | transformed {handed : Option String} {transform : Value → Run σ Value} {outcome : Except Failure Value}
      {st' : State σ} (hfinds : rule.Finds s.messages (some handed)) (htransform : rule.transform = some transform)
      (hexec : (transform (.ofText? handed)).exec w st = (outcome, st')) :
      Values w s rule st (outcome.map some) st'

/-- A message in which nothing is found makes no difference. -/
theorem Finds.skip {m : Message} {found : Option (Option String)}
    (hmissed : m.role ∈ rule.roles → rule.pattern.Nowhere m.content) (h : rule.Finds messages found) :
    rule.Finds (m :: messages) found := by
  cases h with
  | oldest hrole hbefore hmatch hhands =>
    exact @Finds.oldest _ _ (m :: _) _ _ _ _ hrole (List.forall_mem_cons.2 ⟨hmissed, hbefore⟩) hmatch hhands
  | nothing hnone => exact .nothing (List.forall_mem_cons.2 ⟨hmissed, hnone⟩)

theorem finds_found? (rule : PatternRule σ) (messages : List Message) :
    rule.Finds messages (rule.found? messages) := by
  induction messages with
  | nil => exact .nothing nofun
  | cons m messages ih =>
    by_cases hrole : m.role ∈ rule.roles
    · have hscanned : rule.roles.contains m.role = true := List.contains_iff_mem.2 hrole
      rw [found?, List.filter_cons, if_pos hscanned, List.findSome?_cons]
      cases hcaptured : rule.pattern.captured? m.content with
      | none => exact ih.skip fun _ => Pattern.captured?_eq_none_iff.1 hcaptured
      | some handed =>
        obtain ⟨found, hmatch, hhands⟩ := Pattern.captured?_eq_some_iff.1 hcaptured
        exact @Finds.oldest _ _ [] _ _ _ _ hrole nofun hmatch hhands
    · have hother : ¬rule.roles.contains m.role = true := mt List.contains_iff_mem.1 hrole
      rw [found?, List.filter_cons, if_neg hother]
      exact ih.skip fun hscanned => absurd hscanned hrole

/-- Every rule has its value, has none, or fails. -/
theorem values_value? (rule : PatternRule σ) (w : Surroundings σ) (s : Session) (st : State σ) :
    rule.Values w s st ((rule.value? s).exec w st).1 ((rule.value? s).exec w st).2 := by
  have hfinds := rule.finds_found? s.messages
  rw [value?]
  cases hfound : rule.found? s.messages with
  | none =>
    rw [hfound] at hfinds
    exact .default hfinds
  | some handed =>
    rw [hfound] at hfinds
    cases htransform : rule.transform with
    | none => exact .plain hfinds htransform
    | some transform =>
      rcases hexec : (transform (.ofText? handed)).exec w st with ⟨f | v, st'⟩
      · dsimp only
        rw [Run.exec_bind_error _ hexec]
        exact .transformed hfinds htransform hexec
      · dsimp only
        rw [Run.exec_bind_ok _ hexec]
        exact .transformed hfinds htransform hexec

end PatternRule

/-! ### All rules -/

section

variable {σ : Type} {w : Surroundings σ} {s : Session} {rules : List (PatternRule σ)} {st st' : State σ}

/-- Rules one after the other, each with the value that it has, up to the first one that fails. -/
inductive Collects (w : Surroundings σ) (s : Session) :
    List (PatternRule σ) → State σ → Except Failure (List (PatternRule σ × Option Value)) → State σ → Prop
  | done (st : State σ) : Collects w s [] st (.ok []) st
  | failed {rule : PatternRule σ} {rest : List (PatternRule σ)} {st st' : State σ} {f : Failure}
      (hrule : rule.Values w s st (.error f) st') : Collects w s (rule :: rest) st (.error f) st'
  | next {rule : PatternRule σ} {rest : List (PatternRule σ)} {st st' st'' : State σ} {v : Option Value}
      {outcome : Except Failure (List (PatternRule σ × Option Value))} (hrule : rule.Values w s st (.ok v) st')
      (hrest : Collects w s rest st' outcome st'') :
      Collects w s (rule :: rest) st (outcome.map ((rule, v) :: ·)) st''

/-- The assignments of the rules that have values. -/
def assigned (valued : List (PatternRule σ × Option Value)) : List (String × Value) :=
  valued.filterMap fun r => r.2.map (r.1.key, ·)

variable {valued before after : List (PatternRule σ × Option Value)} {key : String} {f : Failure} {found : Entries}

/-- If no rule fails, all of them are asked. -/
theorem Collects.rules_eq {outcome : Except Failure (List (PatternRule σ × Option Value))}
    (h : Collects w s rules st outcome st') (hok : outcome = .ok valued) : valued.map (·.1) = rules := by
  induction h generalizing valued with
  | done st => cases hok; rfl
  | failed hrule => exact nomatch hok
  | @next rule rest st st' st'' v outcome hrule hrest ih =>
    cases outcome with
    | error f => exact nomatch hok
    | ok valued' =>
      cases hok
      exact congrArg (rule :: ·) (ih rfl)

/-- What the rules have values for is put over what was found before. -/
theorem exists_collects (w : Surroundings σ) (s : Session) (rules : List (PatternRule σ)) (found : Entries)
    (st : State σ) : ∃ outcome st', Collects w s rules st outcome st' ∧
      (patternFindings s rules found).exec w st = (outcome.map fun valued => found.overlay (assigned valued), st') := by
  induction rules generalizing found st with
  | nil => exact ⟨_, st, .done st, rfl⟩
  | cons rule rest ih =>
    have hrule := rule.values_value? w s st
    rw [patternFindings]
    rcases hexec : (rule.value? s).exec w st with ⟨f | v, st'⟩
    · rw [hexec] at hrule
      exact ⟨_, st', .failed hrule, Run.exec_bind_error _ hexec⟩
    · rw [hexec] at hrule
      rw [Run.exec_bind_ok _ hexec]
      cases v with
      | none =>
        obtain ⟨outcome, st'', hrest, hfindings⟩ := ih found st'
        refine ⟨_, st'', .next hrule hrest, hfindings.trans ?_⟩
        cases outcome <;> rfl
      | some v =>
        obtain ⟨outcome, st'', hrest, hfindings⟩ := ih (found.insert rule.key v) st'
        refine ⟨_, st'', .next hrule hrest, hfindings.trans ?_⟩
        cases outcome <;> rfl

/-! ### Vars -/

theorem assigned_eq_nil_iff : assigned valued = [] ↔ ∀ r ∈ valued, r.2 = none := by
  simp only [assigned, List.filterMap_eq_nil_iff, Option.map_eq_none_iff]

theorem ofPairs_ne_nil {pairs : List (String × Value)} (h : pairs ≠ []) : Assoc.ofPairs pairs ≠ [] := by
  obtain ⟨first, rest, rfl⟩ := List.exists_cons_of_ne_nil h
  obtain ⟨more, hkeys⟩ := Assoc.keys_prefix_keys_overlay [first] rest
  intro hnil
  have hempty : Assoc.keys [first] ++ more = [] := hkeys.trans (congrArg Assoc.keys hnil)
  exact nomatch hempty

/-- A var for which no rule has a value is assigned nothing. -/
theorem lookup_assigned_eq_none (h : ∀ r ∈ valued, r.1.key = key → r.2 = none) :
    Assoc.lookup key (assigned valued).reverse = none := by
  rw [Assoc.lookup_eq_none_iff, Assoc.keys, List.map_reverse, List.mem_reverse]
  intro hkey
  obtain ⟨entry, hentry, hsame⟩ := List.mem_map.1 hkey
  obtain ⟨r, hr, hvalue⟩ := List.mem_filterMap.1 hentry
  obtain ⟨v, hv, rfl⟩ := Option.map_eq_some_iff.1 hvalue
  exact absurd (h r hr hsame) (hv ▸ Option.some_ne_none v)

/-- The last rule with a value for a var assigns it. -/
theorem lookup_assigned {rule : PatternRule σ} {v : Value} (hafter : ∀ r ∈ after, r.1.key = rule.key → r.2 = none) :
    Assoc.lookup rule.key (assigned (before ++ (rule, some v) :: after)).reverse = some v := by
  have hlast : assigned (before ++ (rule, some v) :: after) =
      assigned before ++ (rule.key, v) :: assigned after := List.filterMap_append
  rw [hlast, List.reverse_append, List.reverse_cons, List.append_assoc, Assoc.lookup_append,
    lookup_assigned_eq_none hafter, Option.none_or, List.singleton_append, Assoc.lookup, if_pos rfl]

/-! ### Extraction -/

theorem exec_extractPatterns_error (h : (patternFindings s rules []).exec w st = (.error f, st')) :
    (extractPatterns rules s).exec w st = (.error f, st') :=
  Run.exec_bind_error _ h

theorem exec_extractPatterns_nil (h : (patternFindings s rules []).exec w st = (.ok [], st')) :
    (extractPatterns rules s).exec w st = (.ok s, st') :=
  Run.exec_bind_ok _ h

theorem exec_extractPatterns_ok (h : (patternFindings s rules []).exec w st = (.ok found, st'))
    (hfound : found ≠ []) : (extractPatterns rules s).exec w st = (.ok { s with vars := s.vars.overlay found },
      { st' with events := st'.events ++ [.patternExtracted (sortedKeys found)] }) := by
  rw [extractPatterns, Run.exec_bind_ok _ h, if_neg (mt List.isEmpty_iff.1 hfound)]
  exact Run.exec_bind_ok _ (Run.exec_log _)

/-- **Extraction by patterns.**  Every rule has its value in the session as it was.  If a rule fails, so does the
extraction, and nothing is stored.  Otherwise the values are put over the vars in the order of the rules and nothing
else changes: for each var the last rule with a value decides, and a var for which no rule has one stays as it was. -/
theorem patternExtraction_collects (hrules : rules ≠ []) :
    patternExtraction rules = .ok (extractPatterns rules) ∧
      ∀ (s : Session) (w : Surroundings σ) (st : State σ), ∃ outcome st', Collects w s rules st outcome st' ∧
        (∀ f, outcome = .error f → (extractPatterns rules s).exec w st = (.error f, st')) ∧
        ∀ valued, outcome = .ok valued → valued.map (·.1) = rules ∧
          ((∀ r ∈ valued, r.2 = none) → (extractPatterns rules s).exec w st = (.ok s, st')) ∧
          ((∃ r ∈ valued, r.2 ≠ none) → ∃ vars, vars = s.vars.overlay (.ofPairs (assigned valued)) ∧
            (extractPatterns rules s).exec w st = (.ok { s with vars },
              { st' with events := st'.events ++ [.patternExtracted (sortedKeys (.ofPairs (assigned valued)))] }) ∧
            (∀ before rule v after, valued = before ++ (rule, some v) :: after →
              (∀ later ∈ after, later.1.key = rule.key → later.2 = none) → vars.lookup rule.key = some v) ∧
            ∀ key, (∀ r ∈ valued, r.1.key = key → r.2 = none) → vars.lookup key = s.vars.lookup key) := by
  refine ⟨if_neg (mt List.isEmpty_iff.1 hrules), fun s w st => ?_⟩
  obtain ⟨outcome, st', hcollects, hfindings⟩ := exists_collects w s rules [] st
  refine ⟨outcome, st', hcollects, ?_, ?_⟩
  · rintro f rfl
    exact exec_extractPatterns_error hfindings
  rintro valued rfl
  refine ⟨hcollects.rules_eq rfl, fun hnone => ?_, fun ⟨r, hr, hvalue⟩ => ?_⟩
  · have hnil : assigned valued = [] := assigned_eq_nil_iff.2 hnone
    rw [Except.map, hnil] at hfindings
    exact exec_extractPatterns_nil hfindings
  · have hfound : assigned valued ≠ [] := mt assigned_eq_nil_iff.1 fun hnone => hvalue (hnone r hr)
    refine ⟨_, rfl, exec_extractPatterns_ok hfindings (ofPairs_ne_nil hfound), ?_, fun key hnone => ?_⟩
    · rintro before rule v after rfl hafter
      rw [Assoc.lookup_overlay_ofPairs, lookup_assigned hafter, Option.some_or]
    · rw [Assoc.lookup_overlay_ofPairs, lookup_assigned_eq_none hnone, Option.none_or]

/-- A group that takes no part, two rules for one var of which the later one finds nothing, and a default. -/
theorem patternExtraction_answers :
    let digits : Pattern := ⟨"([0-9]+)",
      .group 1 (.repetition (.one ⟨false, [.range '0' '9'], false, false⟩) 1 none .most), 1⟩
    let letter : Pattern := ⟨"a(b)?", .seq (.one ⟨false, [.char 'a'], false, false⟩)
      (.repetition (.group 1 (.one ⟨false, [.char 'b'], false, false⟩)) 0 (some 1) .most), 1⟩
    let rules : List (PatternRule Unit) := [
      { pattern := digits, key := "n", roles := [.assistant], transform := some fun v => return .list [v] },
      { pattern := letter, key := "b", roles := [.assistant, .user] },
      { pattern := letter, key := "n", roles := [.system] },
      { pattern := digits, key := "goal", roles := [], transform := some fun v => return v, default := some (.int 0) }]
    let s : Session := { messages := [.user "7 a", .assistant "x12 34", .assistant "56 ab"], vars := [("n", .int 1)] }
    rules ≠ [] ∧ patternExtraction rules = .ok (extractPatterns rules) ∧
      ∃ valued st' s', Collects (.alone Unit) s rules { host := () } (.ok valued) st' ∧
        valued.map (·.1) = rules ∧ ((extractPatterns rules s).exec (.alone Unit) { host := () }).1 = .ok s' ∧
        s'.vars.lookup "n" = some (.list [.str "12"]) ∧ s'.vars.lookup "b" = some .null ∧
        s'.vars.lookup "goal" = some (.int 0) := by
  intro digits letter rules s
  have hrules : rules ≠ [] := nofun
  obtain ⟨hmade, hexec⟩ := patternExtraction_collects hrules
  obtain ⟨outcome, st', hcollects, herror, hok⟩ := hexec s (.alone Unit) { host := () }
  have hrun : ∃ s', ((extractPatterns rules s).exec (.alone Unit) { host := () }).1 = .ok s' ∧
      s'.vars.lookup "n" = some (.list [.str "12"]) ∧ s'.vars.lookup "b" = some .null ∧
      s'.vars.lookup "goal" = some (.int 0) := ⟨_, rfl, rfl, rfl, rfl⟩
  obtain ⟨s', hs', hvars⟩ := hrun
  cases outcome with
  | error f => exact nomatch hs'.symm.trans (congrArg Prod.fst (herror f rfl))
  | ok valued => exact ⟨hrules, hmade, valued, st', s', hcollects, (hok valued rfl).1, hs', hvars⟩

end

end Colloquy
