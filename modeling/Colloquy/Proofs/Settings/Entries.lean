import Colloquy.Settings.Basic
import Mathlib.Data.List.Forall2

/-!
# Documents side by side

Two documents have entries under the same keys with related values (`Related`) if that holds of what each of their
entries stands for (`Follows`).  The relation outlives all that is done to entries before settings are read from them:
merging, filling and looking up.
-/

namespace Colloquy

variable {env env' : Environment}

theorem Settings.exists_of_bind_ok {α β : Type} {x : Except Failure α} {f : α → Except Failure β} {y : β}
    (h : x >>= f = .ok y) : ∃ a, x = .ok a ∧ f a = .ok y := by
  cases x with
  | error g => exact nomatch h
  | ok a => exact ⟨a, rfl, h⟩

theorem Settings.exists_of_map_ok {α β : Type} {f : α → β} {x : Except Failure α} {y : β} (h : f <$> x = .ok y) :
    ∃ a, x = .ok a ∧ f a = y := by
  cases x with
  | error g => exact nomatch h
  | ok a => exact ⟨a, rfl, Except.ok.inj h⟩

/-! ### Entries side by side -/

/-- Entries under the same keys in the same order, with related values. -/
def Related (R : String → Value → Value → Prop) (entries entries' : Entries) : Prop :=
  List.Forall₂ (fun e e' => e'.1 = e.1 ∧ R e.1 e.2 e'.2) entries entries'

namespace Related

variable {R : String → Value → Value → Prop} {entries entries' newer newer' : Entries}

theorem insert (h : Related R entries entries') (key : String) {v v' : Value} (hvalue : R key v v') :
    Related R (entries.insert key v) (entries'.insert key v') := by
  induction h with
  | nil => exact .cons ⟨rfl, hvalue⟩ .nil
  | @cons e e' rest rest' hentry hrest ih =>
    obtain ⟨k, v⟩ := e
    obtain ⟨k', v'⟩ := e'
    obtain ⟨rfl, hentry⟩ := hentry
    rw [Assoc.insert, Assoc.insert]
    by_cases hk : k' = key
    · subst hk
      rw [if_pos rfl, if_pos rfl]
      exact .cons ⟨rfl, hvalue⟩ hrest
    · rw [if_neg hk, if_neg hk]
      exact .cons ⟨rfl, hentry⟩ ih

theorem overlay (h : Related R entries entries') (hnewer : Related R newer newer') :
    Related R (entries.overlay newer) (entries'.overlay newer') := by
  induction hnewer generalizing entries entries' with
  | nil => exact h
  | @cons e e' rest rest' hentry hrest ih =>
    obtain ⟨k, v⟩ := e
    obtain ⟨k', v'⟩ := e'
    obtain ⟨rfl, hentry⟩ := hentry
    exact ih (h.insert k' hentry)

theorem append (h : Related R entries entries') (hnewer : Related R newer newer') :
    Related R (entries ++ newer) (entries' ++ newer') :=
  List.rel_append h hnewer

theorem ofPairs (h : Related R entries entries') : Related R (.ofPairs entries) (.ofPairs entries') :=
  overlay .nil h

/-- Where the values under all keys are related, those are that are looked up. -/
theorem lookup (h : Related R entries entries') (key : String) :
    entries.lookup key = none ∧ entries'.lookup key = none ∨
      ∃ v v', entries.lookup key = some v ∧ entries'.lookup key = some v' ∧ R key v v' := by
  induction h with
  | nil => exact .inl ⟨rfl, rfl⟩
  | @cons e e' rest rest' hentry hrest ih =>
    obtain ⟨k, v⟩ := e
    obtain ⟨k', v'⟩ := e'
    obtain ⟨rfl, hentry⟩ := hentry
    rw [Assoc.lookup, Assoc.lookup]
    by_cases hk : k' = key
    · subst hk
      rw [if_pos rfl, if_pos rfl]
      exact .inr ⟨v, v', rfl, rfl, hentry⟩
    · rw [if_neg hk, if_neg hk]
      exact ih

theorem entry (h : Related R entries entries') (name : String) {default : Value} (hdefault : R name default default) :
    R name (Settings.entry entries name default) (Settings.entry entries' name default) := by
  rw [Settings.entry, Settings.entry]
  obtain ⟨hnone, hnone'⟩ | ⟨v, v', hv, hv', hvalue⟩ := h.lookup name
  · rw [hnone, hnone']
    exact hdefault
  · rw [hv, hv']
    exact hvalue

theorem fillEntries (h : Related (fun key v v' => R key (env.fill v) (env'.fill v')) entries entries') :
    Related R (env.fillEntries entries) (env'.fillEntries entries') := by
  induction h with
  | nil => exact .nil
  | @cons e e' rest rest' hentry hrest ih =>
    obtain ⟨k, v⟩ := e
    obtain ⟨k', v'⟩ := e'
    exact .cons hentry ih

end Related

/-! ### Documents -/

namespace Yaml.Node

/-- A key that is a text merges nothing. -/
theorem isMerge_of_asKey {key : Node} {name : String} (h : key.asKey = .ok name) : key.isMerge = false := by
  cases key with
  | scalar tag text isPlain =>
    rw [isMerge]
    rw [asKey] at h
    cases htag : scalarTag tag text isPlain with
    | merge =>
      rw [htag] at h
      exact nomatch h
    | _ => rfl
  | _ => rfl

variable {key value : Node} {name : String} {merged own : Entries} {rest : List (Node × Node)}

theorem entryValues_merge (h : key.isMerge = true) (value : Node) :
    entryValues [(key, value)] = value.mergedValues.map fun more => (more, []) := by
  rw [entryValues, if_pos h, entryValues]
  cases value.mergedValues with
  | error f => rfl
  | ok more =>
    show Except.ok (more ++ [], []) = Except.ok (more, [])
    rw [List.append_nil]

theorem entryValues_own (h : key.asKey = .ok name) (value : Node) :
    entryValues [(key, value)] = value.toValue.map fun v => ([], [(name, v)]) := by
  rw [entryValues, if_neg (by simp [isMerge_of_asKey h]), h, entryValues]
  cases value.toValue <;> rfl

/-- The entries of a mapping are those of its first entry and those of the others. -/
theorem entryValues_cons (entry : Node × Node) (rest : List (Node × Node)) :
    entryValues (entry :: rest) = (do
      let (merged, own) ← entryValues [entry]
      let (mergedRest, ownRest) ← entryValues rest
      return (merged ++ mergedRest, own ++ ownRest)) := by
  obtain ⟨key, value⟩ := entry
  cases hmerge : key.isMerge with
  | true =>
    rw [entryValues_merge hmerge, entryValues, if_pos hmerge]
    cases value.mergedValues with
    | error f => rfl
    | ok more => rfl
  | false =>
    rw [entryValues, entryValues, entryValues, if_neg (by simp [hmerge]), if_neg (by simp [hmerge])]
    cases key.asKey with
    | error f => rfl
    | ok name =>
      cases value.toValue with
      | error f => rfl
      | ok v => rfl

theorem entryValues_cons_ok {entry : Node × Node} (h : entryValues (entry :: rest) = .ok (merged, own)) :
    ∃ m o mergedRest ownRest, entryValues [entry] = .ok (m, o) ∧ entryValues rest = .ok (mergedRest, ownRest) ∧
      merged = m ++ mergedRest ∧ own = o ++ ownRest := by
  rw [entryValues_cons] at h
  obtain ⟨first, hfirst, h⟩ := Settings.exists_of_bind_ok h
  obtain ⟨others, hothers, h⟩ := Settings.exists_of_bind_ok h
  cases h
  exact ⟨_, _, _, _, hfirst, hothers, rfl, rfl⟩

/-- Entries of which the second ones have values that are related to those of the first ones. -/
def Follows (R : String → Value → Value → Prop) (entries entries' : List (Node × Node)) : Prop :=
  ∀ merged own, entryValues entries = .ok (merged, own) → ∃ merged' own',
    entryValues entries' = .ok (merged', own') ∧ Related R merged merged' ∧ Related R own own'

variable {R : String → Value → Value → Prop} {entry entry' : Node × Node} {rest' entries entries' : List (Node × Node)}

theorem Follows.cons (hentry : Follows R [entry] [entry']) (hrest : Follows R rest rest') :
    Follows R (entry :: rest) (entry' :: rest') := by
  intro merged own h
  obtain ⟨m, o, mergedRest, ownRest, hfirst, hothers, rfl, rfl⟩ := entryValues_cons_ok h
  obtain ⟨m', o', hfirst', hm, ho⟩ := hentry m o hfirst
  obtain ⟨mergedRest', ownRest', hothers', hmerged, hown⟩ := hrest mergedRest ownRest hothers
  refine ⟨m' ++ mergedRest', o' ++ ownRest', ?_, hm.append hmerged, ho.append hown⟩
  rw [entryValues_cons, hfirst', hothers']
  rfl

/-- What an entry stands for is related if its value is. -/
theorem follows_own {value' : Node} (hkey : key.asKey = .ok name)
    (h : ∀ v, value.toValue = .ok v → ∃ v', value'.toValue = .ok v' ∧ R name v v') :
    Follows R [(key, value)] [(key, value')] := by
  intro merged own hvalues
  rw [entryValues_own hkey] at hvalues
  obtain ⟨v, hvalue, hv⟩ := Settings.exists_of_map_ok hvalues
  cases hv
  obtain ⟨v', hvalue', hrelated⟩ := h v hvalue
  refine ⟨[], [(name, v')], ?_, .nil, .cons ⟨rfl, hrelated⟩ .nil⟩
  rw [entryValues_own hkey, hvalue']
  rfl

/-- What is merged is related if the entries of the merged mapping are. -/
theorem Follows.merge {tag tag' : Option Tag} (hkey : key.isMerge = true) (h : Follows R entries entries') :
    Follows R [(key, .mapping tag entries)] [(key, .mapping tag' entries')] := by
  intro merged own hvalues
  rw [entryValues_merge hkey, mergedValues] at hvalues
  obtain ⟨more, hmore, hvalues⟩ := Settings.exists_of_map_ok hvalues
  obtain ⟨found, hentries, hfound⟩ := Settings.exists_of_bind_ok hmore
  cases hfound
  cases hvalues
  obtain ⟨m', o', hentries', hm, ho⟩ := h found.1 found.2 hentries
  refine ⟨m' ++ o', [], ?_, hm.append ho, .nil⟩
  rw [entryValues_merge hkey, mergedValues, hentries']
  rfl

/-- The object of a mapping is related entry by entry. -/
theorem Follows.toValue {tag : Option Tag} {v : Value} (h : Follows R entries entries')
    (hvalue : (mapping tag entries).toValue = .ok v) : ∃ found found', v = .object found ∧
      (mapping tag entries').toValue = .ok (.object found') ∧ Related R found found' := by
  rw [Node.toValue] at hvalue
  split at hvalue
  · rename_i htag
    obtain ⟨found, hentries, hfound⟩ := Settings.exists_of_bind_ok hvalue
    cases hfound
    obtain ⟨m', o', hentries', hm, ho⟩ := h found.1 found.2 hentries
    refine ⟨_, _, rfl, ?_, (hm.append ho).ofPairs⟩
    rw [Node.toValue, if_pos htag, hentries']
    rfl
  · exact nomatch hvalue

end Yaml.Node

end Colloquy
