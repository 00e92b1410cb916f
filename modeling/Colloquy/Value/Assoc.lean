/-!
# Association lists

An association list keeps its entries in the order of their first insertion: `insert` keeps the place of a
key that is there and appends one that is not, and `overlay` inserts the entries of one list into another.
`lookup_insert` says what a lookup finds afterwards, `keys_insert` how the keys stand.  Where no key stands
twice, to erase one is to filter it out (`erase_eq_filter`), entries under new keys are appended
(`overlay_eq_append`), and to overlay twice is to overlay once (`overlay_overlay_self`).  An overlay has the last
value for each key (`lookup_overlay`).
-/

namespace Colloquy

/-- Entries of a key and a value, in the order of their first insertion. -/
abbrev Assoc (α : Type) := List (String × α)

namespace Assoc

variable {α : Type}

/-- The value under a key. -/
def lookup (key : String) : Assoc α → Option α
  | [] => none
  | (k, v) :: rest => if k = key then some v else lookup key rest

/-- Puts a value under a key, in the place of the value that was there or else at the end. -/
def insert (key : String) (value : α) : Assoc α → Assoc α
  | [] => [(key, value)]
  | (k, v) :: rest => if k = key then (k, value) :: rest else (k, v) :: insert key value rest

/-- Removes the entry under a key. -/
def erase (key : String) : Assoc α → Assoc α
  | [] => []
  | (k, v) :: rest => if k = key then rest else (k, v) :: erase key rest

/-- Inserts the entries of `newer` one after the other. -/
def overlay (older newer : Assoc α) : Assoc α :=
  newer.foldl (fun entries entry => insert entry.1 entry.2 entries) older

/-- The keys in order. -/
def keys (entries : Assoc α) : List String :=
  entries.map (·.1)

/-- The list of pairs in which a later pair replaces the value of an earlier one. -/
def ofPairs (pairs : List (String × α)) : Assoc α :=
  overlay [] pairs

theorem lookup_insert (entries : Assoc α) (key other : String) (value : α) :
    (entries.insert key value).lookup other =
      if key = other then some value else entries.lookup other := by
  induction entries with
  | nil => simp [insert, lookup]
  | cons entry rest ih =>
    obtain ⟨k, v⟩ := entry
    by_cases hk : k = key
    · subst hk
      by_cases ho : k = other <;> simp [insert, lookup, ho]
    · by_cases ho : k = other
      · subst ho
        simp [insert, lookup, hk, Ne.symm hk]
      · simp [insert, lookup, hk, ho, ih]

theorem keys_insert (entries : Assoc α) (key : String) (value : α) :
    (entries.insert key value).keys =
      if key ∈ entries.keys then entries.keys else entries.keys ++ [key] := by
  induction entries with
  | nil => simp [insert, keys]
  | cons entry rest ih =>
    obtain ⟨k, v⟩ := entry
    by_cases hk : k = key
    · simp [insert, keys, hk]
    · simp only [keys] at ih
      by_cases hm : key ∈ rest.map (·.1) <;> simp [insert, keys, hk, Ne.symm hk, ih, hm]

/-! ### Distinct keys -/

theorem lookup_eq_none_iff {entries : Assoc α} {key : String} :
    entries.lookup key = none ↔ key ∉ entries.keys := by
  induction entries with
  | nil => simp [lookup, keys]
  | cons entry rest ih =>
    obtain ⟨k, v⟩ := entry
    simp only [keys] at ih
    by_cases hk : k = key
    · simp [lookup, keys, hk]
    · simp [lookup, keys, hk, Ne.symm hk, ih]

theorem mem_of_lookup {entries : Assoc α} {key : String} {value : α} (h : entries.lookup key = some value) :
    (key, value) ∈ entries := by
  induction entries with
  | nil => exact nomatch h
  | cons entry rest ih =>
    obtain ⟨k, v⟩ := entry
    rw [lookup] at h
    split at h
    · rename_i hkey
      rw [← hkey, ← Option.some.inj h]
      exact List.mem_cons_self
    · exact List.mem_cons_of_mem _ (ih h)

theorem nodup_keys_insert {entries : Assoc α} (h : entries.keys.Nodup) (key : String) (value : α) :
    (entries.insert key value).keys.Nodup := by
  rw [keys_insert]
  split
  · exact h
  · rename_i hnew
    refine List.nodup_append.2 ⟨h, List.pairwise_singleton _ key, ?_⟩
    rintro k hk k' hk' rfl
    exact hnew (List.eq_of_mem_singleton hk' ▸ hk)

theorem nodup_keys_filter {entries : Assoc α} (h : entries.keys.Nodup) (p : String × α → Bool) :
    (keys (entries.filter p)).Nodup :=
  h.sublist (List.filter_sublist.map _)

theorem lookup_filter {entries : Assoc α} (h : entries.keys.Nodup) (p : String × α → Bool)
    (key : String) :
    lookup key (entries.filter p) = (entries.lookup key).filter fun v => p (key, v) := by
  induction entries with
  | nil => rfl
  | cons entry rest ih =>
    obtain ⟨k, v⟩ := entry
    obtain ⟨hk, hrest⟩ := List.nodup_cons.1 h
    by_cases hkey : k = key
    · subst hkey
      -- No later entry can take the place of one that is dropped.
      have hnone : lookup k rest = none := lookup_eq_none_iff.2 hk
      cases hp : p (k, v) <;> simp [lookup, Option.filter, hp, ih hrest, hnone]
    · cases hp : p (k, v) <;> simp [lookup, hp, hkey, ih hrest]

theorem erase_eq_filter {entries : Assoc α} (h : entries.keys.Nodup) (key : String) :
    entries.erase key = entries.filter fun entry => entry.1 != key := by
  induction entries with
  | nil => rfl
  | cons entry rest ih =>
    obtain ⟨k, v⟩ := entry
    obtain ⟨hk, hrest⟩ := List.nodup_cons.1 h
    by_cases hkey : k = key
    · subst hkey
      have hall : rest.filter (fun entry => entry.1 != k) = rest := by
        rw [List.filter_eq_self]
        intro entry hentry
        rw [bne_iff_ne]
        intro hsame
        exact hk (List.mem_map.2 ⟨entry, hentry, hsame⟩)
      simp only [erase, if_true, List.filter_cons, bne_self_eq_false, Bool.false_eq_true, if_false,
        hall]
    · simp [erase, hkey, ih hrest]

theorem lookup_erase {entries : Assoc α} (h : entries.keys.Nodup) (key other : String) :
    (entries.erase key).lookup other = if key = other then none else entries.lookup other := by
  rw [erase_eq_filter h, lookup_filter h]
  by_cases hkey : key = other
  · cases entries.lookup other <;> simp [Option.filter, hkey]
  · cases entries.lookup other <;> simp [Option.filter, hkey, Ne.symm hkey]

/-! ### Overlays of distinct keys -/

theorem insert_append_of_notMem {front : Assoc α} {key : String} (h : key ∉ front.keys)
    (entries : Assoc α) (value : α) :
    insert key value (front ++ entries) = front ++ entries.insert key value := by
  induction front with
  | nil => rfl
  | cons entry front ih =>
    obtain ⟨hentry, hfront⟩ := not_or.1 (mt List.mem_cons.2 h)
    rw [List.cons_append, insert, if_neg (Ne.symm hentry), ih hfront, List.cons_append]

theorem overlay_append (entries first second : Assoc α) :
    entries.overlay (first ++ second) = (entries.overlay first).overlay second :=
  List.foldl_append

theorem nodup_keys_overlay {entries : Assoc α} (h : entries.keys.Nodup) (newer : Assoc α) :
    (entries.overlay newer).keys.Nodup := by
  induction newer generalizing entries with
  | nil => exact h
  | cons entry rest ih => exact ih (nodup_keys_insert h entry.1 entry.2)

/-- Keys keep their places, and new ones follow. -/
theorem keys_prefix_keys_overlay (entries newer : Assoc α) :
    entries.keys <+: (entries.overlay newer).keys := by
  induction newer generalizing entries with
  | nil => exact List.prefix_refl _
  | cons entry rest ih =>
    refine List.IsPrefix.trans ?_ (ih (entries.insert entry.1 entry.2))
    rw [keys_insert]
    split
    · exact List.prefix_refl _
    · exact List.prefix_append _ _

theorem notMem_keys_of_nodup {front rest : Assoc α} {entry : String × α}
    (h : (keys (front ++ entry :: rest)).Nodup) : entry.1 ∉ front.keys := by
  intro hmem
  rw [keys, List.map_append] at h
  exact (List.nodup_append.1 h).2.2 entry.1 hmem entry.1 List.mem_cons_self rfl

/-- Entries under new keys are appended. -/
theorem overlay_eq_append {entries newer : Assoc α} (h : (keys (entries ++ newer)).Nodup) :
    entries.overlay newer = entries ++ newer := by
  induction newer generalizing entries with
  | nil => exact (List.append_nil _).symm
  | cons entry rest ih =>
    have hinsert : entries.insert entry.1 entry.2 = entries ++ [entry] := by
      have happend := insert_append_of_notMem (notMem_keys_of_nodup h) [] entry.2
      rwa [List.append_nil] at happend
    have hsplit : entries ++ entry :: rest = (entries ++ [entry]) ++ rest := by
      rw [List.append_assoc, List.singleton_append]
    show overlay (entries.insert entry.1 entry.2) rest = _
    rw [hinsert, ih (hsplit ▸ h), hsplit]

/-- Entries under the same keys take the places of the older ones. -/
theorem overlay_in_place {front entries newer : Assoc α} (h : (keys (front ++ entries)).Nodup)
    (hkeys : newer.keys = entries.keys) : overlay (front ++ entries) newer = front ++ newer := by
  induction newer generalizing front entries with
  | nil =>
    rw [List.map_eq_nil_iff.1 hkeys.symm]
    rfl
  | cons entry rest ih =>
    obtain _ | ⟨older, others⟩ := entries
    · exact absurd hkeys (List.cons_ne_nil _ _)
    obtain ⟨hkey, hothers⟩ : entry.1 = older.1 ∧ keys rest = keys others := List.cons.inj hkeys
    have hplace : insert entry.1 entry.2 (front ++ older :: others) = (front ++ [entry]) ++ others := by
      have hnew := notMem_keys_of_nodup h
      rw [← hkey] at hnew
      rw [insert_append_of_notMem hnew, insert, if_pos hkey.symm, List.append_assoc,
        List.singleton_append, ← hkey]
    have hnodup : (keys ((front ++ [entry]) ++ others)).Nodup := by
      rw [keys, List.append_assoc, List.singleton_append, List.map_append, List.map_cons, hkey,
        ← List.map_cons, ← List.map_append]
      exact h
    show overlay (insert entry.1 entry.2 (front ++ older :: others)) rest = _
    rw [hplace, ih hnodup hothers, List.append_assoc, List.singleton_append]

/-- What an overlay has made of entries may be laid over them again. -/
theorem overlay_overlay_self {entries : Assoc α} (h : entries.keys.Nodup) (newer : Assoc α) :
    entries.overlay (entries.overlay newer) = entries.overlay newer := by
  have hnodup := nodup_keys_overlay h newer
  have hprefix := keys_prefix_keys_overlay entries newer
  generalize entries.overlay newer = result at hnodup hprefix
  -- The result begins with the keys of the entries, and what follows is under new ones.
  rw [← List.take_append_drop entries.length result] at hnodup ⊢
  have hkeys : keys (result.take entries.length) = entries.keys := by
    have htake := List.prefix_iff_eq_take.1 hprefix
    rw [keys, List.length_map] at htake
    rw [keys, List.map_take]
    exact htake.symm
  have hplace : overlay ([] ++ entries) (result.take entries.length) =
      [] ++ result.take entries.length := overlay_in_place h hkeys
  rw [List.nil_append, List.nil_append] at hplace
  rw [overlay_append, hplace, overlay_eq_append hnodup]

/-! ### Lookups in overlays -/

theorem lookup_append (key : String) (entries more : Assoc α) :
    lookup key (entries ++ more) = (lookup key entries).or (lookup key more) := by
  induction entries with
  | nil => rfl
  | cons entry rest ih =>
    rw [List.cons_append, lookup, lookup]
    split
    · rfl
    · exact ih

/-- An overlay has the last value for each key. -/
theorem lookup_overlay (key : String) (older newer : Assoc α) :
    lookup key (older.overlay newer) = (lookup key newer.reverse).or (lookup key older) := by
  induction newer generalizing older with
  | nil => rfl
  | cons entry rest ih =>
    show lookup key (overlay (insert entry.1 entry.2 older) rest) = _
    rw [ih, lookup_insert, List.reverse_cons, lookup_append, Option.or_assoc, lookup, lookup]
    split <;> rfl

theorem lookup_reverse {entries : Assoc α} (h : entries.keys.Nodup) (key : String) :
    lookup key entries.reverse = lookup key entries := by
  induction entries with
  | nil => rfl
  | cons entry rest ih =>
    obtain ⟨hentry, hrest⟩ := List.nodup_cons.1 h
    rw [List.reverse_cons, lookup_append, ih hrest, lookup, lookup, lookup]
    by_cases hkey : entry.1 = key
    · rw [if_pos hkey, if_pos hkey, lookup_eq_none_iff.2 (hkey ▸ hentry), Option.none_or]
    · rw [if_neg hkey, if_neg hkey, Option.or_none]

/-- To collect pairs before they are laid over entries makes no difference. -/
theorem lookup_overlay_ofPairs (key : String) (older : Assoc α) (pairs : List (String × α)) :
    lookup key (older.overlay (ofPairs pairs)) = (lookup key pairs.reverse).or (lookup key older) := by
  have hnodup : (keys (ofPairs pairs)).Nodup := @nodup_keys_overlay α [] List.nodup_nil pairs
  have hpairs : lookup key (ofPairs pairs) = lookup key pairs.reverse := by
    rw [ofPairs, lookup_overlay, lookup, Option.or_none]
  rw [lookup_overlay, lookup_reverse hnodup, hpairs]

/-- Under distinct keys the entries are those that lookups find. -/
theorem mem_iff_lookup {entries : Assoc α} (h : entries.keys.Nodup) {entry : String × α} :
    entry ∈ entries ↔ entries.lookup entry.1 = some entry.2 := by
  induction entries with
  | nil => exact ⟨nofun, nofun⟩
  | cons first rest ih =>
    obtain ⟨hnew, hrest⟩ := List.nodup_cons.1 h
    rw [List.mem_cons, lookup, ih hrest]
    by_cases hkey : first.1 = entry.1
    · rw [if_pos hkey, lookup_eq_none_iff.2 (hkey ▸ hnew), Option.some.injEq]
      exact ⟨fun h => h.elim (fun h => h ▸ rfl) nofun, fun h => .inl (Prod.ext hkey.symm h.symm)⟩
    · rw [if_neg hkey]
      exact ⟨fun h => h.elim (fun h => absurd (h ▸ rfl) hkey) id, .inr⟩

end Assoc

end Colloquy
