import Colloquy.Proofs.Json.RoundTrip
import Mathlib.Data.List.Sort
import Mathlib.Data.String.Basic

/-!
# Values written with sorted keys

Values are `Alike` if they differ only in the order of their objects' entries.  Sorting brings the entries of an object
into the one order in which its keys ascend, so values are alike just when they are sorted into the same value
(`sorted_eq_iff`).  As written values read back, they are also alike just when they are written alike
(`renderSorted_eq_iff`).
-/

namespace Colloquy

/-- Values that differ at most in the order of the entries of objects: lists have alike items in the same order, and
objects have alike values under the same keys. -/
inductive Value.Alike : Value → Value → Prop where
  | null : Alike .null .null
  | bool (b : Bool) : Alike (.bool b) (.bool b)
  | int (n : Int) : Alike (.int n) (.int n)
  | float (x : Float) : Alike (.float x) (.float x)
  | str (s : String) : Alike (.str s) (.str s)
  | list {items items' : List Value} (parts : List.Forall₂ Alike items items') : Alike (.list items) (.list items')
  | object {entries entries' : Entries} (keys : ∀ key, key ∈ entries.keys ↔ key ∈ entries'.keys)
    (parts : ∀ key v v', entries.lookup key = some v → entries'.lookup key = some v' → Alike v v') :
    Alike (.object entries) (.object entries')

namespace Json

variable {key k : String} {v w : Value} {e : String × Value} {entries entries' : Entries}

/-! ### Sorted entries -/

theorem keys_insertByKey (e : String × Value) (entries : Entries) :
    (Assoc.keys (insertByKey e entries)).Perm (e.1 :: entries.keys) := by
  induction entries with
  | nil => exact .refl _
  | cons e' rest ih =>
    rw [insertByKey]
    split_ifs
    · exact .refl _
    · exact (ih.cons e'.1).trans (.swap ..)

theorem mem_insertByKey {e' : String × Value} : e' ∈ insertByKey e entries ↔ e' = e ∨ e' ∈ entries := by
  induction entries with
  | nil => exact List.mem_cons
  | cons e'' rest ih =>
    rw [insertByKey]
    split_ifs
    · exact List.mem_cons
    · rw [List.mem_cons, ih, List.mem_cons, or_left_comm]

theorem lookup_insertByKey (h : e.1 ∉ entries.keys) :
    Assoc.lookup key (insertByKey e entries) = if e.1 = key then some e.2 else entries.lookup key := by
  induction entries with
  | nil => rfl
  | cons e' rest ih =>
    obtain ⟨hne, hrest⟩ := not_or.1 (mt List.mem_cons.2 h)
    rw [insertByKey]
    split_ifs with hlt hkey hkey
    · exact if_pos hkey
    · exact if_neg hkey
    · rw [Assoc.lookup, if_neg (fun h => hne (hkey.trans h.symm)), ih hrest, if_pos hkey]
    · rw [Assoc.lookup, ih hrest, if_neg hkey, Assoc.lookup]

theorem pairwise_insertByKey (h : e.1 ∉ entries.keys) (hascending : entries.keys.Pairwise (· < ·)) :
    (Assoc.keys (insertByKey e entries)).Pairwise (· < ·) := by
  induction entries with
  | nil => exact List.pairwise_singleton _ _
  | cons e' rest ih =>
    obtain ⟨hne, hrest⟩ := not_or.1 (mt List.mem_cons.2 h)
    obtain ⟨hfirst, hascending'⟩ := List.pairwise_cons.1 hascending
    rw [insertByKey]
    split_ifs with hlt
    · refine List.pairwise_cons.2 ⟨fun k hk => ?_, hascending⟩
      rcases List.mem_cons.1 hk with rfl | hk
      · exact hlt
      · exact hlt.trans (hfirst k hk)
    · refine List.pairwise_cons.2 ⟨fun k hk => ?_, ih hrest hascending'⟩
      rcases List.mem_cons.1 ((keys_insertByKey e rest).mem_iff.1 hk) with rfl | hk
      · exact lt_of_le_of_ne (not_lt.1 hlt) (Ne.symm hne)
      · exact hfirst k hk

theorem keys_sortedEntries (entries : Entries) : (Assoc.keys (sortedEntries entries)).Perm entries.keys := by
  induction entries with
  | nil => exact .refl _
  | cons e rest ih => exact (keys_insertByKey (e.1, sorted e.2) _).trans (ih.cons e.1)

/-- **Sorted entries** have ascending keys. -/
theorem pairwise_sortedEntries (h : entries.keys.Nodup) : (Assoc.keys (sortedEntries entries)).Pairwise (· < ·) := by
  induction entries with
  | nil => exact List.Pairwise.nil
  | cons e rest ih =>
    obtain ⟨hnew, hrest⟩ := List.nodup_cons.1 h
    exact pairwise_insertByKey (mt (keys_sortedEntries rest).mem_iff.1 hnew) (ih hrest)

theorem mem_sortedEntries : e ∈ sortedEntries entries ↔ ∃ e' ∈ entries, e = (e'.1, sorted e'.2) := by
  induction entries with
  | nil => exact ⟨nofun, nofun⟩
  | cons e' rest ih =>
    show e ∈ insertByKey (e'.1, sorted e'.2) (sortedEntries rest) ↔ _
    rw [mem_insertByKey, ih, List.exists_mem_cons_iff]

theorem lookup_sortedEntries (h : entries.keys.Nodup) :
    Assoc.lookup key (sortedEntries entries) = (entries.lookup key).map sorted := by
  induction entries with
  | nil => rfl
  | cons e rest ih =>
    obtain ⟨k, v⟩ := e
    obtain ⟨hnew, hrest⟩ := List.nodup_cons.1 h
    have hnew' : k ∉ Assoc.keys (sortedEntries rest) := mt (keys_sortedEntries rest).mem_iff.1 hnew
    rw [sortedEntries, lookup_insertByKey hnew', ih hrest, Assoc.lookup]
    split_ifs <;> rfl

/-- Entries whose keys ascend are determined by what is found under each key. -/
theorem eq_of_lookup_eq (h : entries.keys.Pairwise (· < ·)) (h' : entries'.keys.Pairwise (· < ·))
    (hlookup : ∀ key, entries.lookup key = entries'.lookup key) : entries = entries' := by
  have hirrefl : Std.Irrefl fun e e' : String × Value => e.1 < e'.1 := ⟨fun e => lt_irrefl e.1⟩
  have hantisymm : Std.Antisymm fun e e' : String × Value => e.1 < e'.1 :=
    ⟨fun _ _ hlt hgt => absurd hlt (lt_asymm hgt)⟩
  refine List.Pairwise.eq_of_mem_iff (List.pairwise_map.1 h) (List.pairwise_map.1 h') fun e => ?_
  rw [Assoc.mem_iff_lookup (h.imp ne_of_lt), Assoc.mem_iff_lookup (h'.imp ne_of_lt), hlookup]

/-- Objects are sorted into the same entries if what is found under each key is sorted into the same value. -/
theorem sortedEntries_eq_iff (h : entries.keys.Nodup) (h' : entries'.keys.Nodup) :
    sortedEntries entries = sortedEntries entries' ↔
      ∀ key, (entries.lookup key).map sorted = (entries'.lookup key).map sorted := by
  constructor
  · intro heq key
    rw [← lookup_sortedEntries h, ← lookup_sortedEntries h', heq]
  · intro hsame
    refine eq_of_lookup_eq (pairwise_sortedEntries h) (pairwise_sortedEntries h') fun key => ?_
    rw [lookup_sortedEntries h, lookup_sortedEntries h', hsame]

/-! ### Sorted values -/

theorem sortedItems_eq_map (items : List Value) : sortedItems items = items.map sorted := by
  induction items with
  | nil => rfl
  | cons v rest ih => rw [sortedItems, ih, List.map_cons]

/-- Sorting keeps values representable. -/
theorem representable_sorted (h : Representable v) : Representable (sorted v) := by
  induction h with
  | null => exact .null
  | bool b => exact .bool b
  | int n => exact .int n
  | float finite => exact .float finite
  | str s => exact .str s
  | list parts ih =>
    rw [sorted, sortedItems_eq_map]
    exact .list (List.forall_mem_map.2 ih)
  | object nodup parts ih =>
    refine .object ((pairwise_sortedEntries nodup).imp ne_of_lt) fun e he => ?_
    obtain ⟨e', he', rfl⟩ := mem_sortedEntries.1 he
    exact ih e' he'

theorem forall₂_congr {α : Type} {R S : α → α → Prop} {l l' : List α}
    (h : ∀ a ∈ l, ∀ b ∈ l', R a b ↔ S a b) : List.Forall₂ R l l' ↔ List.Forall₂ S l l' := by
  rw [List.forall₂_iff_zip, List.forall₂_iff_zip]
  refine and_congr_right fun _ => forall_congr' fun a => forall_congr' fun b => forall_congr' fun hzip => ?_
  exact h a (List.of_mem_zip hzip).1 b (List.of_mem_zip hzip).2

/-- Lists are sorted into the same list if their items are, one by one. -/
theorem sortedItems_eq_iff {items items' : List Value} : sortedItems items = sortedItems items' ↔
    List.Forall₂ (fun v w => sorted v = sorted w) items items' := by
  rw [sortedItems_eq_map, sortedItems_eq_map, ← List.forall₂_eq_eq_eq, List.forall₂_map_left_iff,
    List.forall₂_map_right_iff]

/-- Objects are alike if what is found under each key is sorted into the same value, as far as that makes values
alike. -/
theorem alike_object_iff (hparts : ∀ key v v', entries.lookup key = some v → entries'.lookup key = some v' →
    (sorted v = sorted v' ↔ v.Alike v')) :
    (∀ key, (entries.lookup key).map sorted = (entries'.lookup key).map sorted) ↔
      Value.Alike (.object entries) (.object entries') := by
  constructor
  · intro hsame
    refine .object (fun key => ?_) fun key v v' hv hv' => (hparts key v v' hv hv').1 ?_
    · rw [← not_iff_not, ← Assoc.lookup_eq_none_iff, ← Assoc.lookup_eq_none_iff, ← Option.map_eq_none_iff, hsame,
        Option.map_eq_none_iff]
    · have hkey := hsame key
      rw [hv, hv'] at hkey
      exact Option.some.inj hkey
  · intro halike key
    cases halike with
    | object keys parts =>
      have hnone : entries.lookup key = none ↔ entries'.lookup key = none := by
        rw [Assoc.lookup_eq_none_iff, Assoc.lookup_eq_none_iff, keys]
      cases hv : entries.lookup key with
      | none => rw [hnone.1 hv]
      | some v =>
        cases hv' : entries'.lookup key with
        | none => exact nomatch hv.symm.trans (hnone.2 hv')
        | some v' => exact congrArg some ((hparts key v v' hv hv').2 (parts key v v' hv hv'))

/-- **Values are sorted into the same value** just when they differ only in the order of entries. -/
theorem sorted_eq_iff (hv : Representable v) (hw : Representable w) : sorted v = sorted w ↔ v.Alike w := by
  induction hv generalizing w with
  | null =>
    cases hw with
    | null => exact ⟨fun _ => .null, fun _ => rfl⟩
    | _ => exact ⟨nofun, nofun⟩
  | bool b =>
    cases hw with
    | bool b' => exact ⟨fun h => Value.bool.inj h ▸ .bool b, fun h => by cases h; rfl⟩
    | _ => exact ⟨nofun, nofun⟩
  | int n =>
    cases hw with
    | int n' => exact ⟨fun h => Value.int.inj h ▸ .int n, fun h => by cases h; rfl⟩
    | _ => exact ⟨nofun, nofun⟩
  | float finite =>
    cases hw with
    | float finite' => exact ⟨fun h => Value.float.inj h ▸ .float _, fun h => by cases h; rfl⟩
    | _ => exact ⟨nofun, nofun⟩
  | str s =>
    cases hw with
    | str s' => exact ⟨fun h => Value.str.inj h ▸ .str s, fun h => by cases h; rfl⟩
    | _ => exact ⟨nofun, nofun⟩
  | list parts ih =>
    cases hw with
    | list parts' =>
      rw [sorted, sorted, Value.list.injEq, sortedItems_eq_iff, forall₂_congr fun v hv w hw => ih v hv (parts' w hw)]
      exact ⟨.list, fun h => by cases h; assumption⟩
    | _ => exact ⟨nofun, nofun⟩
  | object nodup parts ih =>
    cases hw with
    | object nodup' parts' =>
      rw [sorted, sorted, Value.object.injEq, sortedEntries_eq_iff nodup nodup']
      refine alike_object_iff fun key v v' hv hv' => ?_
      exact ih (key, v) ((Assoc.mem_iff_lookup nodup).2 hv) (parts' (key, v') ((Assoc.mem_iff_lookup nodup').2 hv'))
    | _ => exact ⟨nofun, nofun⟩

theorem render_inj (hv : Representable v) (hw : Representable w) : render v = render w ↔ v = w := by
  refine ⟨fun h => ?_, fun h => h ▸ rfl⟩
  have hread : readWith true (render v) = .ok v := readWith_render hv
  rw [h, readWith_render hw] at hread
  exact (Except.ok.inj hread).symm

/-- **Texts with sorted keys** are the same just when the values are alike. -/
theorem renderSorted_eq_iff (hv : Representable v) (hw : Representable w) :
    renderSorted v = renderSorted w ↔ v.Alike w := by
  rw [← sorted_eq_iff hv hw]
  exact render_inj (representable_sorted hv) (representable_sorted hw)

end Json

/-! ### Alike records -/

namespace Value

/-- Objects with the same keys in the same order are alike if their values are, one by one. -/
theorem alike_record_iff {entries entries' : Entries} (keys : List String) (hnodup : keys.Nodup)
    (h : entries.keys = keys) (h' : entries'.keys = keys) :
    Alike (.object entries) (.object entries') ↔ List.Forall₂ (fun e e' => Alike e.2 e'.2) entries entries' := by
  subst h
  have hparts : Alike (.object entries) (.object entries') ↔
      ∀ key v v', entries.lookup key = some v → entries'.lookup key = some v' → Alike v v' :=
    ⟨fun halike => by cases halike; assumption, fun parts => .object (fun key => by rw [h']) parts⟩
  rw [hparts]
  clear hparts
  induction entries generalizing entries' with
  | nil =>
    rw [List.map_eq_nil_iff.1 h']
    exact ⟨fun _ => .nil, fun _ _ _ _ => nofun⟩
  | cons e rest ih =>
    obtain _ | ⟨e', rest'⟩ := entries'
    · exact absurd h'.symm (List.cons_ne_nil _ _)
    obtain ⟨hkey, hrest⟩ : e'.1 = e.1 ∧ Assoc.keys rest' = Assoc.keys rest := List.cons.inj h'
    obtain ⟨hnew, hnodup⟩ := List.nodup_cons.1 hnodup
    have hothers {key : String} {v : Value} (hv : Assoc.lookup key rest = some v) : e.1 ≠ key := by
      rintro rfl
      exact nomatch hv.symm.trans (Assoc.lookup_eq_none_iff.2 hnew)
    rw [List.forall₂_cons]
    refine Iff.trans ?_ (and_congr_right fun _ => ih hnodup hrest)
    constructor
    · intro hall
      refine ⟨hall e.1 e.2 e'.2 (if_pos rfl) (if_pos hkey), fun key v v' hv hv' => hall key v v' ?_ ?_⟩
      · rw [Assoc.lookup, if_neg (hothers hv), hv]
      · rw [Assoc.lookup, if_neg (hkey.symm ▸ hothers hv), hv']
    · rintro ⟨hfirst, hall⟩ key v v' hv hv'
      rw [Assoc.lookup] at hv hv'
      by_cases hk : e.1 = key
      · rw [if_pos hk] at hv
        rw [if_pos (hkey.symm ▸ hk)] at hv'
        rwa [← Option.some.inj hv, ← Option.some.inj hv']
      · rw [if_neg hk] at hv
        rw [if_neg (hkey.symm ▸ hk)] at hv'
        exact hall key v v' hv hv'

end Value

end Colloquy
