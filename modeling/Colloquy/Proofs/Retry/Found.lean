import Colloquy.Proofs.Pattern.Prefix
import Colloquy.Proofs.Pipeline.History

/-!
# Where retry patterns are found

What a failure's description is searched for may be found in what has been put in front of it, or in the description
itself.  A text, and a pattern that does not look back, is found in the longer description if it is found in the
shorter one, and otherwise only if it begins in what was put in front (`foundIn_append_iff`).

That the patterns of failures that pass by themselves begin nowhere in a certain text can be computed: at each of its
places a character of it stands against them (`clashes`, `not_agrees_of_clashes`).
-/

namespace Colloquy

namespace RetryPattern

/-- A text, or a pattern that does not look back. -/
def looksAhead : RetryPattern → Bool
  | pattern p => p.tree.looksAhead
  | part _ | other _ => true

/-- A pattern is found at one of the first places of a description. -/
def BeginsWithin (n : Nat) (description : String) : RetryPattern → Prop
  | part text => ∃ before after, description.toList = before ++ text.toList ++ after ∧ before.length < n
  | pattern p => p.tree.BeginsWithin n description.toList.toArray
  | other _ => False

/-! ### Longer descriptions -/

theorem holds_append_iff (front rest text : String) : Text.holds (front ++ rest) text = true ↔
    Text.holds rest text = true ∨ (part text).BeginsWithin front.length (front ++ rest) := by
  simp only [Text.holds, Text.occursIn_iff, BeginsWithin, String.toList_append]
  constructor
  · rintro ⟨before, after, h⟩
    rcases Nat.lt_or_ge before.length front.length with hlt | hge
    · exact .inr ⟨before, after, h, hlt⟩
    · -- All of the front stands before the text.
      rw [← String.length_toList] at hge
      rw [List.append_assoc] at h
      obtain ⟨more, rfl⟩ := List.prefix_of_prefix_length_le (List.prefix_append front.toList rest.toList)
        (h ▸ List.prefix_append before _) hge
      rw [List.append_assoc, List.append_cancel_left_eq, ← List.append_assoc] at h
      exact .inl ⟨more, after, h⟩
  · rintro (⟨before, after, h⟩ | ⟨before, after, h, -⟩)
    · exact ⟨front.toList ++ before, after, by simp only [h, List.append_assoc]⟩
    · exact ⟨before, after, h⟩

/-- **Where patterns are found.**  In a description that has grown in front, a pattern that does not look back is
found if it was found before, or where it begins in what is new. -/
theorem foundIn_append_iff {front rest : String} {p : RetryPattern} (hp : p.looksAhead = true)
    (hword : ∀ ascii, Pattern.wordAt front.toList.toArray ascii (front.length - 1) = false)
    (hrest : rest ≠ "") : p.foundIn (front ++ rest) = .ok true ↔
      p.foundIn rest = .ok true ∨ p.BeginsWithin front.length (front ++ rest) := by
  cases p with
  | part text =>
    simp only [foundIn, Except.ok.injEq]
    exact holds_append_iff front rest text
  | pattern p =>
    have hsize : front.toList.toArray.size = front.length := front.length_toList
    have hsome : rest.toList.toArray.size ≠ 0 := by
      rwa [List.size_toArray, Ne, List.length_eq_zero_iff, String.toList_eq_nil_iff]
    have hword' : ∀ ascii, Pattern.wordAt front.toList.toArray ascii
        (front.toList.toArray.size - 1) = false := by
      rwa [hsize]
    have hsearch := Pattern.search_append_iff p.tree hp hword' hsome
    rw [hsize, List.append_toArray, ← String.toList_append] at hsearch
    simp only [foundIn, Except.ok.injEq]
    exact hsearch
  | other v => exact ⟨nofun, fun h => h.elim nofun False.elim⟩

/-- Some pattern is found just if one of them is, as long as there is nothing among them that cannot be searched
for. -/
theorem anyFoundIn_iff {ps : List RetryPattern} (h : ∀ v, other v ∉ ps) (description : String) :
    anyFoundIn description ps = .ok true ↔ ∃ p ∈ ps, p.foundIn description = .ok true := by
  induction ps with
  | nil => simp [anyFoundIn]
  | cons q rest ih =>
    have hrest := ih fun v hv => h v (List.mem_cons_of_mem _ hv)
    obtain ⟨b, hb⟩ := Pipeline.foundIn_ok (fun v hq => h v (hq ▸ List.mem_cons_self ..)) description
    simp only [List.mem_cons, exists_eq_or_imp]
    rw [anyFoundIn, hb]
    cases b with
    | true => exact iff_of_true rfl (.inl rfl)
    | false => exact hrest.trans (or_iff_right (by simp)).symm

/-! ### Patterns that begin nowhere in a text -/

/-- The characters of a text from a place on pass tests, each of them its own. -/
def Agrees (text : List Char) (tests : List (Char → Bool)) (i : Nat) : Prop :=
  ∀ k (h : k < tests.length), ∃ c, text[i + k]? = some c ∧ tests[k] c = true

/-- From each place of a text on, one of its characters fails the test that it meets. -/
def clashes (front : List Char) (tests : List (Char → Bool)) : Bool :=
  (List.range front.length).all fun i => ((front.drop i).zip tests).any fun (c, test) => !test c

theorem not_agrees_of_clashes {front rest : List Char} {tests : List (Char → Bool)} {i : Nat}
    (h : clashes front tests = true) (hi : i < front.length) : ¬Agrees (front ++ rest) tests i := by
  intro hagrees
  obtain ⟨⟨c, test⟩, hmem, hfails⟩ := List.any_eq_true.1 (List.all_eq_true.1 h i (List.mem_range.2 hi))
  have hfails : test c = false := by simpa using hfails
  obtain ⟨k, hk, heq⟩ := List.getElem_of_mem hmem
  rw [List.length_zip, List.length_drop] at hk
  rw [List.getElem_zip, List.getElem_drop] at heq
  obtain ⟨hc, htest⟩ := Prod.mk.inj heq
  obtain ⟨d, hd, hpasses⟩ := hagrees k (by omega)
  -- The character lies in the front, and is the one that fails.
  rw [List.getElem?_append_left (by omega), List.getElem?_eq_getElem (by omega), hc] at hd
  rw [htest, ← Option.some.inj hd] at hpasses
  exact Bool.false_ne_true (hfails.symm.trans hpasses)

/-- A text agrees with itself. -/
theorem agrees_part {before part after : List Char} :
    Agrees (before ++ part ++ after) (part.map fun d c => c == d) before.length := by
  intro k hk
  rw [List.length_map] at hk
  refine ⟨part[k], ?_, ?_⟩
  · rw [List.append_assoc, List.getElem?_append_right (Nat.le_add_right ..), Nat.add_sub_cancel_left,
      List.getElem?_append_left hk, List.getElem?_eq_getElem hk]
  · rw [List.getElem_map, beq_self_eq_true]

theorem run_ofList_cons (text : Array Char) (node : Pattern.Node) (nodes : List Pattern.Node)
    (s : Pattern.Spot) (next : Pattern.Next) : (Pattern.Node.ofList (node :: nodes)).run text s next =
      node.run text s fun s' => (Pattern.Node.ofList nodes).run text s' next := by
  cases nodes with
  | nil => rfl
  | cons other rest => rfl

/-- Where a tree matches that begins with a set of characters, there is a character of it. -/
theorem exists_of_run_one {text : Array Char} {set : Pattern.CharSet} {s : Pattern.Spot}
    {next : Pattern.Next} (h : ((Pattern.Node.one set).run text s next).isSome = true) :
    ∃ c, text[s.index]? = some c ∧ set.holds c = true ∧
      (next { s with index := s.index + 1 }).isSome = true := by
  rw [Pattern.Node.run] at h
  cases hc : text[s.index]? with
  | none =>
    rw [hc] at h
    exact absurd h Bool.false_ne_true
  | some c =>
    rw [hc] at h
    dsimp only at h
    by_cases hset : set.holds c = true
    · rw [if_pos hset] at h
      exact ⟨c, rfl, hset, h⟩
    · rw [if_neg hset] at h
      exact absurd h Bool.false_ne_true

/-- Where a tree matches that begins with sets of characters, there is a character of each of them. -/
theorem agrees_of_run {text : List Char} {sets : List Pattern.CharSet} {more : List Pattern.Node}
    {s : Pattern.Spot} {next : Pattern.Next}
    (h : ((Pattern.Node.ofList (sets.map .one ++ more)).run text.toArray s next).isSome = true) :
    Agrees text (sets.map fun set c => set.holds c) s.index := by
  induction sets generalizing s with
  | nil => exact fun k hk => absurd hk (Nat.not_lt_zero k)
  | cons set sets ih =>
    rw [List.map_cons, List.cons_append, run_ofList_cons] at h
    obtain ⟨c, hc, hset, hrest⟩ := exists_of_run_one h
    rw [List.getElem?_toArray] at hc
    intro k hk
    cases k with
    | zero => exact ⟨c, hc, hset⟩
    | succ k =>
      obtain ⟨d, hd, hpasses⟩ := ih hrest k (Nat.lt_of_succ_lt_succ hk)
      exact ⟨d, by rw [Nat.add_succ, ← Nat.succ_add]; exact hd, hpasses⟩

section

variable {front : String} (rest : String)

theorem not_beginsWithin_part {text : String}
    (h : clashes front.toList (text.toList.map fun d c => c == d) = true) :
    ¬(part text).BeginsWithin front.length (front ++ rest) := by
  rintro ⟨before, after, htext, hlength⟩
  rw [String.toList_append] at htext
  rw [← String.length_toList] at hlength
  have hagrees : Agrees (front.toList ++ rest.toList) (text.toList.map fun d c => c == d) before.length := by
    rw [htext]
    exact agrees_part
  exact not_agrees_of_clashes h hlength hagrees

theorem not_beginsWithin_sets (source : String) (sets : List Pattern.CharSet) (more : List Pattern.Node)
    (h : clashes front.toList (sets.map fun set c => set.holds c) = true) :
    ¬(pattern (.ofTree source (.ofList (sets.map .one ++ more)))).BeginsWithin front.length
      (front ++ rest) := by
  rintro ⟨i, hi, hmatch⟩
  rw [← String.length_toList] at hi
  have hagrees := agrees_of_run hmatch
  rw [String.toList_append] at hagrees
  exact not_agrees_of_clashes h hi hagrees

/-- The same behind a test of the position. -/
theorem not_beginsWithin_edge (source : String) (e : Pattern.Edge) (sets : List Pattern.CharSet)
    (more : List Pattern.Node) (h : clashes front.toList (sets.map fun set c => set.holds c) = true) :
    ¬(pattern (.ofTree source (.ofList (.edge e :: (sets.map .one ++ more))))).BeginsWithin front.length
      (front ++ rest) := by
  rintro ⟨i, hi, hmatch⟩
  rw [Pattern.ofTree, run_ofList_cons, Pattern.Node.run] at hmatch
  by_cases hedge : e.holds (front ++ rest).toList.toArray i = true
  · rw [if_pos hedge] at hmatch
    exact not_beginsWithin_sets rest source sets more h ⟨i, hi, hmatch⟩
  · rw [if_neg hedge] at hmatch
    exact absurd hmatch Bool.false_ne_true

theorem not_beginsWithin_caseless {text : String}
    (h : clashes front.toList (text.toList.map fun d c =>
      Pattern.CharSet.holds { items := [.char d], ignoreCase := true } c) = true) :
    ¬(caseless text).BeginsWithin front.length (front ++ rest) := by
  have hsets := not_beginsWithin_sets rest text
    (text.toList.map fun d => { items := [.char d], ignoreCase := true }) [] (by
      rw [List.map_map]
      exact h)
  rw [List.append_nil, List.map_map] at hsets
  exact hsets

end

end RetryPattern

/-! ### Policies -/

namespace RetryPolicy

variable {σ : Type} {policy : RetryPolicy σ}

/-- One of the patterns of a policy is found in a description, or the policy has no patterns at all. -/
def Finds (policy : RetryPolicy σ) (description : String) : Prop :=
  ∀ ps ∈ policy.patterns, ∃ p ∈ ps, p.foundIn description = .ok true

/-- One of the patterns of a policy is found at one of the first places of a description. -/
def FindsWithin (policy : RetryPolicy σ) (n : Nat) (description : String) : Prop :=
  ∃ ps ∈ policy.patterns, ∃ p ∈ ps, p.BeginsWithin n description

/-- No pattern of a policy looks back. -/
def LooksAhead (policy : RetryPolicy σ) : Prop :=
  ∀ ps ∈ policy.patterns, ∀ p ∈ ps, p.looksAhead = true

theorem isRetryable_iff_finds (hpatterns : policy.SearchesTexts) {f : Failure}
    (hfinal : isFinal f = false) (hmarked : isMarked f = false) :
    policy.isRetryable f = .ok true ↔ policy.Finds f.description := by
  unfold isRetryable Finds
  rw [hfinal, hmarked, if_neg Bool.false_ne_true, if_neg Bool.false_ne_true]
  cases hps : policy.patterns with
  | none => exact iff_of_true rfl fun ps h => nomatch h
  | some ps =>
    have hiff := RetryPattern.anyFoundIn_iff (hpatterns ps hps) f.description
    exact hiff.trans ⟨fun h qs hqs => Option.some.inj hqs ▸ h, fun h => h ps rfl⟩

theorem finds_append_iff {front rest : String} (hlook : policy.LooksAhead)
    (hword : ∀ ascii, Pattern.wordAt front.toList.toArray ascii (front.length - 1) = false)
    (hrest : rest ≠ "") : policy.Finds (front ++ rest) ↔
      policy.Finds rest ∨ policy.FindsWithin front.length (front ++ rest) := by
  unfold Finds FindsWithin
  cases hps : policy.patterns with
  | none => exact iff_of_true (fun ps h => nomatch h) (.inl fun ps h => nomatch h)
  | some ps =>
    have hfound : ∀ p ∈ ps, p.foundIn (front ++ rest) = .ok true ↔
        p.foundIn rest = .ok true ∨ p.BeginsWithin front.length (front ++ rest) :=
      fun p hp => RetryPattern.foundIn_append_iff (hlook ps hps p hp) hword hrest
    simp only [Option.mem_def, Option.some.injEq, forall_eq', exists_eq_left']
    rw [← exists_or]
    refine exists_congr fun p => ?_
    rw [← and_or_left]
    exact and_congr_right (hfound p)

end RetryPolicy

end Colloquy
