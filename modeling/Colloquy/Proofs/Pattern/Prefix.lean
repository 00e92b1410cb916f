import Colloquy.Pattern.Basic

/-!
# Patterns in front of which a text grows

What stands in front of a match has a say in it only where a pattern looks back: at the start of the text or of a
line, or behind itself.  A pattern that does not (`Node.looksAhead`) matches at a place of a text just as it does
when another text, which ends in no word, is put in front of that: `Node.run_shift`.  So it is found in the longer
text if it is found in the shorter one, and otherwise only where a match begins in what was put in front
(`search_append_iff`).

The proof is by induction on the tree.  As the matcher hands what it has found to a continuation, it is about all
pairs of continuations that differ by the shift alone (`Moves`), and repetitions need the same of their rounds.
-/

namespace Colloquy.Pattern

/-! ### Looking ahead -/

/-- A test of a position that does not ask what the text begins with.  At the boundary of a word there is a look at
one character behind, which may just as well be missing if it is no part of a word. -/
def Edge.looksAhead : Edge → Bool
  | textStart | lineStart => false
  | textEnd | lastLineEnd | lineEnd | wordBoundary .. => true

/-- A tree without a look back. -/
def Node.looksAhead : Node → Bool
  | empty | one _ | reference .. => true
  | edge e => e.looksAhead
  | seq first second | alt first second => first.looksAhead && second.looksAhead
  | repetition body .. | group _ body | atomic body | ahead _ body => body.looksAhead
  | behind .. => false
  | choice _ matched unmatched => matched.looksAhead && unmatched.looksAhead

/-! ### Positions -/

/-- A span that lies further on. -/
def shiftSpan (n : Nat) (span : Nat × Nat × Nat) : Nat × Nat × Nat :=
  (span.1, span.2.1 + n, span.2.2 + n)

/-- A position that lies further on, together with its groups. -/
def Spot.shift (n : Nat) (s : Spot) : Spot :=
  ⟨s.index + n, s.spans.map (shiftSpan n)⟩

/-- Continuations of which the second one goes on in the longer text as the first one does in the shorter one. -/
def Moves (n : Nat) (next next' : Next) : Prop :=
  ∀ s, next' (s.shift n) = (next s).map (Spot.shift n)

/-- The same of what is matched before the continuation. -/
def MovesAll (n : Nat) (body body' : Spot → Next → Option Spot) : Prop :=
  ∀ s next next', Moves n next next' → body' (s.shift n) next' = (body s next).map (Spot.shift n)

theorem moves_some (n : Nat) : Moves n some some := fun _ => rfl

theorem span?_shift (n : Nat) (s : Spot) (number : Nat) :
    (s.shift n).span? number = (s.span? number).map fun span => (span.1 + n, span.2 + n) := by
  unfold Spot.span? Spot.shift
  induction s.spans with
  | nil => rfl
  | cons span rest ih =>
    rw [List.map_cons, List.find?_cons, List.find?_cons]
    show ((match span.1 == number with | true => _ | false => _ : Option _).map _) = _
    cases span.1 == number with
    | true => rfl
    | false => exact ih

/-! ### Rounds -/

section Rounds

variable {n : Nat} {body body' : Spot → Next → Option Spot} {next next' : Next}

/-- What is tried first, and then the continuation. -/
theorem orElse_shift {first first' : Option Spot} (h : first' = first.map (Spot.shift n))
    (hnext : Moves n next next') (s : Spot) :
    (match first' with | some found => some found | none => next' (s.shift n)) =
      (match first with | some found => some found | none => next s).map (Spot.shift n) := by
  subst h
  cases first with
  | some found => rfl
  | none => exact hnext s

theorem last_shift (last : Option Nat) (s : Spot) :
    last.map (· + n) = some (s.shift n).index ↔ last = some s.index := by
  cases last with
  | none => exact ⟨nofun, nofun⟩
  | some i =>
    show some (i + n) = some (s.index + n) ↔ _
    rw [Option.some_inj, Option.some_inj, Nat.add_right_cancel_iff]

theorem runMost_shift (hbody : MovesAll n body body') (hnext : Moves n next next') (fuel least : Nat)
    (most last : Option Nat) (s : Spot) :
    runMost body' fuel least most (last.map (· + n)) (s.shift n) next' =
      (runMost body fuel least most last s next).map (Spot.shift n) := by
  induction fuel generalizing least most last s with
  | zero => exact hnext s
  | succ fuel ih =>
    rw [runMost, runMost]
    by_cases hleast : least ≠ 0
    · rw [if_pos hleast, if_pos hleast]
      exact hbody _ _ _ fun s' => ih (least - 1) _ last s'
    rw [if_neg hleast, if_neg hleast]
    by_cases hstop : most = some 0 ∨ last = some s.index
    · rw [if_pos hstop, if_pos (hstop.imp_right (last_shift last s).2)]
      exact hnext s
    · rw [if_neg hstop, if_neg (mt (Or.imp_right (last_shift last s).1) hstop)]
      exact orElse_shift (hbody _ _ _ fun s' => ih 0 _ (some s.index) s') hnext s

theorem runFewest_shift (hbody : MovesAll n body body') (hnext : Moves n next next') (fuel least : Nat)
    (most last : Option Nat) (s : Spot) :
    runFewest body' fuel least most (last.map (· + n)) (s.shift n) next' =
      (runFewest body fuel least most last s next).map (Spot.shift n) := by
  induction fuel generalizing least most last s with
  | zero => exact hnext s
  | succ fuel ih =>
    rw [runFewest, runFewest]
    by_cases hleast : least ≠ 0
    · rw [if_pos hleast, if_pos hleast]
      exact hbody _ _ _ fun s' => ih (least - 1) _ last s'
    rw [if_neg hleast, if_neg hleast, hnext s]
    cases next s with
    | some found => rfl
    | none =>
      by_cases hstop : most = some 0 ∨ last = some s.index
      · rw [Option.map_none]
        dsimp only
        rw [if_pos hstop, if_pos (hstop.imp_right (last_shift last s).2)]
        rfl
      · rw [Option.map_none]
        dsimp only
        rw [if_neg hstop, if_neg (mt (Or.imp_right (last_shift last s).1) hstop)]
        exact hbody _ _ _ fun s' => ih 0 _ (some s.index) s'

end Rounds

/-! ### Trees -/

section Texts

variable {front rest : Array Char}

theorem getElem?_shift (i : Nat) : (front ++ rest)[i + front.size]? = rest[i]? := by
  rw [Array.getElem?_append_right (Nat.le_add_left ..), Nat.add_sub_cancel]

theorem wordAt_shift (ascii : Bool) (i : Nat) :
    wordAt (front ++ rest) ascii (i + front.size) = wordAt rest ascii i := by
  unfold wordAt
  rw [getElem?_shift]

theorem matchSpan_shift (ignoreCase ascii : Bool) (start stop i : Nat) :
    matchSpan (front ++ rest) ignoreCase ascii (start + front.size) (stop + front.size)
        (i + front.size) =
      (matchSpan rest ignoreCase ascii start stop i).map (· + front.size) := by
  have hat : ∀ j k, (front ++ rest)[j + front.size + k]? = rest[j + k]? := by
    intro j k
    rw [Nat.add_right_comm, getElem?_shift]
  unfold matchSpan
  simp only [hat, Nat.add_sub_add_right]
  rw [apply_ite (Option.map (· + front.size)), Option.map_some, Option.map_none,
    Nat.add_right_comm i]

variable (hword : ∀ ascii, wordAt front ascii (front.size - 1) = false) (hrest : rest.size ≠ 0)
include hword hrest

theorem Edge.holds_shift (e : Edge) (he : e.looksAhead = true) (i : Nat) :
    e.holds (front ++ rest) (i + front.size) = e.holds rest i := by
  have hsize : (front ++ rest).size = rest.size + front.size := by
    rw [Array.size_append, Nat.add_comm]
  have hend : ∀ j, (j + front.size == rest.size + front.size) = (j == rest.size) := by
    intro j
    rw [Bool.eq_iff_iff, beq_iff_eq, beq_iff_eq, Nat.add_right_cancel_iff]
  cases e with
  | textStart => exact nomatch he
  | lineStart => exact nomatch he
  | textEnd => rw [holds, holds, hsize, hend]
  | lastLineEnd => rw [holds, holds, hsize, hend, Nat.add_right_comm, hend, getElem?_shift]
  | lineEnd => rw [holds, holds, hsize, hend, getElem?_shift]
  | wordBoundary ascii negated =>
    -- Only in front of the first character there is another one now, which is no part of a word.
    have hbehind : (decide (0 < i + front.size) && wordAt (front ++ rest) ascii (i + front.size - 1)) =
        (decide (0 < i) && wordAt rest ascii (i - 1)) := by
      cases i with
      | succ i =>
        rw [Nat.add_right_comm, Nat.add_sub_cancel, Nat.add_sub_cancel, wordAt_shift]
        simp
      | zero =>
        rw [Nat.zero_add]
        cases hfront : front.size with
        | zero => rfl
        | succ m =>
          have hlast : wordAt (front ++ rest) ascii m = wordAt front ascii m := by
            unfold wordAt
            rw [Array.getElem?_append_left (by omega)]
          have hno := hword ascii
          rw [hfront, Nat.add_sub_cancel] at hno
          rw [Nat.add_sub_cancel, hlast, hno]
          rfl
    have hsome : ((front ++ rest).size != 0) = (rest.size != 0) := by
      rw [Bool.eq_iff_iff, bne_iff_ne, bne_iff_ne, hsize]
      omega
    rw [holds, holds, hbehind, wordAt_shift, hsome]

/-- **A text in front changes nothing.**  A tree that does not look back matches at a place of a text just as it
does further on in a longer one. -/
theorem Node.run_shift (node : Node) (hnode : node.looksAhead = true) :
    MovesAll front.size (node.run rest) (node.run (front ++ rest)) := by
  induction node with
  | empty => exact fun s next next' hnext => hnext s
  | one set =>
    intro s next next' hnext
    have hchar : (front ++ rest)[(s.shift front.size).index]? = rest[s.index]? := getElem?_shift _
    rw [run, run, hchar]
    cases rest[s.index]? with
    | none => rfl
    | some c =>
      have hon : (⟨s.index + front.size + 1, (s.shift front.size).spans⟩ : Spot) =
          Spot.shift front.size ⟨s.index + 1, s.spans⟩ := by
        rw [Spot.shift, Nat.add_right_comm]
        rfl
      dsimp only
      rw [apply_ite (Option.map _), ← hnext, ← hon]
      rfl
  | edge e =>
    intro s next next' hnext
    rw [run, run, apply_ite (Option.map _), ← hnext]
    show (if e.holds (front ++ rest) (s.index + front.size) then _ else _) = _
    rw [e.holds_shift hword hrest hnode]
    rfl
  | seq first second ih ih' =>
    obtain ⟨hfirst, hsecond⟩ := Bool.and_eq_true_iff.1 hnode
    exact fun s next next' hnext => ih hfirst s _ _ fun s' => ih' hsecond s' _ _ hnext
  | alt first second ih ih' =>
    obtain ⟨hfirst, hsecond⟩ := Bool.and_eq_true_iff.1 hnode
    intro s next next' hnext
    have hother : Moves front.size (fun s => second.run rest s next)
        fun s => second.run (front ++ rest) s next' := fun s' => ih' hsecond s' _ _ hnext
    exact orElse_shift (ih hfirst s _ _ hnext) hother s
  | repetition body least most preference ih =>
    intro s next next' hnext
    have hrounds : least + ((front ++ rest).size - (s.shift front.size).index) + 2 =
        least + (rest.size - s.index) + 2 := by
      rw [Array.size_append, Spot.shift]
      dsimp only
      omega
    cases preference with
    | most =>
      rw [run, run, hrounds]
      exact runMost_shift (ih hnode) hnext _ _ _ none s
    | fewest =>
      rw [run, run, hrounds]
      exact runFewest_shift (ih hnode) hnext _ _ _ none s
    | allOrNone =>
      have htaken := runMost_shift (ih hnode) (moves_some _) (least + (rest.size - s.index) + 2) least
        most none s
      rw [Option.map_none] at htaken
      rw [run, run, hrounds, htaken]
      cases runMost (body.run rest) _ least most none s some with
      | none => rfl
      | some s' => exact hnext s'
  | group number body ih =>
    exact fun s next next' hnext => ih hnode s _ _ fun s' =>
      hnext ⟨s'.index, (number, s.index, s'.index) :: s'.spans⟩
  | atomic body ih =>
    intro s next next' hnext
    rw [run, run, ih hnode s _ _ (moves_some _)]
    cases body.run rest s some with
    | none => rfl
    | some s' => exact hnext s'
  | reference number ignoreCase ascii =>
    intro s next next' hnext
    rw [run, run, span?_shift]
    cases s.span? number with
    | none => rfl
    | some span =>
      dsimp only [Option.map_some]
      rw [show (s.shift front.size).index = s.index + front.size from rfl, matchSpan_shift]
      cases matchSpan rest ignoreCase ascii span.1 span.2 s.index with
      | none => rfl
      | some i => exact hnext ⟨i, s.spans⟩
  | ahead negated body ih =>
    intro s next next' hnext
    rw [run, run, ih hnode s _ _ (moves_some _)]
    cases body.run rest s some with
    | none =>
      rw [Option.map_none]
      dsimp only
      rw [apply_ite (Option.map _), hnext]
      rfl
    | some s' =>
      rw [Option.map_some]
      dsimp only
      rw [apply_ite (Option.map _), ← hnext]
      rfl
  | behind width negated body => exact nomatch hnode
  | choice number matched unmatched ih ih' =>
    obtain ⟨hmatched, hunmatched⟩ := Bool.and_eq_true_iff.1 hnode
    intro s next next' hnext
    rw [run, run, apply_ite (Option.map _), span?_shift, Option.isSome_map,
      ih hmatched s _ _ hnext, ih' hunmatched s _ _ hnext]

end Texts

/-! ### Searching -/

/-- A match begins at one of the first places of a text. -/
def Node.BeginsWithin (node : Node) (n : Nat) (text : Array Char) : Prop :=
  ∃ i < n, (node.run text ⟨i, []⟩ some).isSome = true

theorem search_isSome_iff (node : Node) (text : Array Char) :
    (node.search text).isSome = true ↔ node.BeginsWithin (text.size + 1) text := by
  simp only [Node.search, Node.BeginsWithin, List.findSome?_isSome_iff, List.mem_range, Option.isSome_map]

/-- A tree that does not look back is found in a text that has grown in front if it was found before, or where a
match begins in what is new. -/
theorem search_append_iff {front rest : Array Char} (node : Node) (hnode : node.looksAhead = true)
    (hword : ∀ ascii, wordAt front ascii (front.size - 1) = false) (hrest : rest.size ≠ 0) :
    (node.search (front ++ rest)).isSome = true ↔
      (node.search rest).isSome = true ∨ node.BeginsWithin front.size (front ++ rest) := by
  have hmoved : ∀ i, (node.run (front ++ rest) ⟨i + front.size, []⟩ some).isSome =
      (node.run rest ⟨i, []⟩ some).isSome := by
    intro i
    have hrun := node.run_shift hword hrest hnode ⟨i, []⟩ some some (moves_some _)
    exact (congrArg Option.isSome hrun).trans Option.isSome_map
  rw [search_isSome_iff, search_isSome_iff, Array.size_append]
  constructor
  · rintro ⟨i, hi, hmatch⟩
    rcases Nat.lt_or_ge i front.size with hlt | hge
    · exact .inr ⟨i, hlt, hmatch⟩
    · obtain ⟨j, rfl⟩ := Nat.exists_eq_add_of_le' hge
      exact .inl ⟨j, by omega, (hmoved j).symm.trans hmatch⟩
  · rintro (⟨i, hi, hmatch⟩ | ⟨i, hi, hmatch⟩)
    · exact ⟨i + front.size, by omega, (hmoved i).trans hmatch⟩
    · exact ⟨i, by omega, hmatch⟩

end Colloquy.Pattern
