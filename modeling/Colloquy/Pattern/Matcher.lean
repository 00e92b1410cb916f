import Colloquy.Pattern.Syntax

/-!
# Matching

`Node.run` matches a tree at a position by backtracking: it tries the ways to match in the order of
preference and hands each to a continuation, until one is accepted.  It recurses on the tree, and a
repetition besides on the number of characters that are left, since after its least count every round must
consume something.  `search` tries all positions from the left.
-/

namespace Colloquy.Pattern

/-! ### Positions -/

/-- A position in a text and the spans of the groups matched so far, the latest first. -/
structure Spot where
  index : Nat
  spans : List (Nat × Nat × Nat)

/-- The latest span of a group. -/
def Spot.span? (s : Spot) (number : Nat) : Option (Nat × Nat) :=
  (s.spans.find? (·.1 == number)).map (·.2)

/-- Whether the character at a position is a word character. -/
def wordAt (text : Array Char) (ascii : Bool) (i : Nat) : Bool :=
  match text[i]? with
  | some c => Category.word.holds ascii c
  | none => false

/-- Whether a position passes a test. -/
def Edge.holds (text : Array Char) (i : Nat) : Edge → Bool
  | textStart => i == 0
  | lineStart => i == 0 || text[i - 1]? == some '\n'
  | textEnd => i == text.size
  | lastLineEnd => i == text.size || (i + 1 == text.size && text[i]? == some '\n')
  | lineEnd => i == text.size || text[i]? == some '\n'
  | wordBoundary ascii negated =>
    ((0 < i && wordAt text ascii (i - 1)) != wordAt text ascii i) != negated && text.size != 0

/-! ### Trees -/

/-- What is to be matched after a part of the tree. -/
abbrev Next := Spot → Option Spot

/-- Rounds of a greedy repetition.  `last` is the position at which the latest free round began; a round
that began there and consumed nothing is the last one. -/
def runMost (body : Spot → Next → Option Spot) :
    Nat → Nat → Option Nat → Option Nat → Spot → Next → Option Spot
  | 0, _, _, _, s, next => next s
  | fuel + 1, least, most, last, s, next =>
    if least ≠ 0 then
      body s fun s' => runMost body fuel (least - 1) (most.map (· - 1)) last s' next
    else if most = some 0 ∨ last = some s.index then next s
    else
      match body s fun s' => runMost body fuel 0 (most.map (· - 1)) (some s.index) s' next with
      | some found => some found
      | none => next s

/-- Rounds of a repetition that prefers few. -/
def runFewest (body : Spot → Next → Option Spot) :
    Nat → Nat → Option Nat → Option Nat → Spot → Next → Option Spot
  | 0, _, _, _, s, next => next s
  | fuel + 1, least, most, last, s, next =>
    if least ≠ 0 then
      body s fun s' => runFewest body fuel (least - 1) (most.map (· - 1)) last s' next
    else
      match next s with
      | some found => some found
      | none =>
        -- After a round that took nothing, another one would not get any further.
        if most = some 0 ∨ last = some s.index then none
        else body s fun s' => runFewest body fuel 0 (most.map (· - 1)) (some s.index) s' next

/-- Whether the characters from `i` on are those of the span, and the position after them. -/
def matchSpan (text : Array Char) (ignoreCase ascii : Bool) (start stop i : Nat) : Option Nat :=
  let alike (a b : Char) : Bool := if ignoreCase then fold ascii a == fold ascii b else a == b
  let agrees := (List.range (stop - start)).all fun k =>
    match text[start + k]?, text[i + k]? with
    | some a, some b => alike a b
    | _, _ => false
  if agrees then some (i + (stop - start)) else none

/-- Matches a tree at a position and goes on with `next`. -/
def Node.run (text : Array Char) : Node → Spot → Next → Option Spot
  | empty, s, next => next s
  | one set, s, next =>
    match text[s.index]? with
    | some c => if set.holds c then next { s with index := s.index + 1 } else none
    | none => none
  | edge e, s, next => if e.holds text s.index then next s else none
  | seq first second, s, next => first.run text s fun s' => second.run text s' next
  | alt first second, s, next =>
    match first.run text s next with
    | some found => some found
    | none => second.run text s next
  | repetition body least most preference, s, next =>
    -- Rounds that are not among the least ones take a character each, so these are enough.
    let rounds := least + (text.size - s.index) + 2
    match preference with
    | .most => runMost (body.run text) rounds least most none s next
    | .fewest => runFewest (body.run text) rounds least most none s next
    -- What the rounds have taken is kept, whatever follows.
    | .allOrNone =>
      match runMost (body.run text) rounds least most none s some with
      | some s' => next s'
      | none => none
  | group number body, s, next =>
    body.run text s fun s' =>
      next { s' with spans := (number, s.index, s'.index) :: s'.spans }
  | atomic body, s, next =>
    match body.run text s some with
    | some s' => next s'
    | none => none
  | reference number ignoreCase ascii, s, next =>
    match s.span? number with
    | none => none
    | some (start, stop) =>
      match matchSpan text ignoreCase ascii start stop s.index with
      | some i => next { s with index := i }
      | none => none
  | ahead negated body, s, next =>
    match body.run text s some with
    | some s' => if negated then none else next { s' with index := s.index }
    | none => if negated then next s else none
  | behind width negated body, s, next =>
    -- The width is fixed, so there is just one place that what is behind can start from.
    let found := if s.index < width then none
      else body.run text { s with index := s.index - width } some
    match found with
    | some s' => if negated then none else next { s' with index := s.index }
    | none => if negated then next s else none
  | choice number matched unmatched, s, next =>
    if (s.span? number).isSome then matched.run text s next else unmatched.run text s next

/-! ### Searching -/

/-- A match: its span and the spans of its groups. -/
structure Match where
  start : Nat
  stop : Nat
  spans : List (Nat × Nat × Nat)

/-- The leftmost match in a text. -/
def Node.search (n : Node) (text : Array Char) : Option Match :=
  (List.range (text.size + 1)).findSome? fun i =>
    (n.run text ⟨i, []⟩ some).map fun s => ⟨i, s.index, s.spans⟩

/-- The part of a text between two positions. -/
def slice (text : Array Char) (start stop : Nat) : String :=
  String.ofList ((text.toList.drop start).take (stop - start))

end Colloquy.Pattern
