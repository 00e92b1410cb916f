import Colloquy.Text.Case

/-!
# Pattern trees

A pattern is read into a tree whose leaves test one character or one position.  Flags are resolved while
reading, so that every leaf carries the ones it needs.  `CharSet.holds` decides whether a set takes a
character, with regard to case or without.
-/

namespace Colloquy.Pattern

/-! ### Flags -/

/-- The flags in force at a place of a pattern. -/
structure Flags where
  ignoreCase : Bool := false
  multiline : Bool := false
  dotAll : Bool := false
  ascii : Bool := false
  verbose : Bool := false
  deriving DecidableEq, Repr

/-! ### Sets of characters -/

/-- The three classes that have an escape of their own. -/
inductive Category where
  | digit
  | space
  | word
  deriving DecidableEq, Repr

/-- Whether a class holds a character, among all characters or among those of ASCII alone. -/
def Category.holds (ascii : Bool) (c : Char) : Category → Bool
  | .digit => if ascii then c.isDigit else Text.isDigit c
  | .space =>
    if ascii then c == ' ' || (9 ≤ c.toNat && c.toNat ≤ 13) else Text.isBlank c
  | .word => if ascii then c.isAlphanum || c == '_' else Text.isWord c

/-- A part of a set of characters. -/
inductive SetItem where
  | range (first last : Char)
  | category (c : Category) (negated : Bool)
  deriving DecidableEq, Repr

/-- The set of one character. -/
def SetItem.char (c : Char) : SetItem := .range c c

/-- A set of characters. -/
structure CharSet where
  negated : Bool := false
  items : List SetItem
  ignoreCase : Bool := false
  ascii : Bool := false
  deriving DecidableEq, Repr

/-- The small form of a character, for caseless sets. -/
def fold (ascii : Bool) (c : Char) : Char :=
  if ascii then c.toLower else Text.simpleLower c

/-- The characters that a caseless set takes for `c`. -/
def variants (ascii : Bool) (c : Char) : List Char :=
  if ascii then [c.toLower, c.toUpper] else Text.caseVariants c

/-- Whether a part of a set takes a character. -/
def SetItem.holds (ignoreCase ascii : Bool) (c : Char) : SetItem → Bool
  | .range first last =>
    if ignoreCase then (variants ascii c).any fun d => first ≤ d && d ≤ last
    else first ≤ c && c ≤ last
  | .category kind negated =>
    kind.holds ascii (if ignoreCase then fold ascii c else c) != negated

/-- Whether a set takes a character. -/
def CharSet.holds (s : CharSet) (c : Char) : Bool :=
  s.items.any (·.holds s.ignoreCase s.ascii c) != s.negated

/-! ### Trees -/

/-- A test of a position. -/
inductive Edge where
  | textStart
  | lineStart
  /-- The end of the text. -/
  | textEnd
  /-- The end of the text, or in front of a line end that ends the text. -/
  | lastLineEnd
  | lineEnd
  | wordBoundary (ascii negated : Bool)
  deriving DecidableEq, Repr

/-- How a repetition prefers its counts. -/
inductive Preference where
  | most
  | fewest
  /-- As many as possible, without giving any back. -/
  | allOrNone
  deriving DecidableEq, Repr

/-- A pattern tree. -/
inductive Node where
  | empty
  | one (set : CharSet)
  | edge (e : Edge)
  | seq (first second : Node)
  | alt (first second : Node)
  | repetition (body : Node) (least : Nat) (most : Option Nat) (preference : Preference)
  | group (number : Nat) (body : Node)
  | atomic (body : Node)
  | reference (number : Nat) (ignoreCase ascii : Bool)
  | ahead (negated : Bool) (body : Node)
  | behind (width : Nat) (negated : Bool) (body : Node)
  | choice (number : Nat) (matched unmatched : Node)
  deriving Repr

/-- The nodes one after the other. -/
def Node.ofList : List Node → Node
  | [] => .empty
  | [n] => n
  | n :: rest => .seq n (ofList rest)

end Colloquy.Pattern
