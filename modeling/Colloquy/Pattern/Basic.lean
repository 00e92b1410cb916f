import Colloquy.Pattern.Matcher
import Colloquy.Pattern.Reader

/-!
# Patterns

A `Pattern` is a text that has been read as one.  `search?` finds its leftmost match, `captured` is what a
match hands on: the first group if the pattern has groups, and the whole match otherwise.
-/

namespace Colloquy

/-- A pattern that has been read. -/
structure Pattern where
  source : String
  tree : Pattern.Node
  groupCount : Nat

namespace Pattern

/-- Reads a pattern. -/
def ofText (source : String) (flags : Flags) : Except Fault Pattern := do
  let (tree, groupCount) ← readTree flags source
  return { source, tree, groupCount }

/-- The pattern of a tree that is given as such. -/
def ofTree (source : String) (tree : Node) : Pattern :=
  { source, tree, groupCount := 0 }

/-- The leftmost match in a text. -/
def search? (p : Pattern) (s : String) : Option Match :=
  p.tree.search s.toList.toArray

/-- Whether the pattern matches somewhere in a text. -/
def matchesIn (p : Pattern) (s : String) : Bool :=
  (p.search? s).isSome

/-- The text of a group, if the group took part in the match; group zero is the whole match. -/
def Match.group? (m : Match) (s : String) (number : Nat) : Option String :=
  let text := s.toList.toArray
  if number = 0 then some (slice text m.start m.stop)
  else (Spot.span? ⟨m.stop, m.spans⟩ number).map fun (start, stop) => slice text start stop

/-- What the leftmost match in a text hands on, if there is a match: the first group, which may have taken
no part, or the whole match if the pattern has no groups. -/
def captured? (p : Pattern) (s : String) : Option (Option String) :=
  (p.search? s).map fun m => m.group? s (if p.groupCount = 0 then 0 else 1)

end Pattern

end Colloquy
