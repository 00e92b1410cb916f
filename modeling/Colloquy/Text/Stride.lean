/-!
# Tables of code points

A `Stride` is an arithmetic run of code points, and a table is a list of strides in ascending order.
`isListed` asks whether a table holds a code point.  A `Shift` moves the members of a stride by a fixed
distance, and `shifted` reads a one-to-one mapping off a table of shifts.
-/

namespace Colloquy.Text

/-! ### Strides -/

/-- The code points `first`, `first + step`, … that do not exceed `last`. -/
structure Stride where
  first : Nat
  last : Nat
  step : Nat

/-- Whether a code point lies on the stride. -/
def Stride.contains (s : Stride) (c : Nat) : Bool :=
  s.first ≤ c && c ≤ s.last && (c - s.first) % s.step == 0

/-- Whether an ascending table holds a code point.  The search ends at the first stride beyond it. -/
def isListed : List Stride → Nat → Bool
  | [], _ => false
  | s :: rest, c => if c < s.first then false else s.contains c || isListed rest c

/-! ### Shifts -/

/-- A stride whose members are all moved by one distance. -/
structure Shift where
  stride : Stride
  distance : Int

/-- The image of a code point under a table of shifts; a code point on no stride stays as it is. -/
def shifted : List Shift → Nat → Nat
  | [], c => c
  | s :: rest, c => if s.stride.contains c then ((c : Int) + s.distance).toNat else shifted rest c

/-- The code points that a table of shifts maps to `c`, apart from `c` itself. -/
def shiftSources (table : List Shift) (c : Nat) : List Nat :=
  table.filterMap fun s =>
    let source := ((c : Int) - s.distance).toNat
    if s.stride.contains source && source != c then some source else none

end Colloquy.Text
