import Colloquy.Text.PrintTable
import Colloquy.Text.WordTable

/-!
# Classes of characters

The classes that interpolation, patterns, extraction and quoting ask for: word characters, decimal digits
of any script with their values, blanks, and characters that a quoted display writes by number.
`trim` cuts the blanks off both ends of a text.
-/

namespace Colloquy.Text

/-! ### Classes -/

/-- Letters, digits and other numbers of any script, and the low line. -/
def isWord (c : Char) : Bool :=
  isListed wordStrides c.toNat

/-- The value of a decimal digit of any script. -/
def digitValue? (c : Char) : Option Nat :=
  (digitRuns.find? (·.contains c.toNat)).map fun run => (c.toNat - run.first) % 10

/-- Decimal digits of any script. -/
def isDigit (c : Char) : Bool :=
  isListed digitRuns c.toNat

/-- White space: tabs, line ends, separators and spaces of any width. -/
def isBlank (c : Char) : Bool :=
  let n := c.toNat
  (9 ≤ n && n ≤ 13) || (28 ≤ n && n ≤ 32) || n == 0x85 || n == 0xa0 || n == 0x1680 ||
    (0x2000 ≤ n && n ≤ 0x200a) || n == 0x2028 || n == 0x2029 || n == 0x202f || n == 0x205f ||
    n == 0x3000

/-- Characters without a printed form; the space has one. -/
def isHidden (c : Char) : Bool :=
  isListed hiddenStrides c.toNat

/-! ### Trimming -/

/-- Cuts blanks off the end. -/
def trimRight (cs : List Char) : List Char :=
  (cs.reverse.dropWhile isBlank).reverse

/-- Cuts blanks off both ends. -/
def trim (cs : List Char) : List Char :=
  trimRight (cs.dropWhile isBlank)

/-- A text without the blanks at its ends. -/
def trimmed (s : String) : String :=
  String.ofList (trim s.toList)

/-- Whether a text holds nothing but blanks. -/
def isBlankText (s : String) : Bool :=
  s.toList.all isBlank

end Colloquy.Text
