/-!
# Characters and their places

Where a character stands decides what it means: columns tell how deeply it is nested, and a key has to be on
one line with its colon.  `Spot.ofText` numbers the characters of a text once, so that readers only look at
the list in front of them.
-/

namespace Colloquy.Yaml

/-! ### Classes -/

/-- Characters that end a line. -/
def isBreak (c : Char) : Bool :=
  c == '\n' || c == '\x85' || c == '\u2028' || c == '\u2029'

/-- Spaces, tabs and line ends. -/
def isGap (c : Char) : Bool :=
  c == ' ' || c == '\t' || isBreak c

/-- Characters that a document may hold. -/
def isAllowed (c : Char) : Bool :=
  let n := c.toNat
  n == 9 || n == 10 || n == 13 || (32 ≤ n && n ≤ 126) || n == 0x85 || (0xa0 ≤ n && n ≤ 0xfffd) ||
    0x10000 ≤ n

/-! ### Places -/

/-- A character and its place, all counted from zero. -/
structure Spot where
  char : Char
  line : Nat
  column : Nat
  index : Nat
  deriving DecidableEq, Repr

namespace Spot

/-- Line ends of other systems as plain ones. -/
def unifyBreaks : List Char → List Char
  | '\r' :: '\n' :: cs => '\n' :: unifyBreaks cs
  | '\r' :: cs => '\n' :: unifyBreaks cs
  | c :: cs => c :: unifyBreaks cs
  | [] => []

/-- Numbers the characters from a place on.  A byte order mark has no width. -/
def numbered (line column index : Nat) : List Char → List Spot
  | [] => []
  | c :: cs =>
    ⟨c, line, column, index⟩ ::
      if isBreak c then numbered (line + 1) 0 (index + 1) cs
      else numbered line (if c = '\ufeff' then column else column + 1) (index + 1) cs

/-- The numbered characters of a text, without a byte order mark at the start. -/
def ofText (text : String) : List Spot :=
  match numbered 0 0 0 (unifyBreaks text.toList) with
  | ⟨'\ufeff', _, _, _⟩ :: rest => rest
  | spots => spots

end Spot

/-! ### Looking ahead -/

/-- Whether a word ends here. -/
def wordEnds : List Spot → Bool
  | [] => true
  | s :: _ => isGap s.char

/-- Whether three marks of a kind stand here as a word. -/
def threeOf (mark : Char) : List Spot → Bool
  | a :: b :: c :: rest => a.char == mark && b.char == mark && c.char == mark && wordEnds rest
  | _ => false

/-- Whether a line that starts here separates documents. -/
def separates (spots : List Spot) : Bool :=
  threeOf '-' spots || threeOf '.' spots

end Colloquy.Yaml
