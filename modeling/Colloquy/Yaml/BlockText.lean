import Colloquy.Yaml.Folding

/-!
# Block scalars

A block scalar is a text of indented lines behind a header.  The header says whether line ends are kept or
folded, what happens to the line ends at the end, and may say how deeply the lines are indented.
-/

namespace Colloquy.Yaml.BlockText

/-! ### Headers -/

/-- What happens to the line ends after the last line that is not empty. -/
inductive Chomping where
  /-- One is kept. -/
  | clip
  /-- None is kept. -/
  | strip
  | keep
  deriving DecidableEq, Repr

/-- The mark for keeping or stripping line ends, if there is one. -/
def takeChomping : List Spot → Option Chomping × List Spot
  | s :: rest =>
    if s.char = '+' then (some .keep, rest)
    else if s.char = '-' then (some .strip, rest)
    else (none, s :: rest)
  | [] => (none, [])

/-- The digit that says how deep the lines are, if there is one. -/
def takeDepth : List Spot → Except Failure (Option Nat × List Spot)
  | s :: rest =>
    if s.char = '0' then refuse
    else if s.char.isDigit then .ok (some (s.char.toNat - '0'.toNat), rest)
    else .ok (none, s :: rest)
  | [] => .ok (none, [])

/-- What is left after the line of a header, which may end with a comment. -/
def takeHeaderEnd (spots : List Spot) : Except Failure (List Spot) :=
  let blanks := spots.takeWhile (·.char == ' ')
  let rest := spots.dropWhile (·.char == ' ')
  let comment := rest.head?.any (·.char == '#')
  if comment && blanks.isEmpty then refuse
  else
    match if comment then rest.dropWhile (!isBreak ·.char) else rest with
    | [] => .ok []
    | s :: rest => if isBreak s.char then .ok rest else refuse

/-- A header: what happens to the last line ends, the depth if it is given, and the lines. -/
def header (spots : List Spot) : Except Failure (Chomping × Option Nat × List Spot) := do
  let (early, spots) := takeChomping spots
  let (depth, spots) ← takeDepth spots
  let (late, spots) := if early.isSome then (none, spots) else takeChomping spots
  return ((early.or late).getD .clip, depth, ← takeHeaderEnd spots)

/-! ### Lines -/

/-- A line, the character that ends it, and those that end the empty lines after it. -/
structure Line where
  text : List Char
  ending : List Char
  blanks : List Char

/-- The ends of empty lines, and what follows the indentation after them. -/
def emptyLines (indent : Nat) : List Spot → List Char × List Spot
  | [] => ([], [])
  | s :: rest =>
    if s.char = ' ' && s.column < indent then emptyLines indent rest
    else if isBreak s.char then
      let (blanks, after) := emptyLines indent rest
      (s.char :: blanks, after)
    else ([], s :: rest)

/-- The ends of empty lines, the depth of the deepest indentation met, and what follows it. -/
def leadingLines (deepest : Nat) : List Spot → List Char × Nat × List Spot
  | [] => ([], deepest, [])
  | s :: rest =>
    if s.char = ' ' then leadingLines (max deepest (s.column + 1)) rest
    else if isBreak s.char then
      let (blanks, found, after) := leadingLines deepest rest
      (s.char :: blanks, found, after)
    else ([], deepest, s :: rest)

/-- At most so many lines of an indentation, and what follows them. -/
def lines (indent : Nat) : Nat → List Spot → List Line × List Spot
  | 0, spots => ([], spots)
  | n + 1, spots =>
    if spots.head?.any (·.column == indent) then
      let text := (spots.takeWhile (!isBreak ·.char)).map (·.char)
      let rest := spots.dropWhile (!isBreak ·.char)
      let (blanks, after) := emptyLines indent (rest.drop 1)
      let (more, after) := lines indent n after
      (⟨text, (rest.take 1).map (·.char), blanks⟩ :: more, after)
    else ([], spots)

/-! ### The text -/

/-- Whether a line is indented further than the others. -/
def Line.isDeeper (l : Line) : Bool :=
  l.text.head?.any fun c => c == ' ' || c == '\t'

/-- The text of lines without their last line ends.  In a folded text a line end between two lines of the same
indentation becomes a space, or nothing if empty lines follow. -/
def joined (folded : Bool) : List Line → List Char
  | [] => []
  | [l] => l.text
  | l :: next :: rest =>
    let ending :=
      if folded && l.ending == ['\n'] && !l.isDeeper && !next.isDeeper then
        if l.blanks.isEmpty then [' '] else []
      else l.ending
    l.text ++ ending ++ l.blanks ++ joined folded (next :: rest)

/-- The last line ends as far as they are kept. -/
def lastEnds (chomping : Chomping) (l : Line) : List Char :=
  match chomping with
  | .strip => []
  | .clip => l.ending
  | .keep => l.ending ++ l.blanks

/-- The text of a block scalar behind its mark, in a place where it has to be indented by at least `least`,
and what follows it. -/
def read (folded : Bool) (least : Nat) (spots : List Spot) :
    Except Failure (List Char × List Spot) := do
  let (chomping, depth, spots) ← header spots
  let (blanks, indent, spots) := match depth with
    | some d =>
      let (blanks, spots) := emptyLines (least + d - 1) spots
      (blanks, least + d - 1, spots)
    | none =>
      let (blanks, deepest, spots) := leadingLines 0 spots
      (blanks, max least deepest, spots)
  let (ls, rest) := lines indent spots.length spots
  match ls.getLast? with
  | none => return (if chomping = .keep then blanks else [], rest)
  | some l => return (blanks ++ joined folded ls ++ lastEnds chomping l, rest)

end Colloquy.Yaml.BlockText
