import Colloquy.Failure
import Colloquy.Yaml.Spot

/-!
# Scalars over several lines

Plain and quoted scalars may go on over several lines.  What separates two parts of one is a `Gap`: blanks on
one line are kept, a single line end becomes a space, and of several line ends all but the first are kept.
-/

namespace Colloquy.Yaml

/-- The failure of a text that is no document. -/
def refuse {α : Type} : Except Failure α := .error .badYaml

/-! ### Gaps -/

/-- What separates two parts of a scalar. -/
inductive Gap where
  | none
  | blanks (cs : List Char)
  /-- Line ends; the first one is absent if it was escaped. -/
  | lines (first : Option Char) (more : List Char)
  deriving DecidableEq, Repr

namespace Gap

/-- The gap with one more blank; blanks around line ends do not count. -/
def blank (c : Char) : Gap → Gap
  | none => blanks [c]
  | blanks cs => blanks (cs ++ [c])
  | lines first more => lines first more

/-- The gap with one more line end. -/
def lineEnd (c : Char) : Gap → Gap
  | lines first more => lines first (more ++ [c])
  | _ => lines (some c) []

/-- What stands for a gap. -/
def text : Gap → List Char
  | none => []
  | blanks cs => cs
  | lines (some '\n') [] => [' ']
  | lines (some '\n') more => more
  | lines first more => first.toList ++ more

end Gap

/-! ### Plain scalars -/

/-- Whether a colon here ends a plain scalar. -/
def colonEnds (inFlow : Bool) : List Spot → Bool
  | [] => true
  | s :: _ => isGap s.char || (inFlow && [',', '[', ']', '\x7b', '\x7d'].contains s.char)

/-- Whether a plain scalar ends before a character, whatever is in front. -/
def plainEnds (inFlow : Bool) (c : Char) (rest : List Spot) : Bool :=
  c == '\t' || (c == ':' && colonEnds inFlow rest) ||
    (inFlow && [',', '?', '[', ']', '\x7b', '\x7d'].contains c)

/-- The rest of a plain scalar after a gap, and what follows it.  It ends at `back` if nothing more of it comes
after the gap.  Lines that go on with it are indented by at least `indent`, except within brackets. -/
def plain (inFlow : Bool) (indent : Nat) (gap : Gap) (back : List Spot) :
    List Spot → List Char × List Spot
  | [] => ([], back)
  | s :: rest =>
    if s.char = ' ' then plain inFlow indent (gap.blank ' ') back rest
    else if isBreak s.char then
      if separates rest then ([], back) else plain inFlow indent (gap.lineEnd s.char) back rest
    else if plainEnds inFlow s.char rest ||
        (gap != .none && (s.char = '#' || (!inFlow && s.column < indent))) then ([], back)
    else
      let (cs, after) := plain inFlow indent .none rest rest
      (gap.text ++ s.char :: cs, after)

/-! ### Quoted scalars -/

/-- The character that a letter stands for after a backslash. -/
def escaped? : Char → Option Char
  | '0' => some '\x00'
  | 'a' => some '\x07'
  | 'b' => some '\x08'
  | 't' => some '\t'
  | '\t' => some '\t'
  | 'n' => some '\n'
  | 'v' => some '\x0b'
  | 'f' => some '\x0c'
  | 'r' => some '\r'
  | 'e' => some '\x1b'
  | ' ' => some ' '
  | '"' => some '"'
  | '\\' => some '\\'
  | '/' => some '/'
  | 'N' => some '\x85'
  | '_' => some '\xa0'
  | 'L' => some '\u2028'
  | 'P' => some '\u2029'
  | _ => none

/-- How many digits a letter announces after a backslash. -/
def codeLength? : Char → Option Nat
  | 'x' => some 2
  | 'u' => some 4
  | 'U' => some 8
  | _ => none

/-- The value of a digit to the base sixteen. -/
def hexValue? (c : Char) : Option Nat :=
  if c.isDigit then some (c.toNat - '0'.toNat)
  else if 'a' ≤ c && c ≤ 'f' then some (c.toNat - 'a'.toNat + 10)
  else if 'A' ≤ c && c ≤ 'F' then some (c.toNat - 'A'.toNat + 10)
  else none

/-- The character of a code, which has to be one. -/
def charOfCode (n : Nat) : Except Failure Char :=
  if 0x7fffffff < n then .error (.fault .overflow "signed integer is greater than maximum")
  else if 0x10ffff < n then .error (.fault .badValue "chr() arg not in range(0x110000)")
  else if n.isValidChar then .ok (Char.ofNat n)
  else refuse

/-- What a quoted scalar goes on with. -/
inductive Quoting where
  /-- Text after a gap. -/
  | after (gap : Gap)
  /-- What a backslash is in front of. -/
  | escape
  /-- Digits of a code. -/
  | code (left value : Nat)

/-- A scalar's text with characters in front. -/
def infront (cs : List Char) :
    Except Failure (List Char × List Spot) → Except Failure (List Char × List Spot) :=
  Except.map fun (tail, rest) => (cs ++ tail, rest)

/-- The rest of a scalar in single quotes, and what follows it.  A quote inside is written twice. -/
def singleQuoted (gap : Gap) : List Spot → Except Failure (List Char × List Spot)
  | [] => refuse
  | [s] => if s.char = '\'' then .ok (gap.text, []) else refuse
  | s :: t :: rest =>
    if s.char = ' ' || s.char = '\t' then singleQuoted (gap.blank s.char) (t :: rest)
    else if isBreak s.char then
      if separates (t :: rest) then refuse else singleQuoted (gap.lineEnd s.char) (t :: rest)
    else if s.char ≠ '\'' then infront (gap.text ++ [s.char]) (singleQuoted .none (t :: rest))
    else if t.char = '\'' then infront (gap.text ++ ['\'']) (singleQuoted .none rest)
    else .ok (gap.text, t :: rest)

/-- The rest of a scalar in double quotes, and what follows it.  A backslash is in front of letters that stand
for characters, of codes, and of line ends that do not count. -/
def doubleQuoted : Quoting → List Spot → Except Failure (List Char × List Spot)
  | _, [] => refuse
  | .after gap, s :: rest =>
    if s.char = ' ' || s.char = '\t' then doubleQuoted (.after (gap.blank s.char)) rest
    else if isBreak s.char then
      if separates rest then refuse else doubleQuoted (.after (gap.lineEnd s.char)) rest
    else if s.char = '"' then .ok (gap.text, rest)
    else if s.char = '\\' then infront gap.text (doubleQuoted .escape rest)
    else infront (gap.text ++ [s.char]) (doubleQuoted (.after .none) rest)
  | .escape, s :: rest =>
    if isBreak s.char then
      -- An escaped line end joins two lines without a blank.
      if separates rest then refuse else doubleQuoted (.after (.lines none [])) rest
    else
      match escaped? s.char, codeLength? s.char with
      | some c, _ => infront [c] (doubleQuoted (.after .none) rest)
      | none, some n => doubleQuoted (.code n 0) rest
      | none, none => refuse
  | .code left value, s :: rest =>
    match hexValue? s.char with
    | none => refuse
    | some d =>
      if left ≤ 1 then
        match charOfCode (16 * value + d) with
        | .ok c => infront [c] (doubleQuoted (.after .none) rest)
        | .error f => .error f
      else doubleQuoted (.code (left - 1) (16 * value + d)) rest

end Colloquy.Yaml
