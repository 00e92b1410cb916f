import Colloquy.Number.Reader
import Colloquy.Value.Basic

/-!
# Reading JSON

`Json.read` accepts the JSON grammar, and the words for numbers that are not finite besides.  A key that
is given twice keeps its first place and its last value.  `Json.readStrict` refuses surrogates without a
partner as well.  A text that is refused is reported by a `Fault`: the cause, where reading stopped, and
where the item began that could not be finished.  A fault has two wordings, `Fault.explain` in terms of what
the reader waited for and `Fault.classify` in terms of what the text lacks.
-/

namespace Colloquy.Json

/-! ### Faults -/

/-- What surrounds a value. -/
inductive Place where
  | whole
  | list
  | object
  deriving DecidableEq, Repr

/-- Why a text is not JSON. -/
inductive Cause where
  /-- The text ends where a value should start. -/
  | noValue
  /-- The text ends after an opening bracket. -/
  | openList
  /-- The text ends after an opening brace. -/
  | openObject
  /-- The text ends after an item or an entry. -/
  | openAfter (place : Place)
  /-- The text ends after a key. -/
  | openKey
  /-- The text ends after the comma of an object. -/
  | openComma
  /-- The text ends within a word. -/
  | openWord
  /-- A character that starts no value. -/
  | strangeValue
  /-- A character that breaks a word off. -/
  | brokenWord
  /-- A sign without a number. -/
  | bareSign
  /-- A sign at the end of the text. -/
  | openSign
  /-- A number goes on in a wrong way after a part that is a number. -/
  | brokenNumber (place : Place)
  /-- A number is broken off by the end of the text. -/
  | openNumber (place : Place)
  | noComma (place : Place)
  | noColon
  | noKey
  | trailingComma (place : Place)
  | openText
  | openEscape
  | controlCharacter
  | strangeEscape
  | strangeUnit
  | shortUnit
  /-- A surrogate stands in the place of the other one. -/
  | strayUnit
  /-- A surrogate is not followed by its partner. -/
  | brokenPair
  | trailing
  deriving DecidableEq, Repr

/-- A refusal: the cause, the position at which the unfinished item starts, and the position at which
reading stopped, both counted in characters. -/
structure Fault where
  cause : Cause
  start : Nat
  index : Nat
  deriving DecidableEq, Repr

/-! ### Scanning -/

/-- The unread text and the position at which it starts. -/
structure Cursor where
  rest : List Char
  index : Nat

/-- The four characters that may stand between the items of a text. -/
def isSpace (c : Char) : Bool :=
  c == ' ' || c == '\t' || c == '\n' || c == '\r'

/-- Skips white space. -/
def skip (c : Cursor) : Cursor :=
  let rest := c.rest.dropWhile isSpace
  ⟨rest, c.index + (c.rest.length - rest.length)⟩

/-- Moves over a number of characters. -/
def advance (c : Cursor) (n : Nat) : Cursor :=
  ⟨c.rest.drop n, c.index + n⟩

/-- Reads the characters of a word and answers `value`. -/
def readWord (start : Nat) (value : Value) : List Char → Cursor → Except Fault (Value × Cursor)
  | [], c => .ok (value, c)
  | w :: word, ⟨d :: rest, index⟩ =>
    if w = d then readWord start value word ⟨rest, index + 1⟩
    else .error ⟨.brokenWord, start, index⟩
  | _ :: _, ⟨[], index⟩ => .error ⟨.openWord, start, index⟩

/-- The value of a hexadecimal digit. -/
def hexValue? (c : Char) : Option Nat :=
  if '0' ≤ c ∧ c ≤ '9' then some (c.toNat - 48)
  else if 'a' ≤ c ∧ c ≤ 'f' then some (c.toNat - 87)
  else if 'A' ≤ c ∧ c ≤ 'F' then some (c.toNat - 55)
  else none

/-- The number that four hexadecimal digits write. -/
def unitValue? (cs : List Char) : Option Nat :=
  if cs.length = 4 then
    cs.foldl (fun n? c => do return 16 * (← n?) + (← hexValue? c)) (some 0)
  else none

/-- The character of a letter after a backslash. -/
def escapeChar? : Char → Option Char
  | '"' => some '"'
  | '\\' => some '\\'
  | '/' => some '/'
  | 'b' => some (Char.ofNat 8)
  | 'f' => some (Char.ofNat 12)
  | 'n' => some '\n'
  | 'r' => some '\r'
  | 't' => some '\t'
  | _ => none

/-- The character of a high and a low surrogate. -/
def joinUnits (high low : Nat) : Char :=
  Char.ofNat (0x10000 + (high - 0xd800) * 0x400 + (low - 0xdc00))

/-- Whether a unit is the first one of a pair. -/
def isHigh (unit : Nat) : Bool := 0xd800 ≤ unit && unit < 0xdc00

/-- Whether a unit is the second one of a pair. -/
def isLow (unit : Nat) : Bool := 0xdc00 ≤ unit && unit < 0xe000

/-- The unit of the escape that a text starts with. -/
def nextUnit? : List Char → Option Nat
  | '\\' :: 'u' :: cs => if cs.length ≤ 4 then none else unitValue? (cs.take 4)
  | _ => none

/-- What is wrong with what follows the first unit of a pair, whose last digit stands at `last`.  Nothing is
yet where another unit may begin or the text ends. -/
def pairFault? (start last : Nat) : List Char → Option Fault
  | [] | ['\\'] | '\\' :: 'u' :: _ => none
  | '\\' :: _ => some ⟨.brokenPair, start, last + 2⟩
  | _ => some ⟨.brokenPair, start, last + 1⟩

/-- Reads the unit escape whose four digits come next: the character, and how many characters it takes.
A surrogate without its partner is refused if `strict` says so, and else it is read as the replacement
character. -/
def readUnit (strict : Bool) (start index : Nat) (cs : List Char) : Except Fault (Char × Nat) :=
  let stray (fault? : Option Fault) : Except Fault (Char × Nat) :=
    match strict, fault? with
    | true, some fault => .error fault
    | _, _ => .ok ('\ufffd', 4)
  -- The four digits are never the end, as there has to be a closing quote behind them.
  if cs.length ≤ 4 then .error ⟨.shortUnit, start, index⟩
  else
    match unitValue? (cs.take 4) with
    | none =>
      .error ⟨.strangeUnit, index - 1, index + (cs.takeWhile (hexValue? · |>.isSome)).length⟩
    | some unit =>
      if isHigh unit then
        match nextUnit? (cs.drop 4) with
        | some low =>
          if isLow low then .ok (joinUnits unit low, 10)
          else stray (some ⟨.strayUnit, start, index + 9⟩)
        | none => stray (pairFault? start (index + 3) (cs.drop 4))
      else if isLow unit then stray (some ⟨.strayUnit, start, index + 3⟩)
      else .ok (Char.ofNat unit, 4)

/-- Reads a text up to its closing quote; `start` is the position of the opening one. -/
def readText (strict : Bool) (start : Nat) : Nat → Cursor → Except Fault (List Char × Cursor)
  | 0, c => .error ⟨.openText, start, c.index⟩
  | fuel + 1, c =>
    match c.rest with
    | [] => .error ⟨.openText, start, c.index⟩
    | '"' :: rest => .ok ([], ⟨rest, c.index + 1⟩)
    | '\\' :: [] => .error ⟨.openEscape, start, c.index + 1⟩
    | '\\' :: 'u' :: rest => do
      let (d, n) ← readUnit strict start (c.index + 2) rest
      let (ds, after) ← readText strict start fuel (advance c (2 + n))
      return (d :: ds, after)
    | '\\' :: e :: rest =>
      match escapeChar? e with
      | none => .error ⟨.strangeEscape, start, c.index + 1⟩
      | some d => do
        let (ds, after) ← readText strict start fuel ⟨rest, c.index + 2⟩
        return (d :: ds, after)
    | d :: rest =>
      if d.toNat < 32 then .error ⟨.controlCharacter, start, c.index⟩
      else do
        let (ds, after) ← readText strict start fuel ⟨rest, c.index + 1⟩
        return (d :: ds, after)

/-! ### Numbers -/

/-- The decimal digits that a text starts with, and what follows them. -/
def spanDigits (cs : List Char) : List Char × List Char :=
  (cs.takeWhile Char.isDigit, cs.dropWhile Char.isDigit)

/-- The natural number of decimal digits. -/
def natOf (ds : List Char) : Nat :=
  ds.foldl (fun n d => 10 * n + (d.toNat - 48)) 0

/-- A fraction: its digits and what follows, or the number of characters after which it goes wrong, if a
point is there without digits. -/
def readFraction : List Char → Except Nat (List Char × List Char)
  | '.' :: rest =>
    match spanDigits rest with
    | ([], _) => .error 1
    | (ds, rest) => .ok (ds, rest)
  | rest => .ok ([], rest)

/-- An exponent: its value if there is one and what follows, or the number of characters after which it
goes wrong. -/
def readExponent : List Char → Except Nat (Option Int × List Char)
  | [] => .ok (none, [])
  | e :: rest =>
    if e = 'e' ∨ e = 'E' then
      let signed := rest.head?.any fun s => s == '+' || s == '-'
      let negative := rest.head? == some '-'
      match spanDigits (if signed then rest.drop 1 else rest) with
      | ([], _) => .error (if signed then 2 else 1)
      | (ds, rest) => .ok (some (if negative then -(natOf ds : Int) else natOf ds), rest)
    else .ok (none, e :: rest)

/-- The digits that a number starts with, and what follows them; a zero in front stands alone. -/
def readWhole : List Char → List Char × List Char
  | '0' :: rest => (['0'], rest)
  | cs => spanDigits cs

/-- Reads a number without its sign.  The first digits are there. -/
def readNumber (place : Place) (negative : Bool) (c : Cursor) : Except Fault (Value × Cursor) :=
  let (whole, rest) := readWhole c.rest
  let at? (rest : List Char) : Nat := c.index + (c.rest.length - rest.length)
  let stop (rest : List Char) (n : Nat) : Except Fault (Value × Cursor) :=
    let cause := if rest.length ≤ n then Cause.openNumber place else Cause.brokenNumber place
    .error ⟨cause, at? rest, at? rest + n⟩
  -- A zero in front takes no further digits.
  if whole == ['0'] && rest.head?.any Char.isDigit then
    .error ⟨.brokenNumber place, at? rest, at? rest⟩
  else
    match readFraction rest with
    | .error n => stop rest n
    | .ok (fraction, rest) =>
      match readExponent rest with
      | .error n => stop rest n
      | .ok (exponent?, rest) =>
        let value : Value :=
          -- Only a point or an exponent makes a double; an integer may have any number of digits.
          if fraction.isEmpty && exponent?.isNone then
            .int (if negative then -(natOf whole : Int) else natOf whole)
          else
            let digits := whole ++ fraction
            .float (Number.ofDecimalBounded negative (natOf digits) digits.length
              (exponent?.getD 0 - fraction.length))
        .ok (value, ⟨rest, at? rest⟩)

/-! ### Values -/

mutual

/-- Reads a value; `c` stands at its first character. -/
def readValue (strict : Bool) : Nat → Place → Cursor → Except Fault (Value × Cursor)
  | 0, _, c => .error ⟨.noValue, c.index, c.index⟩
  | fuel + 1, place, c =>
    match c.rest with
    | [] => .error ⟨.noValue, c.index, c.index⟩
    | '"' :: rest => do
      let (cs, after) ← readText strict c.index (rest.length + 1) ⟨rest, c.index + 1⟩
      return (.str (String.ofList cs), after)
    | '[' :: rest =>
      let c := skip ⟨rest, c.index + 1⟩
      match c.rest with
      | [] => .error ⟨.openList, c.index, c.index⟩
      | ']' :: rest => .ok (.list [], ⟨rest, c.index + 1⟩)
      | _ => do
        let (items, after) ← readItems strict fuel c
        return (.list items, after)
    | '\x7b' :: rest =>
      let c := skip ⟨rest, c.index + 1⟩
      match c.rest with
      | [] => .error ⟨.openObject, c.index, c.index⟩
      | '\x7d' :: rest => .ok (.object [], ⟨rest, c.index + 1⟩)
      | _ => do
        let (pairs, after) ← readEntries strict fuel c
        return (.object (Assoc.ofPairs pairs), after)
    | 't' :: _ => readWord c.index (.bool true) ['t', 'r', 'u', 'e'] c
    | 'f' :: _ => readWord c.index (.bool false) ['f', 'a', 'l', 's', 'e'] c
    | 'n' :: _ => readWord c.index .null ['n', 'u', 'l', 'l'] c
    -- Doubles that are not finite have no notation in the format, but they are written and read like this.
    | 'N' :: _ => readWord c.index (.float (0.0 / 0.0)) ['N', 'a', 'N'] c
    | 'I' :: _ => readWord c.index (.float (1.0 / 0.0)) "Infinity".toList c
    | '-' :: 'I' :: rest =>
      readWord c.index (.float (-1.0 / 0.0)) "Infinity".toList ⟨'I' :: rest, c.index + 1⟩
    | '-' :: [] => .error ⟨.openSign, c.index, c.index + 1⟩
    | '-' :: d :: rest =>
      if d.isDigit then readNumber place true ⟨d :: rest, c.index + 1⟩
      else .error ⟨.bareSign, c.index, c.index + 1⟩
    | d :: _ =>
      if d.isDigit then readNumber place false c
      else .error ⟨.strangeValue, c.index, c.index⟩

/-- Reads the items of a list up to its closing bracket; `c` stands at the first character of an item. -/
def readItems (strict : Bool) : Nat → Cursor → Except Fault (List Value × Cursor)
  | 0, c => .error ⟨.noValue, c.index, c.index⟩
  | fuel + 1, c => do
    let (v, after) ← readValue strict fuel .list c
    let after := skip after
    match after.rest with
    | [] => .error ⟨.openAfter .list, after.index, after.index⟩
    | ']' :: rest => return ([v], ⟨rest, after.index + 1⟩)
    | ',' :: rest =>
      let next := skip ⟨rest, after.index + 1⟩
      if next.rest.head? == some ']' then .error ⟨.trailingComma .list, next.index, next.index⟩
      else
        let (vs, last) ← readItems strict fuel next
        return (v :: vs, last)
    | _ => .error ⟨.noComma .list, after.index, after.index⟩

/-- Reads the entries of an object up to its closing brace; `c` stands at the first character of a key. -/
def readEntries (strict : Bool) : Nat → Cursor → Except Fault ((List (String × Value)) × Cursor)
  | 0, c => .error ⟨.noValue, c.index, c.index⟩
  | fuel + 1, c =>
    match c.rest with
    | [] => .error ⟨.openComma, c.index, c.index⟩
    | '"' :: rest => do
      let (key, after) ← readText strict c.index (rest.length + 1) ⟨rest, c.index + 1⟩
      let after := skip after
      match after.rest with
      | [] => .error ⟨.openKey, after.index, after.index⟩
      | ':' :: rest =>
        let (v, after) ← readValue strict fuel .object (skip ⟨rest, after.index + 1⟩)
        let after := skip after
        let entry := (String.ofList key, v)
        match after.rest with
        | [] => .error ⟨.openAfter .object, after.index, after.index⟩
        | '\x7d' :: rest => return ([entry], ⟨rest, after.index + 1⟩)
        | ',' :: rest =>
          let next := skip ⟨rest, after.index + 1⟩
          if next.rest.head? == some '\x7d' then
            .error ⟨.trailingComma .object, next.index, next.index⟩
          else
            let (entries, last) ← readEntries strict fuel next
            return (entry :: entries, last)
        | _ => .error ⟨.noComma .object, after.index, after.index⟩
      | _ => .error ⟨.noColon, after.index, after.index⟩
    | _ => .error ⟨.noKey, c.index, c.index⟩

end

/-- Reads a text that holds one value and white space around it, with or without refusing surrogates that
have no partner. -/
def readWith (strict : Bool) (s : String) : Except Fault Value := do
  let cs := s.toList
  let (v, after) ← readValue strict (2 * cs.length + 2) .whole (skip ⟨cs, 0⟩)
  let after := skip after
  if after.rest.isEmpty then return v
  else throw ⟨.trailing, after.index, after.index⟩

/-- Reads a text that holds one value. -/
def read (s : String) : Except Fault Value := readWith false s

/-- Reads a text that holds one value and in which all surrogates have partners. -/
def readStrict (s : String) : Except Fault Value := readWith true s

/-! ### Wordings -/

/-- What the reader waited for, and the position that is blamed. -/
def Fault.expectation (f : Fault) : String × Nat :=
  let comma := "Expecting ',' delimiter"
  let key := "Expecting property name enclosed in double quotes"
  let after : Place → String
    | .whole => "Extra data"
    | _ => comma
  match f.cause with
  | .noValue | .openList | .strangeValue => ("Expecting value", f.index)
  | .trailingComma .list => ("Expecting value", f.index)
  | .openWord | .brokenWord | .bareSign | .openSign => ("Expecting value", f.start)
  | .openObject | .openComma | .noKey | .trailingComma _ => (key, f.index)
  | .openAfter _ | .noComma _ => (comma, f.index)
  | .openKey | .noColon => ("Expecting ':' delimiter", f.index)
  | .brokenNumber place | .openNumber place => (after place, f.start)
  | .openText | .openEscape => ("Unterminated string starting at", f.start)
  | .controlCharacter => ("Invalid control character at", f.index)
  | .strangeEscape => ("Invalid \\escape", f.index - 1)
  | .strangeUnit => ("Invalid \\uXXXX escape", f.start)
  | .shortUnit | .strayUnit | .brokenPair => ("Invalid \\uXXXX escape", f.index - 1)
  | .trailing => ("Extra data", f.index)

/-- The line of a position, counted from one. -/
def lineOf (cs : List Char) : Nat :=
  cs.count '\n' + 1

/-- The part of the last line that stands before a position. -/
def lastLine (cs : List Char) : List Char :=
  (cs.reverse.takeWhile (· ≠ '\n')).reverse

/-- The wording that says what the reader waited for. -/
def Fault.explain (f : Fault) (s : String) : String :=
  let (message, position) := f.expectation
  let before := s.toList.take position
  let line := lineOf before
  let column := (lastLine before).length + 1
  s!"{message}: line {line} column {column} (char {position})"

/-- The number of bytes of a text in UTF-8. -/
def byteCount (cs : List Char) : Nat :=
  cs.foldl (fun n c => n + c.utf8Size) 0

/-- The first character among four that should be hexadecimal digits, if there are four bytes at all. -/
def badDigit? (cs : List Char) : Option Nat :=
  if byteCount cs < 4 then none else (cs.take 4).findIdx? (hexValue? · |>.isNone)

/-- What the text lacks, and the position that is blamed. -/
def Fault.lack (f : Fault) (cs : List Char) : String × Nat :=
  let within : Place → String
    | .list => "EOF while parsing a list"
    | _ => "EOF while parsing an object"
  let separator : Place → String
    | .list => "expected `,` or `]`"
    | _ => "expected `,` or `\x7d`"
  match f.cause with
  | .noValue | .openComma | .openWord | .openSign | .openNumber _ =>
    ("EOF while parsing a value", f.index)
  | .openList => (within .list, f.index)
  | .openObject | .openKey => (within .object, f.index)
  | .openAfter place => (within place, f.index)
  | .strangeValue => ("expected value", f.index)
  | .brokenWord => ("expected ident", f.index)
  | .bareSign | .brokenNumber _ => ("invalid number", f.index)
  | .noComma place => (separator place, f.index)
  | .noColon => ("expected `:`", f.index)
  | .noKey => ("key must be a string", f.index)
  | .trailingComma _ => ("trailing comma", f.index)
  | .openText | .openEscape => ("EOF while parsing a string", cs.length)
  | .shortUnit =>
    match badDigit? (cs.drop f.index) with
    | some n => ("invalid escape", f.index + n)
    | none => ("EOF while parsing a string", cs.length)
  | .controlCharacter =>
    ("control character (\\u0000-\\u001F) found while parsing a string", f.index)
  | .strangeEscape | .strangeUnit => ("invalid escape", f.index)
  | .strayUnit => ("lone leading surrogate in hex escape", f.index)
  | .brokenPair => ("unexpected end of hex escape", f.index)
  | .trailing => ("trailing characters", f.index)

/-- The wording that says what the text lacks.  Columns count bytes; at the end of the text the last
column is named, and the end of a line counts as the start of the next one. -/
def Fault.classify (f : Fault) (s : String) : String :=
  let cs := s.toList
  let (message, position) := f.lack cs
  let line := lineOf (cs.take (position + 1))
  let column := match cs[position]? with
    | some '\n' => 0
    | some _ => byteCount (lastLine (cs.take position)) + 1
    | none => byteCount (lastLine cs)
  s!"{message} at line {line} column {column}"

end Colloquy.Json
