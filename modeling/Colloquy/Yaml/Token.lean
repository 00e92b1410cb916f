import Colloquy.Yaml.BlockText
import Colloquy.Yaml.Tag

/-!
# Tokens

A document is cut into tokens that make its structure explicit: indentation becomes the start and the end of
sequences and mappings, and keys are marked.  That something is a key shows only at its colon, so the mark is
put in later, at the place where the key started; the key has to be on one line with its colon.
-/

namespace Colloquy.Yaml

/-- A token. -/
inductive Token where
  | directive
  | documentStart
  | documentEnd
  | blockSequence
  | blockMapping
  | blockEnd
  | blockEntry
  | flowSequence
  | flowSequenceEnd
  | flowMapping
  | flowMappingEnd
  | flowEntry
  | key
  | value
  | alias (name : String)
  | anchor (name : String)
  /-- A tag, or the mark that a scalar is read as if it were plain. -/
  | tag (t : Option Tag)
  | scalar (text : String) (isPlain : Bool)
  deriving DecidableEq, Repr

/-- A place where a key may have started. -/
structure KeyStart where
  /-- The number of tokens in front. -/
  position : Nat
  line : Nat
  column : Nat
  index : Nat
  /-- Whether there has to be a key at this place. -/
  required : Bool

/-- The greatest distance between the start of a key and its colon. -/
def longestKey : Nat := 1024

/-- What a lexer knows of the text behind it. -/
structure Lexer where
  tokens : List Token := []
  /-- The columns of the open blocks, innermost first. -/
  indents : List Nat := []
  /-- Whether a key may start here. -/
  allowsKey : Bool := true
  /-- The place where the key of the next colon may have started. -/
  keyStart : Option KeyStart := none
  /-- The same for what surrounds the open brackets, innermost first. -/
  outer : List (Option KeyStart) := []

namespace Lexer

/-! ### State -/

/-- Whether brackets are open. -/
def inFlow (l : Lexer) : Bool := !l.outer.isEmpty

/-- The least column that is deeper than the innermost open block. -/
def least (l : Lexer) : Nat := l.indents.head?.elim 0 (· + 1)

/-- Adds a token. -/
def emit (l : Lexer) (t : Token) : Lexer := { l with tokens := l.tokens ++ [t] }

/-- Closes the blocks that are deeper than a column. -/
def closeTo (l : Lexer) (column : Nat) : Lexer :=
  if l.inFlow then l
  else
    let closed := (l.indents.takeWhile (column < ·)).length
    { l with tokens := l.tokens ++ List.replicate closed .blockEnd,
             indents := l.indents.dropWhile (column < ·) }

/-- Closes all blocks. -/
def closeAll (l : Lexer) : Lexer :=
  if l.inFlow then l
  else { l with tokens := l.tokens ++ l.indents.map fun _ => .blockEnd, indents := [] }

/-- Opens a block at a column that is deeper than all open blocks. -/
def openBlock (l : Lexer) (column : Nat) (t : Token) : Lexer :=
  if l.least ≤ column then { l.emit t with indents := column :: l.indents } else l

/-! ### Starts of keys -/

/-- Gives a start of a key up, unless there has to be a key. -/
def giveUp : Option KeyStart → Except Failure (Option KeyStart)
  | some k => if k.required then refuse else .ok none
  | none => .ok none

/-- Gives a start of a key up if a place is too far from it. -/
def giveUpStale (s : Spot) (start : Option KeyStart) : Except Failure (Option KeyStart) :=
  if start.any fun k => k.line ≠ s.line || longestKey < s.index - k.index then giveUp start
  else .ok start

/-- Without the starts of keys that a place is too far from. -/
def dropStale (l : Lexer) (s : Spot) : Except Failure Lexer := do
  return { l with keyStart := ← giveUpStale s l.keyStart, outer := ← l.outer.mapM (giveUpStale s) }

/-- Without the start of a key. -/
def dropKey (l : Lexer) : Except Failure Lexer := do
  return { l with keyStart := ← giveUp l.keyStart }

/-- Remembers that a key may start at a place, if one is allowed there. -/
def saveKey (l : Lexer) (s : Spot) : Except Failure Lexer := do
  if !l.allowsKey then return l
  let _ ← giveUp l.keyStart
  return { l with keyStart := some {
    position := l.tokens.length, line := s.line, column := s.column, index := s.index
    -- Where the entries of a block stand there can be nothing but a key.
    required := !l.inFlow && l.indents.head? == some s.column } }

/-! ### Structure -/

/-- Marks that stand at the start of a line and separate documents. -/
def separator (l : Lexer) (t : Token) : Except Failure Lexer := do
  return { (← l.closeAll.dropKey).emit t with allowsKey := false }

/-- An opening bracket. -/
def openFlow (l : Lexer) (s : Spot) (t : Token) : Except Failure Lexer := do
  let l ← l.saveKey s
  return { l.emit t with outer := l.keyStart :: l.outer, keyStart := none, allowsKey := true }

/-- A closing bracket. -/
def closeFlow (l : Lexer) (t : Token) : Except Failure Lexer := do
  let l ← l.dropKey
  match l.outer with
  | [] => refuse
  | start :: outer => return { l.emit t with keyStart := start, outer, allowsKey := false }

/-- A comma between brackets. -/
def flowEntry (l : Lexer) : Except Failure Lexer := do
  return { (← l.dropKey).emit .flowEntry with allowsKey := true }

/-- The dash of an item or the mark of a key, which open a block where they are the first of their kind. -/
def marked (l : Lexer) (s : Spot) (block t : Token) (allowsKey : Bool) : Except Failure Lexer := do
  if l.inFlow then return { (← l.dropKey).emit t with allowsKey }
  else if !l.allowsKey then refuse
  else return { (← (l.openBlock s.column block).dropKey).emit t with allowsKey }

/-- A colon: marks the key in front of it, if there is one. -/
def colon (l : Lexer) (s : Spot) : Except Failure Lexer := do
  match l.keyStart with
  | none => l.marked s .blockMapping .value (!l.inFlow)
  | some k =>
    -- The key was not known to be one when its tokens were emitted, so its mark is put in front of them now.
    let opens := !l.inFlow && decide (l.least ≤ k.column)
    let marks := if opens then [Token.blockMapping, .key] else [.key]
    return { l with
      tokens := l.tokens.take k.position ++ marks ++ l.tokens.drop k.position ++ [.value]
      indents := if opens then k.column :: l.indents else l.indents
      keyStart := none, allowsKey := false }

/-- A token that may be a key. -/
def leaf (l : Lexer) (s : Spot) (t : Token) : Except Failure Lexer := do
  return { (← l.saveKey s).emit t with allowsKey := false }

/-! ### Names and tags -/

/-- Characters of names. -/
def isNameChar (c : Char) : Bool := c.isAlphanum || c == '-' || c == '_'

/-- The name of an anchor, and what follows it. -/
def name (spots : List Spot) : Except Failure (String × List Spot) :=
  let chars := (spots.takeWhile (isNameChar ·.char)).map (·.char)
  let rest := spots.dropWhile (isNameChar ·.char)
  if chars.isEmpty ||
      !(wordEnds rest || rest.head?.any fun s => "?:,]\x7d%@\x60".toList.contains s.char) then refuse
  else .ok (String.ofList chars, rest)

/-- The tag behind an exclamation mark, and what follows it.  Tags other than the usual ones are refused. -/
def tag (spots : List Spot) : Except Failure (Option Tag × List Spot) :=
  let chars := (spots.takeWhile (!isGap ·.char)).map (·.char)
  let rest := spots.dropWhile (!isGap ·.char)
  let named (cs : List Char) : Except Failure (Option Tag × List Spot) :=
    match Tag.ofName? (String.ofList cs) with
    | some t => .ok (some t, rest)
    | none => refuse
  match chars with
  | [] => .ok (none, rest)
  | '!' :: cs => named cs
  | '<' :: cs =>
    match Text.stripFront? "tag:yaml.org,2002:".toList cs.dropLast, cs.getLast? with
    | some cs, some '>' => named cs
    | _, _ => refuse
  | _ => refuse

/-! ### Cutting -/

/-- Whether a plain scalar may start with a character. -/
def startsPlain (inFlow : Bool) (c : Char) (rest : List Spot) : Bool :=
  !(isGap c || "-?:,[]\x7b\x7d#&*!|>'\"%@\x60".toList.contains c) ||
    (!wordEnds rest && (c == '-' || (!inFlow && (c == '?' || c == ':'))))

/-- A scalar with what follows it. -/
def scalar (l : Lexer) (s : Spot) (isPlain : Bool) (read : List Char × List Spot) :
    Except Failure (Lexer × List Spot) := do
  return (← l.leaf s (.scalar (String.ofList read.1) isPlain), read.2)

/-- Adds the token that starts with a character, and tells what follows it. -/
def next (l : Lexer) (s : Spot) (rest : List Spot) : Except Failure (Lexer × List Spot) := do
  let atStart := s.column == 0
  -- Between brackets a mark stands for itself even if no blank follows.
  let ends := l.inFlow || wordEnds rest
  if s.char = '%' && atStart then
    return (← l.separator .directive, rest.dropWhile (!isBreak ·.char))
  else if atStart && threeOf '-' (s :: rest) then
    return (← l.separator .documentStart, rest.drop 2)
  else if atStart && threeOf '.' (s :: rest) then
    return (← l.separator .documentEnd, rest.drop 2)
  else if s.char = '-' && wordEnds rest then
    return (← l.marked s .blockSequence .blockEntry true, rest)
  else if s.char = '?' && ends then return (← l.marked s .blockMapping .key (!l.inFlow), rest)
  else if s.char = ':' && ends then return (← l.colon s, rest)
  else if startsPlain l.inFlow s.char rest then
    l.scalar s true (plain l.inFlow l.least .none (s :: rest) (s :: rest))
  else
    match s.char with
    | '[' => return (← l.openFlow s .flowSequence, rest)
    | '\x7b' => return (← l.openFlow s .flowMapping, rest)
    | ']' => return (← l.closeFlow .flowSequenceEnd, rest)
    | '\x7d' => return (← l.closeFlow .flowMappingEnd, rest)
    | ',' => return (← l.flowEntry, rest)
    | '*' => do
      let (name, rest) ← name rest
      return (← l.leaf s (.alias name), rest)
    | '&' => do
      let (name, rest) ← name rest
      return (← l.leaf s (.anchor name), rest)
    | '!' => do
      let (t, rest) ← tag rest
      return (← l.leaf s (.tag t), rest)
    | '\'' => do l.scalar s false (← singleQuoted .none rest)
    | '"' => do l.scalar s false (← doubleQuoted (.after .none) rest)
    | c => do
      if l.inFlow || (c ≠ '|' && c ≠ '>') then refuse
      -- A block text is indented at the top of a document, too.
      let (text, rest) ← BlockText.read (c == '>') (max 1 l.least) rest
      return ({ (← l.dropKey).emit (.scalar (String.ofList text) false) with allowsKey := true }, rest)

/-- Skips spaces, line ends and comments; tells whether there was a line end. -/
def skip (inComment : Bool) : List Spot → Bool × List Spot
  | [] => (false, [])
  | s :: rest =>
    if isBreak s.char then (true, (skip false rest).2)
    else if inComment || s.char = ' ' then skip inComment rest
    else if s.char = '#' then skip true rest
    else (false, s :: rest)

/-- Adds at most so many tokens and what they open or close. -/
def run : Nat → Lexer → List Spot → Except Failure Lexer
  | 0, _, _ => refuse
  | n + 1, l, spots => do
    let (crossed, spots) := skip false spots
    let l := if crossed && !l.inFlow then { l with allowsKey := true } else l
    match spots with
    | [] => l.closeAll.dropKey
    | s :: rest => do
      let l ← l.dropStale s
      let (l, rest) ← (l.closeTo s.column).next s rest
      run n l rest

end Lexer

/-- The tokens of a text. -/
def Token.ofText (text : String) : Except Failure (List Token) := do
  if !text.toList.all isAllowed then refuse
  let spots := Spot.ofText text
  return (← ({} : Lexer).run (spots.length + 1) spots).tokens

end Colloquy.Yaml
