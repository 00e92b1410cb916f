import Colloquy.Number.Reader
import Colloquy.Pattern.Syntax
import Colloquy.Text.Quoted

/-!
# Reading patterns

`readTree` reads the text of a pattern into a tree.  A text that is no pattern is refused with a `Fault`:
the cause and the position that is blamed, worded by `Fault.message`.  Reading goes token by token, where a
token is a character or a backslash with the character after it; `fuel` bounds the depth and is taken from
the length of the text.
-/

namespace Colloquy.Pattern

/-! ### Faults -/

/-- Why a text is not a pattern. -/
inductive Cause where
  | danglingEscape
  | badEscape (escape : String)
  | incompleteEscape (escape : String)
  | largeOctal (escape : String)
  | openSet
  | badRange (first last : String)
  | nothingToRepeat
  | repeatedRepeat
  | leastAboveMost
  | largeRepeat
  | openGroup
  | openComment
  | endWithin
  | unknownExtension (text : String)
  | noName
  | openName (terminator : Char)
  | badName (name : String)
  | unknownName (name : String)
  | repeatedName (name : String) (group earlier : Nat)
  | referenceToOpen
  | referenceInBehind
  | unknownGroup (number : Nat)
  | groupZero
  | thirdBranch
  | lateFlags
  | unknownFlag
  | flagsUnfinished
  | noFlag
  | noColon
  | localeFlag
  | clashingFlags
  | globalFlagOn
  | typeFlagOff
  | globalFlagOff
  | flagOnAndOff
  | unbalanced
  | openWidth
  deriving DecidableEq, Repr

/-- A refusal of a pattern. -/
structure Fault where
  cause : Cause
  position : Option Nat
  deriving DecidableEq, Repr

/-- What is wrong, without the position. -/
def Cause.message : Cause → String
  | danglingEscape => "bad escape (end of pattern)"
  | badEscape escape => "bad escape " ++ escape
  | incompleteEscape escape => "incomplete escape " ++ escape
  | largeOctal escape => "octal escape value " ++ escape ++ " outside of range 0-0o377"
  | openSet => "unterminated character set"
  | badRange first last => "bad character range " ++ first ++ "-" ++ last
  | nothingToRepeat => "nothing to repeat"
  | repeatedRepeat => "multiple repeat"
  | leastAboveMost => "min repeat greater than max repeat"
  | largeRepeat => "the repetition number is too large"
  | openGroup => "missing ), unterminated subpattern"
  | openComment => "missing ), unterminated comment"
  | endWithin => "unexpected end of pattern"
  | unknownExtension text => "unknown extension ?" ++ text
  | noName => "missing group name"
  | openName terminator => "missing " ++ terminator.toString ++ ", unterminated name"
  | badName name => "bad character in group name " ++ Text.quoted name
  | unknownName name => "unknown group name " ++ Text.quoted name
  | repeatedName name group earlier =>
    s!"redefinition of group name {Text.quoted name} as group {group}; was group {earlier}"
  | referenceToOpen => "cannot refer to an open group"
  | referenceInBehind => "cannot refer to group defined in the same lookbehind subpattern"
  | unknownGroup number => s!"invalid group reference {number}"
  | groupZero => "bad group number"
  | thirdBranch => "conditional backref with more than two branches"
  | lateFlags => "global flags not at the start of the expression"
  | unknownFlag => "unknown flag"
  | flagsUnfinished => "missing -, : or )"
  | noFlag => "missing flag"
  | noColon => "missing :"
  | localeFlag => "bad inline flags: cannot use 'L' flag with a str pattern"
  | clashingFlags => "bad inline flags: flags 'a', 'u' and 'L' are incompatible"
  | globalFlagOn => "bad inline flags: cannot turn on global flag"
  | typeFlagOff => "bad inline flags: cannot turn off flags 'a', 'u' and 'L'"
  | globalFlagOff => "bad inline flags: cannot turn off global flag"
  | flagOnAndOff => "bad inline flags: flag turned on and off"
  | unbalanced => "unbalanced parenthesis"
  | openWidth => "look-behind requires fixed-width pattern"

/-- The message of a refusal; the line and column are named for patterns of several lines. -/
def Fault.message (f : Fault) (pattern : String) : String :=
  match f.position with
  | none => f.cause.message
  | some position =>
    let cs := pattern.toList
    let before := cs.take position
    let message := s!"{f.cause.message} at position {position}"
    if cs.contains '\n' then
      let line := before.count '\n' + 1
      let column := (before.reverse.takeWhile (· ≠ '\n')).length + 1
      s!"{message} (line {line}, column {column})"
    else message

/-! ### Tokens and progress -/

/-- A character, or a backslash with the character after it. -/
inductive Token where
  | plain (c : Char)
  | escaped (c : Char)
  | dangling
  deriving DecidableEq, Repr

/-- The tokens of a text. -/
def tokens : List Char → List Token
  | [] => []
  | ['\\'] => [.dangling]
  | '\\' :: c :: rest => .escaped c :: tokens rest
  | c :: rest => .plain c :: tokens rest

/-- The text of a token. -/
def Token.text : Token → String
  | plain c => c.toString
  | escaped c => String.ofList ['\\', c]
  | dangling => "\\"

/-- The least and the greatest number of characters that a part of a pattern takes. -/
structure Width where
  least : Nat
  most : Option Nat
  deriving DecidableEq, Repr

/-- The width of one part after another. -/
def Width.add (a b : Width) : Width :=
  ⟨a.least + b.least, do return (← a.most) + (← b.most)⟩

/-- The width of one part or another. -/
def Width.either (a b : Width) : Width :=
  ⟨min a.least b.least, do return max (← a.most) (← b.most)⟩

/-- The width of repetitions of a part. -/
def Width.times (a : Width) (least : Nat) (most : Option Nat) : Width :=
  ⟨a.least * least, if a.most = some 0 then some 0 else do return (← a.most) * (← most)⟩

/-- How far a pattern has been read. -/
structure Progress where
  rest : List Token
  position : Nat
  flags : Flags
  /-- The widths of the groups, the latest first; an open group has none yet. -/
  groups : List (Option Width) := []
  names : List (String × Nat) := []
  /-- The number of groups at the start of the outermost look-behind that is being read. -/
  behindGroups : Option Nat := none
  /-- The group numbers that choices ask for, and where. -/
  choices : List (Nat × Nat) := []
  /-- Whether every look-behind so far has one width. -/
  fixedBehinds : Bool := true

/-- A step of reading. -/
abbrev ReadM := StateT Progress (Except Fault)

/-- Refuses the pattern, blaming the position `offset` characters back. -/
def refuse {α : Type} (cause : Cause) (offset : Nat) : ReadM α := do
  throw ⟨cause, some ((← get).position - offset)⟩

/-- Takes a token, if there is one. -/
def take : ReadM (Option Token) := do
  let p ← get
  match p.rest with
  | [] => return none
  | t :: rest =>
    let position := p.position + t.text.length
    if rest.head? = some .dangling then throw ⟨.danglingEscape, some position⟩
    set { p with rest, position }
    return some t

/-- Takes a plain character if it comes next. -/
def takeIf (c : Char) : ReadM Bool := do
  if (← get).rest.head? = some (.plain c) then
    discard take
    return true
  else return false

/-- The number of groups opened so far, the whole match included. -/
def Progress.groupCount (p : Progress) : Nat :=
  p.groups.length + 1

/-- The width of a group that is closed. -/
def Progress.groupWidth? (p : Progress) (number : Nat) : Option Width :=
  if number = 0 then none else (p.groups.reverse[number - 1]?).join

/-- Takes at most `n` plain characters of a class. -/
def takeWhile (p : Char → Bool) : Nat → ReadM (List Char)
  | 0 => return []
  | n + 1 => do
    match (← get).rest.head? with
    | some (.plain c) =>
      if p c then
        discard take
        return c :: (← takeWhile p n)
      else return []
    | _ => return []

/-- Takes a name up to its terminator. -/
def takeName (terminator : Char) : Nat → String → ReadM String
  | 0, _ => refuse .noName 0
  | fuel + 1, name => do
    match ← take with
    | none => if name.isEmpty then refuse .noName 0 else refuse (.openName terminator) name.length
    | some t =>
      if t = .plain terminator then
        if name.isEmpty then refuse .noName 1 else return name
      else takeName terminator fuel (name ++ t.text)

/-- Whether a text can name a group. -/
def isName (s : String) : Bool :=
  match s.toList with
  | [] => false
  | c :: cs => Text.isWord c && !Text.isDigit c && cs.all Text.isWord

/-- Refuses a reference from a look-behind to a group that is open or part of it. -/
def checkBehind (number : Nat) : ReadM Unit := do
  let p ← get
  match p.behindGroups with
  | none => return
  | some count =>
    if (p.groupWidth? number).isNone then refuse .referenceToOpen 0
    if count ≤ number then refuse .referenceInBehind 0

/-! ### Escapes -/

/-- What an escape stands for. -/
inductive Escape where
  | char (c : Char)
  | category (c : Category) (negated : Bool)
  | edge (e : Edge)
  | reference (number : Nat)

/-- The value of a hexadecimal digit. -/
def hexDigit? (c : Char) : Option Nat :=
  if c.isDigit then some (c.toNat - 48)
  else if 'a' ≤ c ∧ c ≤ 'f' then some (c.toNat - 87)
  else if 'A' ≤ c ∧ c ≤ 'F' then some (c.toNat - 55)
  else none

/-- The number that digits of a base write. -/
def digitsValue (base : Nat) (cs : List Char) : Nat :=
  cs.foldl (fun n c => base * n + (hexDigit? c).getD 0) 0

/-- Whether a character is an octal digit. -/
def isOctal (c : Char) : Bool :=
  '0' ≤ c && c ≤ '7'

/-- Reads the `count` hexadecimal digits after the escape of the letter `letter`. -/
def readHex (letter : Char) (count : Nat) : ReadM Escape := do
  let digits ← takeWhile (hexDigit? · |>.isSome) count
  let escape := String.ofList ('\\' :: letter :: digits)
  if digits.length ≠ count then refuse (.incompleteEscape escape) escape.length
  let n := digitsValue 16 digits
  if 0x110000 ≤ n then refuse (.badEscape escape) escape.length
  return .char (Char.ofNat n)

/-- Refuses an octal escape above its range. -/
def octalEscape (digits : List Char) : ReadM Escape := do
  let escape := String.ofList ('\\' :: digits)
  let n := digitsValue 8 digits
  if 0o377 < n then refuse (.largeOctal escape) escape.length
  return .char (Char.ofNat n)

/-- The characters that have a letter of their own after a backslash, in sets and outside. -/
def letterEscape? : Char → Option Char
  | 'a' => some (Char.ofNat 7)
  | 'f' => some (Char.ofNat 12)
  | 'n' => some '\n'
  | 'r' => some '\r'
  | 't' => some '\t'
  | 'v' => some (Char.ofNat 11)
  | '\\' => some '\\'
  | _ => none

/-- The classes that have a letter of their own after a backslash. -/
def categoryEscape? : Char → Option Escape
  | 'd' => some (.category .digit false)
  | 'D' => some (.category .digit true)
  | 's' => some (.category .space false)
  | 'S' => some (.category .space true)
  | 'w' => some (.category .word false)
  | 'W' => some (.category .word true)
  | _ => none

/-- Refuses the escape of a letter that has no meaning; other characters stand for themselves. -/
def plainEscape (c : Char) : ReadM Escape := do
  if c.isAlpha || c.isDigit then
    refuse (.badEscape (String.ofList ['\\', c])) 2
  else return .char c

/-- Reads the rest of an escape within a set. -/
def readSetEscape (c : Char) : ReadM Escape := do
  if c = 'b' then return .char (Char.ofNat 8)
  match letterEscape? c, categoryEscape? c with
  | some d, _ => return .char d
  | _, some e => return e
  | none, none =>
    if c = 'x' then readHex c 2
    else if c = 'u' then readHex c 4
    else if c = 'U' then readHex c 8
    else if isOctal c then octalEscape (c :: (← takeWhile isOctal 2))
    else plainEscape c

/-- Reads an octal escape of three digits or the number of a group. -/
def readNumberEscape (c : Char) : ReadM Escape := do
  let second ← takeWhile Char.isDigit 1
  let third ← if isOctal c && second.all isOctal && !second.isEmpty then takeWhile isOctal 1
    else pure []
  if !third.isEmpty then octalEscape (c :: second ++ third)
  else
    let digits := c :: second
    let number := digitsValue 10 digits
    let p ← get
    if number < p.groupCount then
      if (p.groupWidth? number).isNone then refuse .referenceToOpen (digits.length + 1)
      checkBehind number
      return .reference number
    else refuse (.unknownGroup number) digits.length

/-- Reads the rest of an escape outside of sets. -/
def readEscape (c : Char) : ReadM Escape := do
  let ascii := (← get).flags.ascii
  match categoryEscape? c, letterEscape? c with
  | some e, _ => return e
  | _, some d => return .char d
  | none, none =>
    if c = 'A' then return .edge .textStart
    else if c = 'Z' then return .edge .textEnd
    else if c = 'b' then return .edge (.wordBoundary ascii false)
    else if c = 'B' then return .edge (.wordBoundary ascii true)
    else if c = 'x' then readHex c 2
    else if c = 'u' then readHex c 4
    else if c = 'U' then readHex c 8
    else if c = '0' then
      return .char (Char.ofNat (digitsValue 8 (← takeWhile isOctal 2)))
    else if c.isDigit then readNumberEscape c
    else plainEscape c

/-! ### Sets -/

/-- The part of a set that a token stands for. -/
def readMember (t : Token) : ReadM SetItem := do
  match t with
  | .plain c => return .char c
  | .escaped c =>
    match ← readSetEscape c with
    | .char d => return .char d
    | .category kind negated => return .category kind negated
    | _ => return .char c
  | .dangling => return .char '\\'

/-- The character that a part of a set consists of, if it was written as one. -/
def SetItem.single? : SetItem → Option Char
  | .range first last => if first = last then some first else none
  | .category .. => none

/-- Reads the parts of a set up to its bracket; `start` is the position of the opening one. -/
def readMembers (start : Nat) : Nat → List SetItem → ReadM (List SetItem)
  | 0, items => return items
  | fuel + 1, items => do
    let some t ← take | throw ⟨.openSet, some start⟩
    if t = .plain ']' ∧ !items.isEmpty then return items.reverse
    let item ← readMember t
    if ← takeIf '-' then
      let some t' ← take | throw ⟨.openSet, some start⟩
      if t' = .plain ']' then return (.char '-' :: item :: items).reverse
      let item' ← readMember t'
      let texts := t.text.length + 1 + t'.text.length
      match item.single?, item'.single? with
      | some first, some last =>
        if last < first then refuse (.badRange t.text t'.text) texts
        readMembers start fuel (.range first last :: items)
      | _, _ => refuse (.badRange t.text t'.text) texts
    else readMembers start fuel (item :: items)

/-- Reads a set after its opening bracket. -/
def readSet (fuel : Nat) : ReadM CharSet := do
  let start := (← get).position - 1
  let negated ← takeIf '^'
  let items ← readMembers start fuel []
  let flags := (← get).flags
  return ⟨negated, items, flags.ignoreCase, flags.ascii⟩

/-! ### Flags -/

/-- The letters of flags. -/
def isFlag (c : Char) : Bool :=
  "iLmsxatu".toList.contains c

/-- Word characters other than digits and the low line. -/
def isLetter (c : Char) : Bool :=
  Text.isWord c && !Text.isDigit c && c ≠ '_'

/-- Letters of flags in the order given. -/
abbrev FlagLetters := List Char

/-- Reads letters of flags up to one of `stops`; `first` is the first of them. -/
def readFlagLetters (stops : List Char) (unfinished : Cause) (check : FlagLetters → ReadM Unit) :
    Nat → Char → FlagLetters → ReadM (FlagLetters × Char)
  | 0, c, letters => return (letters, c)
  | fuel + 1, c, letters => do
    let letters := letters ++ [c]
    check letters
    match ← take with
    | none => refuse unfinished 0
    | some t =>
      match t with
      | .plain d =>
        if stops.contains d then return (letters, d)
        else if isFlag d then readFlagLetters stops unfinished check fuel d letters
        else refuse (if isLetter d then .unknownFlag else unfinished) 1
      | t => refuse unfinished t.text.length

/-- Refuses flags that are turned on where they cannot be. -/
def checkOn (letters : FlagLetters) : ReadM Unit := do
  if letters.getLast? = some 'L' then refuse .localeFlag 0
  if letters.contains 'a' ∧ letters.contains 'u' then refuse .clashingFlags 0

/-- Refuses flags that are turned off and cannot be. -/
def checkOff (letters : FlagLetters) : ReadM Unit := do
  match letters.getLast? with
  | some c => if c = 'a' ∨ c = 'u' ∨ c = 'L' then refuse .typeFlagOff 0
  | none => return

/-- Flags with those of the letters turned on or off. -/
def Flags.turn (on : Bool) (flags : Flags) (letters : FlagLetters) : Flags :=
  letters.foldl (fun f c =>
    match c with
    | 'i' => { f with ignoreCase := on }
    | 'm' => { f with multiline := on }
    | 's' => { f with dotAll := on }
    | 'x' => { f with verbose := on }
    | 'a' => { f with ascii := on }
    | 'u' => { f with ascii := !on }
    | _ => f) flags

/-- Reads flags after the question mark.  Answers the flags for the group that follows, or none if they
hold for all that follows. -/
def readFlags (fuel : Nat) (first : Char) : ReadM (Option Flags) := do
  let flags := (← get).flags
  let (on, stop) ← if first = '-' then pure ([], '-')
    else readFlagLetters [')', '-', ':'] .flagsUnfinished checkOn fuel first []
  if stop = ')' then
    modify fun p => { p with flags := flags.turn true on }
    return none
  if on.contains 't' then refuse .globalFlagOn 1
  let off ← if stop ≠ '-' then pure []
    else
      match ← take with
      | none => refuse .noFlag 0
      | some t =>
        match t with
        | .plain c =>
          if isFlag c then
            pure (← readFlagLetters [':'] .noColon checkOff fuel c []).1
          else refuse (if isLetter c then .unknownFlag else .noFlag) 1
        | t => refuse .noFlag t.text.length
  if off.contains 't' then refuse .globalFlagOff 1
  if on.any off.contains then refuse .flagOnAndOff 1
  return some ((flags.turn true on).turn false off)

/-! ### Trees -/

/-- What a repetition needs to know about the part in front of it. -/
inductive Kind where
  | edge
  | repetition
  | other
  deriving DecidableEq

/-- A part of a sequence that has been read. -/
structure Part where
  node : Node
  width : Width
  kind : Kind := .other

/-- The parts of a sequence one after the other. -/
def joinParts (parts : List Part) : Node × Width :=
  (Node.ofList (parts.map (·.node)), (parts.map (·.width)).foldl Width.add ⟨0, some 0⟩)

/-- The greatest count that a repetition can name. -/
def repeatLimit : Nat := 4294967295

/-- Reads the bounds of a repetition after its brace, or nothing if it is no repetition. -/
def readBounds (fuel : Nat) : ReadM (Option (Nat × Option Nat)) := do
  let p ← get
  if p.rest.head? = some (.plain '\x7d') then return none
  let start := p.position
  let least ← takeWhile Char.isDigit fuel
  let most ← if ← takeIf ',' then takeWhile Char.isDigit fuel else pure least
  if ← takeIf '\x7d' then
    let lo := digitsValue 10 least
    let hi := digitsValue 10 most
    if repeatLimit ≤ lo ∨ repeatLimit ≤ hi then throw ⟨.largeRepeat, none⟩
    if !most.isEmpty ∧ hi < lo then refuse .leastAboveMost ((← get).position - start)
    return some (lo, if most.isEmpty then none else some hi)
  else
    set p
    return none

/-- Takes the mark that says which counts a repetition prefers. -/
def takePreference : ReadM Preference := do
  if ← takeIf '?' then return .fewest
  if ← takeIf '+' then return .allOrNone
  return .most

/-- Applies a repetition to the last of the parts, which are given in reverse order. -/
def repeatLast (start : Nat) (least : Nat) (most : Option Nat) (parts : List Part) :
    ReadM (List Part) := do
  match parts with
  | [] => throw ⟨.nothingToRepeat, some start⟩
  | part :: before =>
    if part.kind = .edge then throw ⟨.nothingToRepeat, some start⟩
    if part.kind = .repetition then throw ⟨.repeatedRepeat, some start⟩
    let preference ← takePreference
    return ⟨.repetition part.node least most preference, part.width.times least most,
      .repetition⟩ :: before

/-- Opens a group. -/
def openGroup (name : Option String) : ReadM Nat := do
  let p ← get
  let number := p.groupCount
  match name with
  | none => set { p with groups := none :: p.groups }
  | some name =>
    match p.names.find? (·.1 == name) with
    | some (_, earlier) => refuse (.repeatedName name number earlier) (name.length + 1)
    | none =>
      set { p with groups := none :: p.groups, names := (name, number) :: p.names }
  return number

/-- Closes a group. -/
def closeGroup (number : Nat) (width : Width) : ReadM Unit :=
  modify fun p =>
    { p with groups := p.groups.set (p.groups.length - number) (some width) }

/-- The group that a name stands for; the name and its terminator have just been read. -/
def namedGroup (name : String) : ReadM Nat := do
  if !isName name then refuse (.badName name) (name.length + 1)
  match (← get).names.find? (·.1 == name) with
  | none => refuse (.unknownName name) (name.length + 1)
  | some (_, number) => return number

/-- The group that a choice asks for. -/
def choiceGroup (name : String) : ReadM Nat := do
  if isName name then namedGroup name
  else
    match Number.readInteger name with
    | .error _ => refuse (.badName name) (name.length + 1)
    | .ok n =>
      if n < 0 then refuse (.badName name) (name.length + 1)
      if n = 0 then refuse .groupZero (name.length + 1)
      modify fun p =>
        { p with choices := p.choices ++ [(n.toNat, p.position - name.length - 1)] }
      return n.toNat

/-- Skips a comment up to the end of the line. -/
def skipLine : Nat → ReadM Unit
  | 0 => return
  | fuel + 1 => do
    match ← take with
    | none => return
    | some t => if t = .plain '\n' then return else skipLine fuel

/-- Skips a comment up to its parenthesis. -/
def skipComment (start : Nat) : Nat → ReadM Unit
  | 0 => return
  | fuel + 1 => do
    match ← take with
    | none => throw ⟨.openComment, some start⟩
    | some t => if t = .plain ')' then return else skipComment start fuel

/-- Takes the closing parenthesis of the group that was opened at `start`. -/
def closeParen (start : Nat) : ReadM Unit := do
  if !(← takeIf ')') then throw ⟨.openGroup, some start⟩

/-- Runs a step with other flags and restores those in force. -/
def withFlags {α : Type} (flags : Flags) (step : ReadM α) : ReadM α := do
  let outer := (← get).flags
  modify fun p => { p with flags }
  let result ← step
  modify fun p => { p with flags := outer }
  return result

/-- The part of a character outside of sets. -/
def charPart (c : Char) : ReadM Part := do
  let flags := (← get).flags
  return ⟨.one ⟨false, [.char c], flags.ignoreCase, flags.ascii⟩, ⟨1, some 1⟩, .other⟩

/-- The part of an escape outside of sets. -/
def escapePart (c : Char) : ReadM Part := do
  let flags := (← get).flags
  match ← readEscape c with
  | .char d => charPart d
  | .category kind negated =>
    return ⟨.one ⟨false, [.category kind negated], flags.ignoreCase, flags.ascii⟩,
      ⟨1, some 1⟩, .other⟩
  | .edge e => return ⟨.edge e, ⟨0, some 0⟩, .edge⟩
  | .reference number =>
    let width := ((← get).groupWidth? number).getD ⟨0, none⟩
    return ⟨.reference number flags.ignoreCase flags.ascii, width, .other⟩

mutual

/-- Reads alternatives up to the end or a closing parenthesis. -/
def readAlternatives : Nat → Bool → ReadM (Node × Width)
  | 0, _ => return (.empty, ⟨0, some 0⟩)
  | fuel + 1, outermost => do
    let (node, width) ← readSequence fuel outermost []
    if ← takeIf '|' then
      let (others, width') ← readAlternatives fuel false
      return (.alt node others, width.either width')
    else return (node, width)

/-- Reads parts up to a bar, a closing parenthesis or the end; those before are in reverse order.  At the
start of the whole pattern flags may be set for all of it. -/
def readSequence : Nat → Bool → List Part → ReadM (Node × Width)
  | 0, _, parts => return joinParts parts.reverse
  | fuel + 1, outermost, parts => do
    let p ← get
    let next := p.rest.head?
    if next = none ∨ next = some (.plain '|') ∨ next = some (.plain ')') then
      return joinParts parts.reverse
    let start := p.position
    match ← take with
    | none => return joinParts parts.reverse
    | some .dangling => return joinParts parts.reverse
    | some (.escaped c) => readSequence fuel outermost ((← escapePart c) :: parts)
    | some (.plain c) =>
      -- Blanks and comments in a verbose pattern stand for nothing, unless they are escaped or in a set.
      if p.flags.verbose ∧ " \t\n\r\x0b\x0c".toList.contains c then
        readSequence fuel outermost parts
      else if p.flags.verbose ∧ c = '#' then
        skipLine fuel
        readSequence fuel outermost parts
      else if c = '[' then
        let set ← readSet fuel
        readSequence fuel outermost (⟨.one set, ⟨1, some 1⟩, .other⟩ :: parts)
      else if c = '.' then
        let items := if p.flags.dotAll then [] else [SetItem.char '\n']
        readSequence fuel outermost (⟨.one ⟨true, items, false, false⟩, ⟨1, some 1⟩, .other⟩ :: parts)
      else if c = '^' then
        let e := if p.flags.multiline then Edge.lineStart else .textStart
        readSequence fuel outermost (⟨.edge e, ⟨0, some 0⟩, .edge⟩ :: parts)
      else if c = '$' then
        let e := if p.flags.multiline then Edge.lineEnd else .lastLineEnd
        readSequence fuel outermost (⟨.edge e, ⟨0, some 0⟩, .edge⟩ :: parts)
      else if c = '?' then
        readSequence fuel outermost (← repeatLast start 0 (some 1) parts)
      else if c = '*' then
        readSequence fuel outermost (← repeatLast start 0 none parts)
      else if c = '+' then
        readSequence fuel outermost (← repeatLast start 1 none parts)
      else if c = '\x7b' then
        -- A brace in front of anything but bounds stands for itself.
        match ← readBounds fuel with
        | none => readSequence fuel outermost ((← charPart c) :: parts)
        | some (least, most) =>
          readSequence fuel outermost (← repeatLast start least most parts)
      else if c = '(' then
        match ← readGroup fuel start (outermost && parts.isEmpty) with
        | none => readSequence fuel outermost parts
        | some part => readSequence fuel outermost (part :: parts)
      else readSequence fuel outermost ((← charPart c) :: parts)

/-- Reads a group after its opening parenthesis at `start`.  Comments and flags are no part. -/
def readGroup : Nat → Nat → Bool → ReadM (Option Part)
  | 0, _, _ => return none
  | fuel + 1, start, first => do
    if !(← takeIf '?') then return some (← readCapture fuel start none)
    match ← take with
    | none => refuse .endWithin 0
    | some t =>
      match t with
      | .plain 'P' =>
        if ← takeIf '<' then
          let name ← takeName '>' fuel ""
          if !isName name then refuse (.badName name) (name.length + 1)
          return some (← readCapture fuel start (some name))
        else if ← takeIf '=' then
          let name ← takeName ')' fuel ""
          let number ← namedGroup name
          -- The width of a group is known when it has been closed.
          match (← get).groupWidth? number with
          | none => refuse .referenceToOpen (name.length + 1)
          | some width =>
            checkBehind number
            let flags := (← get).flags
            return some ⟨.reference number flags.ignoreCase flags.ascii, width, .other⟩
        else
          match ← take with
          | none => refuse .endWithin 0
          | some t => refuse (.unknownExtension ("P" ++ t.text)) (t.text.length + 2)
      | .plain ':' =>
        let (node, width) ← readAlternatives fuel false
        closeParen start
        return some ⟨node, width, .other⟩
      | .plain '>' =>
        let (node, width) ← readAlternatives fuel false
        closeParen start
        return some ⟨.atomic node, width, .other⟩
      | .plain '#' =>
        skipComment start fuel
        return none
      | .plain '=' => return some (← readAhead fuel start false)
      | .plain '!' => return some (← readAhead fuel start true)
      | .plain '<' =>
        match ← take with
        | none => refuse .endWithin 0
        | some t =>
          if t = .plain '=' ∨ t = .plain '!' then
            return some (← readBehind fuel start (t = .plain '!'))
          else refuse (.unknownExtension ("<" ++ t.text)) (t.text.length + 2)
      | .plain '(' => return some (← readChoice fuel start)
      | t =>
        -- Whatever else stands behind the question mark has to be flags.
        let letter? := match t with
          | .plain c => if isFlag c ∨ c = '-' then some c else none
          | _ => none
        match letter? with
        | none => refuse (.unknownExtension t.text) (t.text.length + 1)
        | some c =>
          match ← readFlags fuel c with
          | none =>
            -- Flags without a group hold for the whole pattern, so they must stand in front of all of it.
            if first then return none else throw ⟨.lateFlags, some start⟩
          | some flags =>
            let (node, width) ← withFlags flags (readAlternatives fuel false)
            closeParen start
            return some ⟨node, width, .other⟩

/-- Reads the body of a capturing group. -/
def readCapture : Nat → Nat → Option String → ReadM Part
  | 0, _, _ => return ⟨.empty, ⟨0, some 0⟩, .other⟩
  | fuel + 1, start, name => do
    let number ← openGroup name
    let (node, width) ← readAlternatives fuel false
    closeParen start
    closeGroup number width
    return ⟨.group number node, width, .other⟩

/-- Reads the body of a look-ahead. -/
def readAhead : Nat → Nat → Bool → ReadM Part
  | 0, _, _ => return ⟨.empty, ⟨0, some 0⟩, .other⟩
  | fuel + 1, start, negated => do
    let (node, _) ← readAlternatives fuel false
    closeParen start
    return ⟨.ahead negated node, ⟨0, some 0⟩, .other⟩

/-- Reads the body of a look-behind. -/
def readBehind : Nat → Nat → Bool → ReadM Part
  | 0, _, _ => return ⟨.empty, ⟨0, some 0⟩, .other⟩
  | fuel + 1, start, negated => do
    let outer := (← get).behindGroups
    modify fun p => { p with behindGroups := some (outer.getD p.groupCount) }
    let (node, width) ← readAlternatives fuel false
    modify fun p => { p with
      behindGroups := outer
      fixedBehinds := p.fixedBehinds && width.most == some width.least }
    closeParen start
    return ⟨.behind width.least negated node, ⟨0, some 0⟩, .other⟩

/-- Reads a choice by whether a group has matched. -/
def readChoice : Nat → Nat → ReadM Part
  | 0, _ => return ⟨.empty, ⟨0, some 0⟩, .other⟩
  | fuel + 1, start => do
    let name ← takeName ')' fuel ""
    let number ← choiceGroup name
    checkBehind number
    let (matched, width) ← readSequence fuel false []
    if ← takeIf '|' then
      let (unmatched, width') ← readSequence fuel false []
      if (← get).rest.head? = some (.plain '|') then refuse .thirdBranch 0
      closeParen start
      return ⟨.choice number matched unmatched, width.either width', .other⟩
    else
      closeParen start
      return ⟨.choice number matched .empty, width.either ⟨0, some 0⟩, .other⟩

end

/-- Reads a whole pattern: its tree and its number of groups. -/
def readTree (flags : Flags) (s : String) : Except Fault (Node × Nat) := do
  let rest := tokens s.toList
  if rest.head? = some .dangling then throw ⟨.danglingEscape, some 0⟩
  let ((node, _), p) ← readAlternatives (2 * rest.length + 4) true |>.run { rest, position := 0, flags }
  if !p.rest.isEmpty then throw ⟨.unbalanced, some p.position⟩
  match p.choices.find? fun choice => p.groupCount ≤ choice.1 with
  | some (number, position) => throw ⟨.unknownGroup number, some position⟩
  | none =>
    if !p.fixedBehinds then throw ⟨.openWidth, none⟩
    return (node, p.groups.length)

end Colloquy.Pattern
