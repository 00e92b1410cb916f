import Colloquy.Value.Assoc
import Colloquy.Yaml.Token

/-!
# Nodes

The tree that tokens describe: scalars, sequences and mappings, each with a tag if one is written.  An alias
stands for the node with the anchor of that name, which has to come first.
-/

namespace Colloquy.Yaml

/-- A node of a document. -/
inductive Node where
  | scalar (tag : Option Tag) (text : String) (isPlain : Bool)
  | sequence (tag : Option Tag) (items : List Node)
  | mapping (tag : Option Tag) (entries : List (Node × Node))
  deriving Inhabited

namespace Node

/-- What stands where nothing is written. -/
def empty : Node := scalar none "" true

/-! ### Reading tokens -/

/-- The tokens ahead, and the nodes with anchors behind. -/
structure Progress where
  tokens : List Token
  anchors : Assoc Node := []

/-- A step of reading tokens. -/
abbrev Reading := StateT Progress (Except Failure)

/-- Fails. -/
def fail {α : Type} : Reading α := throw .badYaml

/-- The next token. -/
def peek : Reading (Option Token) := do
  return (← get).tokens.head?

/-- Passes the next token. -/
def advance : Reading Unit :=
  modify fun p => { p with tokens := p.tokens.drop 1 }

/-- Passes a token if it is the next one. -/
def accept (t : Token) : Reading Bool := do
  if (← peek) == some t then
    advance
    return true
  else return false

/-- Passes a token that has to come. -/
def expect (t : Token) : Reading Unit := do
  if !(← accept t) then fail

/-- What is read, or the empty node if one of the given tokens comes. -/
def orEmpty (stops : List Token) (read : Reading Node) : Reading Node := do
  match ← peek with
  | some t => if stops.contains t then return empty else read
  | none => read

/-- What stands in front of a node. -/
structure Properties where
  anchor : Option String := none
  tag : Option (Option Tag) := none

/-- The anchor and the tag that come next, in either order. -/
def properties : Reading Properties := do
  match ← peek with
  | some (.anchor name) => do
    advance
    match ← peek with
    | some (.tag t) => do
      advance
      return { anchor := some name, tag := some t }
    | _ => return { anchor := some name }
  | some (.tag t) => do
    advance
    match ← peek with
    | some (.anchor name) => do
      advance
      return { anchor := some name, tag := some t }
    | _ => return { tag := some t }
  | _ => return {}

/-- Gives a node a name, which must be new. -/
def register (anchor : Option String) (n : Node) : Reading Unit := do
  match anchor with
  | none => return
  | some name =>
    let p ← get
    if (p.anchors.lookup name).isSome then fail
    set { p with anchors := p.anchors.insert name n }

/-- A node with an anchor or a tag and nothing else. -/
def bare (given : Properties) : Reading Node :=
  if given.anchor.isSome || given.tag.isSome then
    return scalar (given.tag.getD none) "" (given.tag.getD none).isNone
  else fail

mutual

/-- A node, at most so deep.  Sequences of a mapping may be written without indentation. -/
def read (inBlock loose : Bool) : Nat → Reading Node
  | 0 => fail
  | n + 1 => do
    match ← peek with
    | some (.alias name) => do
      advance
      match (← get).anchors.lookup name with
      | some found => return found
      | none => fail
    | _ => do
      let given ← properties
      let tag := given.tag.getD none
      let next ← peek
      let made ← match next with
        | some (.scalar text isPlain) => do
          advance
          pure (scalar tag text (isPlain || given.tag == some none))
        | some .flowSequence => do
          advance
          pure (sequence tag (← flowItems true n))
        | some .flowMapping => do
          advance
          pure (mapping tag (← flowEntries true n))
        | some .blockSequence =>
          if inBlock then do
            advance
            pure (sequence tag (← blockItems n))
          else bare given
        | some .blockMapping =>
          if inBlock then do
            advance
            pure (mapping tag (← blockEntries n))
          else bare given
        | some .blockEntry => if loose then pure (sequence tag (← looseItems n)) else bare given
        | _ => bare given
      -- The name is given last, so a node cannot contain itself.
      register given.anchor made
      return made

/-- The items of an indented sequence. -/
def blockItems : Nat → Reading (List Node)
  | 0 => fail
  | n + 1 => do
    if ← accept .blockEntry then
      let item ← orEmpty [.blockEntry, .blockEnd] (read true false n)
      return item :: (← blockItems n)
    else
      expect .blockEnd
      return []

/-- The items of a sequence without indentation. -/
def looseItems : Nat → Reading (List Node)
  | 0 => fail
  | n + 1 => do
    if ← accept .blockEntry then
      let item ← orEmpty [.blockEntry, .key, .value, .blockEnd] (read true false n)
      return item :: (← looseItems n)
    else return []

/-- The entries of an indented mapping. -/
def blockEntries : Nat → Reading (List (Node × Node))
  | 0 => fail
  | n + 1 => do
    if ← accept .key then
      let part := orEmpty [.key, .value, .blockEnd] (read true true n)
      let key ← part
      let value ← if ← accept .value then part else pure empty
      return (key, value) :: (← blockEntries n)
    else
      expect .blockEnd
      return []

/-- The items between brackets.  A single entry of a mapping may stand as an item. -/
def flowItems (isFirst : Bool) : Nat → Reading (List Node)
  | 0 => fail
  | n + 1 => do
    if ← accept .flowSequenceEnd then return []
    if !isFirst then expect .flowEntry
    if ← accept .key then
      let key ← orEmpty [.value, .flowEntry, .flowSequenceEnd] (read false false n)
      let value ← if ← accept .value then
          orEmpty [.flowEntry, .flowSequenceEnd] (read false false n)
        else pure empty
      return mapping none [(key, value)] :: (← flowItems false n)
    else if ← accept .flowSequenceEnd then return []
    else
      let item ← read false false n
      return item :: (← flowItems false n)

/-- The entries between braces.  An item without a mark is a key without a value. -/
def flowEntries (isFirst : Bool) : Nat → Reading (List (Node × Node))
  | 0 => fail
  | n + 1 => do
    if ← accept .flowMappingEnd then return []
    if !isFirst then expect .flowEntry
    if ← accept .key then
      let key ← orEmpty [.value, .flowEntry, .flowMappingEnd] (read false false n)
      let value ← if ← accept .value then
          orEmpty [.flowEntry, .flowMappingEnd] (read false false n)
        else pure empty
      return (key, value) :: (← flowEntries false n)
    else if ← accept .flowMappingEnd then return []
    else
      let key ← read false false n
      return (key, empty) :: (← flowEntries false n)

end

/-! ### Documents -/

/-- Passes all tokens of a kind at the front. -/
def skipAll (t : Token) : Reading Unit :=
  modify fun p => { p with tokens := p.tokens.dropWhile (· == t) }

/-- The only document; there is none in an empty text. -/
def document (depth : Nat) : Reading (Option Node) := do
  let first ← peek
  if first.isNone then return none
  let root ←
    if first == some .directive || first == some .documentStart then do
      skipAll .directive
      expect .documentStart
      let next ← peek
      if next.isNone then pure empty
      else orEmpty [.directive, .documentStart, .documentEnd] (read true false depth)
    else read true false depth
  skipAll .documentEnd
  if (← peek).isSome then fail
  return some root

/-- The root of a text, if it has one. -/
def ofText (text : String) : Except Failure (Option Node) := do
  let tokens ← Token.ofText text
  return (← (document (2 * tokens.length + 2)).run { tokens }).1

end Node

end Colloquy.Yaml
