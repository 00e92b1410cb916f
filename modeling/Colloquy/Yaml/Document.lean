import Colloquy.Yaml.Node

/-!
# Values of documents

What a document stands for: scalars are read by their tags, and mappings become objects in which a later entry
replaces an earlier one of the same key.  The entries of a merged mapping come before the others.  Keys are
texts; other scalars are turned into texts.
-/

namespace Colloquy.Yaml

/-! ### Scalars and keys -/

/-- The tag of a scalar: the one that is written, or the one of its form if it is plain. -/
def scalarTag (tag : Option Tag) (text : String) (isPlain : Bool) : Tag :=
  tag.getD (if isPlain then Tag.ofPlain text else .text)

/-- The text of a value as a key. -/
def keyText : Value → String
  | .str s => s
  | .null => "null"
  | .bool b => if b then "true" else "false"
  | v => v.literal

namespace Node

/-- Whether a key asks to merge its value. -/
def isMerge : Node → Bool
  | scalar tag text isPlain => scalarTag tag text isPlain == .merge
  | _ => false

/-- The text of a key; only scalars are keys. -/
def asKey : Node → Except Failure String
  | scalar tag text isPlain =>
    match scalarTag tag text isPlain with
    | .default => .ok text
    | tag => keyText <$> tag.read text
  | _ => refuse

/-! ### Values -/

mutual

/-- The value of a node. -/
def toValue : Node → Except Failure Value
  | scalar tag text isPlain => (scalarTag tag text isPlain).read text
  | sequence tag items =>
    if tag.getD .sequence = .sequence then .list <$> itemValues items else refuse
  | mapping tag entries =>
    if tag.getD .mapping = .mapping then do
      let (merged, own) ← entryValues entries
      return .object (Assoc.ofPairs (merged ++ own))
    else refuse

/-- The values of items. -/
def itemValues : List Node → Except Failure (List Value)
  | [] => return []
  | n :: rest => do
    let v ← n.toValue
    return v :: (← itemValues rest)

/-- The merged entries of a mapping and its own ones. -/
def entryValues : List (Node × Node) → Except Failure (Entries × Entries)
  | [] => return ([], [])
  | (key, value) :: rest => do
    if key.isMerge then
      let more ← mergedValues value
      let (merged, own) ← entryValues rest
      return (more ++ merged, own)
    else
      let k ← key.asKey
      let v ← value.toValue
      let (merged, own) ← entryValues rest
      return (merged, (k, v) :: own)

/-- The entries of a mapping that is merged, or of several ones; the first one of these comes last. -/
def mergedValues : Node → Except Failure Entries
  | mapping _ entries => do
    let (merged, own) ← entryValues entries
    return merged ++ own
  | sequence _ items => mergedItems items
  | scalar .. => refuse

/-- The entries of several mappings, last one first. -/
def mergedItems : List Node → Except Failure Entries
  | [] => return []
  | mapping _ entries :: rest => do
    let (merged, own) ← entryValues entries
    return (← mergedItems rest) ++ merged ++ own
  | _ => refuse

end

end Node

/-- The value of a document; null for an empty one. -/
def read (text : String) : Except Failure Value := do
  match ← Node.ofText text with
  | none => return .null
  | some root => root.toValue

end Colloquy.Yaml
