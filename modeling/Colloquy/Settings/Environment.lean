import Colloquy.Text.Case
import Colloquy.Text.Find
import Colloquy.Value.Basic

/-!
# The environment

Texts of settings may refer to variables of the environment.  `Environment.expand` puts the values of the
variables that are set in the place of references; a reference to any other variable stays as it is.  What
comes from a variable is not looked through again.
-/

namespace Colloquy

/-- The variables that are set. -/
abbrev Environment := Assoc String

namespace Environment

/-! ### References -/

/-- The name in the reference that a text starts with: word characters in braces behind a dollar sign. -/
def reference? : List Char → Option (List Char)
  | '$' :: '\x7b' :: cs =>
    match cs.takeWhile Text.isWord, cs.dropWhile Text.isWord with
    | c :: name, '\x7d' :: _ => some (c :: name)
    | _, _ => none
  | _ => none

/-- The value of the variable that a text starts with a reference to, and how many characters of the reference
come after the first one. -/
def value? (env : Environment) (cs : List Char) : Option (List Char × Nat) := do
  let name ← reference? cs
  let value ← env.lookup (String.ofList name)
  return (value.toList, name.length + 2)

/-- A text with values in the place of references, after so many characters that are left out. -/
def expandFrom (env : Environment) : Nat → List Char → List Char
  | _, [] => []
  | n + 1, _ :: cs => expandFrom env n cs
  | 0, c :: cs =>
    match env.value? (c :: cs) with
    | some (value, length) => value ++ expandFrom env length cs
    | none => c :: expandFrom env 0 cs

/-- A text with values in the place of references. -/
def expand (env : Environment) (s : String) : String :=
  String.ofList (env.expandFrom 0 s.toList)

/-! ### Values -/

mutual

/-- A value with all its texts expanded; keys stay as they are. -/
def fill (env : Environment) : Value → Value
  | .str s => .str (env.expand s)
  | .list items => .list (fillItems env items)
  | .object entries => .object (fillEntries env entries)
  | v => v

/-- Items with all their texts expanded. -/
def fillItems (env : Environment) : List Value → List Value
  | [] => []
  | v :: rest => fill env v :: fillItems env rest

/-- Entries with all the texts of their values expanded. -/
def fillEntries (env : Environment) : List (String × Value) → List (String × Value)
  | [] => []
  | (k, v) :: rest => (k, fill env v) :: fillEntries env rest

end

/-! ### Switches -/

/-- The words that switch something on, in any case. -/
def switchedOn : List String := ["1", "true", "yes", "on"]

/-- Whether a variable is set to one of the words that switch something on; nothing if it is not set. -/
def switch? (env : Environment) (name : String) : Option Bool :=
  (env.lookup name).map fun word => switchedOn.contains (Text.lower (Text.trimmed word))

end Environment

end Colloquy
