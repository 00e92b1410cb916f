import Colloquy.Value.Assoc

/-!
# Values

The dynamic values that vars, attributes, tool arguments and settings hold.  An object is an association
list of its entries.
-/

namespace Colloquy

/-- A dynamic value. -/
inductive Value where
  | null
  | bool (b : Bool)
  | int (n : Int)
  | float (x : Float)
  | str (s : String)
  | list (items : List Value)
  | object (entries : List (String × Value))
  deriving Inhabited

/-- The entries of an object. -/
abbrev Entries := Assoc Value

namespace Value

/-! ### Truth and kinds -/

/-- Null, false, zero and everything empty count as false. -/
def truthy : Value → Bool
  | null => false
  | bool b => b
  | int n => n != 0
  | float x => x != 0.0
  | str s => s != ""
  | list items => !items.isEmpty
  | object entries => !entries.isEmpty

/-- The name of a value's kind in messages. -/
def kindName : Value → String
  | null => "NoneType"
  | bool _ => "bool"
  | int _ => "int"
  | float _ => "float"
  | str _ => "str"
  | list _ => "list"
  | object _ => "dict"

/-- The number of characters, items or entries. -/
def size? : Value → Option Nat
  | str s => some s.length
  | list items => some items.length
  | object entries => some entries.length
  | _ => none

/-- A text as a value, or null for none. -/
def ofText? : Option String → Value
  | none => null
  | some s => str s

end Value

end Colloquy
