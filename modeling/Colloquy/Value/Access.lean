import Colloquy.Value.Display

/-!
# Access to values

Values of any form are looked into without a check: what is not there, or is of another form, counts as null,
as empty or as a default.  `depth` is how deeply a value is nested, which bounds how far readers go into it.
-/

namespace Colloquy.Value

/-! ### Parts -/

/-- The value of a field, if there is one. -/
def field? (v : Value) (name : String) : Option Value :=
  match v with
  | object es => Assoc.lookup name es
  | _ => none

/-- The value of a field; null for one that is missing. -/
def field (v : Value) (name : String) : Value := (v.field? name).getD null

/-- The items of a list; none for anything else. -/
def items : Value → List Value
  | list vs => vs
  | _ => []

/-- The entries of an object; none for anything else. -/
def entries : Value → Entries
  | object es => es
  | _ => []

/-! ### Leaves -/

/-- The text that a value is. -/
def text? : Value → Option String
  | str s => some s
  | _ => none

/-- The integer that a value is; true and false count as one and zero. -/
def integer? : Value → Option Int
  | int n => some n
  | bool b => some (if b then 1 else 0)
  | _ => none

/-- The integer that a value is, or zero. -/
def integer (v : Value) : Int := v.integer?.getD 0

/-- The text of a field, or a default for one that is missing or null. -/
def word (v : Value) (name : String) (default : String := "") : String :=
  match v.field name with
  | null => default
  | w => w.text

/-- Whether a field counts as true, or a default for a missing one. -/
def flag (v : Value) (name : String) (default : Bool := false) : Bool :=
  ((v.field? name).map truthy).getD default

/-! ### Depth -/

mutual

/-- How deeply lists and objects are nested. -/
def depth : Value → Nat
  | list vs => depthItems vs + 1
  | object es => depthEntries es + 1
  | _ => 0

/-- The greatest depth of items. -/
def depthItems : List Value → Nat
  | [] => 0
  | v :: rest => max v.depth (depthItems rest)

/-- The greatest depth of the values of entries. -/
def depthEntries : List (String × Value) → Nat
  | [] => 0
  | (_, v) :: rest => max v.depth (depthEntries rest)

end

end Colloquy.Value
