import Colloquy.Number.Display
import Colloquy.Text.Quoted
import Colloquy.Value.Basic

/-!
# The text of values

`literal` writes a value so that its kind shows: texts quoted, lists in brackets, objects in braces with
their entries in order.  `text` is what interpolation inserts: a text as it is, and the literal of anything
else.
-/

namespace Colloquy.Value

mutual

/-- The literal of a value. -/
def literal : Value → String
  | null => "None"
  | bool true => "True"
  | bool false => "False"
  | int n => toString n
  | float x => Number.display x
  | str s => Text.quoted s
  | list items => "[" ++ literalItems items ++ "]"
  | object entries => "\x7b" ++ literalEntries entries ++ "\x7d"

/-- The literals of items, with commas between them. -/
def literalItems : List Value → String
  | [] => ""
  | [v] => literal v
  | v :: rest => literal v ++ ", " ++ literalItems rest

/-- The literals of entries, with commas between them. -/
def literalEntries : List (String × Value) → String
  | [] => ""
  | [(k, v)] => Text.quoted k ++ ": " ++ literal v
  | (k, v) :: rest => Text.quoted k ++ ": " ++ literal v ++ ", " ++ literalEntries rest

end

/-- The text of a value. -/
def text : Value → String
  | str s => s
  | v => literal v

end Colloquy.Value
