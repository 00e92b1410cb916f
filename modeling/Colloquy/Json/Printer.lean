import Colloquy.Number.Display
import Colloquy.Text.Quoted
import Colloquy.Value.Basic

/-!
# Writing JSON

A value is written in ASCII with a blank after each comma and colon.  `Json.sorted` orders the entries of
every object by key first, so that values that differ only in that order are written alike; `Json.write`
keeps their order.  Characters beyond ASCII are written as the escapes of their UTF-16 units.
-/

namespace Colloquy.Json

open Number (Layout)

/-! ### Texts and numbers -/

/-- The escape of one UTF-16 unit. -/
def unitEscape (n : Nat) : List Char :=
  '\\' :: 'u' :: Text.hexDigits 4 n

/-- A character as it stands in a JSON text. -/
def writeChar (c : Char) : List Char :=
  let n := c.toNat
  if c = '"' then ['\\', '"']
  else if c = '\\' then ['\\', '\\']
  else if c = '\n' then ['\\', 'n']
  else if c = '\r' then ['\\', 'r']
  else if c = '\t' then ['\\', 't']
  else if n = 8 then ['\\', 'b']
  else if n = 12 then ['\\', 'f']
  else if 32 ≤ n ∧ n ≤ 126 then [c]
  else if n < 0x10000 then unitEscape n
  else unitEscape (0xd800 + (n - 0x10000) / 0x400) ++ unitEscape (0xdc00 + (n - 0x10000) % 0x400)

/-- A text between double quotes, with escapes. -/
def writeText (s : String) : List Char :=
  '"' :: s.toList.flatMap writeChar ++ ['"']

/-- Doubles are written as in displayed values, apart from the words for those that are not finite. -/
def numberLayout : Layout := { Number.plain with infinite := "Infinity", undefined := "NaN" }

/-! ### Values -/

mutual

/-- The JSON text of a value, its objects in their own order. -/
def write : Value → List Char
  | .null => ['n', 'u', 'l', 'l']
  | .bool true => ['t', 'r', 'u', 'e']
  | .bool false => ['f', 'a', 'l', 's', 'e']
  | .int n => (toString n).toList
  | .float x => (numberLayout.display x).toList
  | .str s => writeText s
  | .list items => '[' :: writeItems items ++ [']']
  | .object entries => '\x7b' :: writeEntries entries ++ ['\x7d']

/-- The JSON texts of items, with commas between them. -/
def writeItems : List Value → List Char
  | [] => []
  | [v] => write v
  | v :: rest => write v ++ ',' :: ' ' :: writeItems rest

/-- The JSON texts of entries, with commas between them. -/
def writeEntries : List (String × Value) → List Char
  | [] => []
  | [(k, v)] => writeText k ++ ':' :: ' ' :: write v
  | (k, v) :: rest => writeText k ++ ':' :: ' ' :: write v ++ ',' :: ' ' :: writeEntries rest

end

/-- Puts an entry in front of the first entry with a greater key. -/
def insertByKey (entry : String × Value) : List (String × Value) → List (String × Value)
  | [] => [entry]
  | e :: rest => if entry.1 < e.1 then entry :: e :: rest else e :: insertByKey entry rest

mutual

/-- A value with the entries of every object in ascending order of their keys. -/
def sorted : Value → Value
  | .list items => .list (sortedItems items)
  | .object entries => .object (sortedEntries entries)
  | v => v

/-- Sorts within items. -/
def sortedItems : List Value → List Value
  | [] => []
  | v :: rest => sorted v :: sortedItems rest

/-- Sorts entries by key, and within their values. -/
def sortedEntries : List (String × Value) → List (String × Value)
  | [] => []
  | (k, v) :: rest => insertByKey (k, sorted v) (sortedEntries rest)

end

/-- The JSON text of a value. -/
def render (v : Value) : String :=
  String.ofList (write v)

/-- The JSON text of a value with sorted keys. -/
def renderSorted (v : Value) : String :=
  String.ofList (write (sorted v))

end Colloquy.Json
