import Colloquy.Json.Reader
import Colloquy.Schema.Check

/-!
# Shapes

A `Shape` describes the structured answers that a model may be asked for: scalars, optional values, lists
and records with defaults.  `Shape.read` reads a value of the shape or lists all that is wrong with it,
`Shape.readText` does so for a JSON text, and `Shape.document` is the JSON schema of a record, which lists
the records inside it once as definitions.
-/

namespace Colloquy

/-- The form of a structured value.  A record has a name and fields with an optional default each. -/
inductive Shape where
  | text
  | number
  | integer
  | boolean
  | optional (inner : Shape)
  | list (item : Shape)
  | record (name : String) (fields : List (String × Shape × Option Value))
  deriving Inhabited

namespace Shape

/-- Where a value comes from, which the wording of misfits depends on. -/
inductive Form where
  /-- A value that is at hand. -/
  | value
  /-- A value that was read from a JSON text. -/
  | json
  deriving DecidableEq, Repr

/-! ### Reading -/

/-- The issue of a value that is no record. -/
def Form.noRecord (form : Form) (name : String) : Misfit :=
  match form with
  | .value => .notRecord name
  | .json => .notObject

/-- The issue of a value that is no list. -/
def Form.noList : Form → Misfit
  | .value => .notList
  | .json => .notArray

mutual

/-- Reads a value of a shape. -/
def read (form : Form) : Shape → Check Value
  | text, v => (Check.text v).map .str
  | number, v => (Check.number v).map .float
  | integer, v => (Check.integer v).map .int
  | boolean, v => (Check.boolean v).map .bool
  | optional _, .null => .ok .null
  | optional inner, v => read form inner v
  | list item, .list vs => (Check.items (read form item) vs).map .list
  | list _, v => .misfit form.noList v
  | record _ fields, .object entries => (readFields form fields entries).map .object
  | record name _, v => .misfit (form.noRecord name) v

/-- Reads the fields of a record in order. -/
def readFields (form : Form) :
    List (String × Shape × Option Value) → Entries → Checked Entries
  | [], _ => .ok []
  | (name, shape, default) :: rest, entries =>
    let first : Checked Value := match Assoc.lookup name entries, default with
      | some v, _ => (read form shape v).within name
      | none, some d => .ok d
      | none, none => .error [⟨[name], .missing, .object entries⟩]
    (first.both (readFields form rest entries)).map fun (v, others) => (name, v) :: others

end

/-- Reads a JSON text of a shape. -/
def readText (shape : Shape) : Check Value
  | .str s =>
    match Json.readStrict s with
    | .error fault => .misfit (.notJson (fault.classify s)) (.str s)
    | .ok v => shape.read .json v
  | v => .misfit .noJsonText v

/-- The name of a record; other shapes have none. -/
def name : Shape → String
  | record name _ => name
  | _ => ""

/-! ### JSON schemas -/

/-- A field's name as a title: words with a capital each. -/
def title (field : String) : String :=
  let words := (field.splitOn "_").map fun w =>
    match w.toList with
    | [] => ""
    | c :: cs => String.ofList (c.toUpper :: cs)
  " ".intercalate words

mutual

/-- The JSON schema of a shape within a record; other records are referred to. -/
def fragment : Shape → Entries
  | text => [("type", .str "string")]
  | number => [("type", .str "number")]
  | integer => [("type", .str "integer")]
  | boolean => [("type", .str "boolean")]
  | optional inner =>
    [("anyOf", .list [.object (fragment inner), .object [("type", .str "null")]])]
  | list item => [("items", .object (fragment item)), ("type", .str "array")]
  | record name _ => [("$ref", .str ("#/$defs/" ++ name))]

/-- The JSON schemas of fields, with their titles and defaults. -/
def fragments : List (String × Shape × Option Value) → Entries
  | [] => []
  | (name, shape, default) :: rest =>
    let base := fragment shape
    let described := match default with
      | none => base
      | some d => base ++ [("default", d)]
    (name, .object (described ++ [("title", .str (title name))])) :: fragments rest

end

/-- The JSON schema of a record's own fields. -/
def body (name : String) (fields : List (String × Shape × Option Value)) : Entries :=
  let needed := (fields.filter fun (_, _, default) => default.isNone).map fun (name, _) => Value.str name
  [("properties", .object (fragments fields))] ++
    (if needed.isEmpty then [] else [("required", .list needed)]) ++
    [("title", .str name), ("type", .str "object")]

mutual

/-- The definitions of the records inside a shape. -/
def definitions : Shape → Entries
  | optional inner => definitions inner
  | list item => definitions item
  | record name fields => (name, .object (body name fields)) :: definitionsOf fields
  | _ => []

/-- The definitions of the records inside fields. -/
def definitionsOf : List (String × Shape × Option Value) → Entries
  | [] => []
  | (_, shape, _) :: rest => definitions shape ++ definitionsOf rest

end

/-- The JSON schema of a record. -/
def document : Shape → Entries
  | record name fields =>
    let inner := Assoc.ofPairs (definitionsOf fields)
    (if inner.isEmpty then [] else [("$defs", .object inner)]) ++ body name fields
  | shape => fragment shape

end Shape

end Colloquy
