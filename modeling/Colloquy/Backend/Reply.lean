import Colloquy.Json.Reader
import Colloquy.Output
import Colloquy.Value.Display

/-!
# Replies of services

What the answers of the providers' services are read with: their attributes, the objects in them, and the
JSON texts of tool arguments.
-/

namespace Colloquy.Reply

/-- An attribute that has to be there. -/
def field (name : String) : Value → Except Failure Value
  | .object entries =>
    match Assoc.lookup name entries with
    | some v => .ok v
    | none => .error (.fault .noAttribute
        s!"'types.SimpleNamespace' object has no attribute '{name}'")
  | v => .error (.fault .noAttribute s!"'{v.kindName}' object has no attribute '{name}'")

/-- An attribute, or a default for one that is missing. -/
def fieldOr (name : String) (default : Value) : Value → Value
  | .object entries => (Assoc.lookup name entries).getD default
  | _ => default

/-- The items of a list. -/
def items : Value → Except Failure (List Value)
  | .list vs => .ok vs
  | v => .error (.fault .wrongType s!"'{v.kindName}' object is not iterable")

/-- The entries of an object; an empty list counts as one without entries. -/
def entries : Value → Except Failure Entries
  | .object es => .ok es
  | .list [] => .ok []
  | v => .error (.fault .wrongType s!"'{v.kindName}' object is not iterable")

/-- The text that a value is. -/
def text (position : Nat) : Value → Except Failure String
  | .str s => .ok s
  | v => .error (.fault .wrongType
      s!"sequence item {position}: expected str instance, {v.kindName} found")

/-- The texts one after another, once all of them are known to be texts. -/
def joined (vs : List Value) : Except Failure String := do
  return String.join (← vs.zipIdx.mapM fun (v, position) => text position v)

/-- A tool call with the parts that a reply gives. -/
def toolCall (wording : Wording) (name id arguments : Value) : Except Failure ToolCall :=
  let fields := ((Check.text name).within "name").both
    (((Check.mapping arguments).within "arguments").both ((Check.text id).within "id"))
  match fields with
  | .ok (name, arguments, id) => .ok { name, arguments, id }
  | .error issues => .error (.ofIssues wording "ToolCall" issues)

/-- The arguments of a function that a reply calls: the value of a JSON text, which a service may leave
empty. -/
def arguments (function : Value) : Except Failure Value := do
  let v ← field "arguments" function
  if v.truthy then
    match v with
    | .str s =>
      match Json.read s with
      | .ok v => .ok v
      | .error fault => do
        let name ← field "name" function
        .error (.generation s!"Malformed tool arguments for {name.text}: {fault.explain s}"
          (.bool false) (some "JSONDecodeError"))
    | v => .error (.fault .wrongType
        s!"the JSON object must be str, bytes or bytearray, not {v.kindName}")
  else .ok (.object [])

/-- An output with the parts that a reply gives; the text and the structure are checked. -/
def output (wording : Wording) (content : Value) (toolCalls : List ToolCall) (structured : Value)
    (metadata : Entries) : Except Failure Output :=
  let fields := ((Check.text content).within "content").both
    ((Check.optional Check.mapping structured).within "structured_output")
  match fields with
  | .ok (content, structured) =>
    .ok { content := .str content, toolCalls, structured, metadata }
  | .error issues => .error (.ofIssues wording "ModelOutput" issues)

end Colloquy.Reply
