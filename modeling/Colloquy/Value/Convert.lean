import Colloquy.Failure
import Colloquy.Number.Arithmetic
import Colloquy.Number.Reader
import Colloquy.Value.Display

/-!
# Conversions to numbers

`toInteger` and `toDouble` turn any value into a number or say why it is none: texts are read, doubles lose
their fraction on the way to an integer, and true and false count as one and zero.
-/

namespace Colloquy

/-! ### Integers -/

/-- The failure of a text that is no integer. -/
def Number.IntegerFault.failure (text : String) : Number.IntegerFault → Failure
  | .malformed =>
    .fault .badValue s!"invalid literal for int() with base 10: {Text.quoted text}"
  | .tooLong digits =>
    .fault .badValue ("Exceeds the limit (" ++ toString Number.digitLimit ++
      " digits) for integer string conversion: value has " ++ toString digits ++
      " digits; use sys.set_int_max_str_digits() to increase the limit")

/-- The integer that a text writes. -/
def Number.integerOf (text : String) : Except Failure Int :=
  match Number.readInteger text with
  | .ok n => .ok n
  | .error fault => .error (fault.failure text)

namespace Value

/-- The integer that a value stands for. -/
def toInteger : Value → Except Failure Int
  | bool b => .ok (if b then 1 else 0)
  | int n => .ok n
  | float x =>
    match Number.truncate? x with
    | some n => .ok n
    | none =>
      .error (if x.isNaN then .fault .badValue "cannot convert float NaN to integer"
        else .fault .overflow "cannot convert float infinity to integer")
  | str s => Number.integerOf s
  | v => .error (.fault .wrongType
      ("int() argument must be a string, a bytes-like object or a real number, not '" ++
        v.kindName ++ "'"))

/-! ### Doubles -/

/-- The double that a value stands for. -/
def toDouble : Value → Except Failure Float
  | bool b => .ok (if b then 1.0 else 0.0)
  | int n =>
    match Number.ofInt? n with
    | some x => .ok x
    | none => .error (.fault .overflow "int too large to convert to float")
  | float x => .ok x
  | str s =>
    match Number.readFloat? s with
    | some x => .ok x
    | none => .error (.fault .badValue s!"could not convert string to float: {Text.quoted s}")
  | v => .error (.fault .wrongType
      s!"float() argument must be a string or a real number, not '{v.kindName}'")

end Value

end Colloquy
