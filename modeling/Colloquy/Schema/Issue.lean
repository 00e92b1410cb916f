import Colloquy.Value.Basic

/-!
# Issues

What a check finds wrong with a value: an `Issue` names the place, as a path of field names and positions,
the cause, and what was found there.  `summarize` puts the issues of one check into one line; a `Wording` is any
other way to put them into words.
-/

namespace Colloquy

/-- Why a value does not fit. -/
inductive Misfit where
  | missing
  | notText
  | notMapping
  | notList
  | notArray
  | notTuple
  | notCallable
  /-- Not an object where one of the named record was due. -/
  | notRecord (name : String)
  | notObject
  | notNumber
  | notNumberText
  | notInteger
  | notIntegerText
  | fractional
  | notFinite
  | notBoolean
  | unclearBoolean
  /-- None of the listed words, which are named with quotes. -/
  | notAmong (words : List String)
  /-- A rule of the record is broken. -/
  | rule (message : String)
  | notJson (message : String)
  /-- Not a text where a JSON text was due. -/
  | noJsonText
  deriving DecidableEq, Repr

namespace Misfit

/-- Words with quotes, separated by commas, the last one by a conjunction. -/
def enumerate : List String → String
  | [] => ""
  | [w] => s!"'{w}'"
  | [v, w] => s!"'{v}' or '{w}'"
  | w :: rest => s!"'{w}', " ++ enumerate rest

/-- The wording of a misfit. -/
def message : Misfit → String
  | missing => "Field required"
  | notText => "Input should be a valid string"
  | notMapping => "Input should be a valid dictionary"
  | notList => "Input should be a valid list"
  | notArray => "Input should be a valid array"
  | notTuple => "Input should be a valid tuple"
  | notCallable => "Input should be callable"
  | notRecord name => s!"Input should be a valid dictionary or instance of {name}"
  | notObject => "Input should be an object"
  | notNumber => "Input should be a valid number"
  | notNumberText => "Input should be a valid number, unable to parse string as a number"
  | notInteger => "Input should be a valid integer"
  | notIntegerText => "Input should be a valid integer, unable to parse string as an integer"
  | fractional => "Input should be a valid integer, got a number with a fractional part"
  | notFinite => "Input should be a finite number"
  | notBoolean => "Input should be a valid boolean"
  | unclearBoolean => "Input should be a valid boolean, unable to interpret input"
  | notAmong words => "Input should be " ++ enumerate words
  | rule message => "Value error, " ++ message
  | notJson message => "Invalid JSON: " ++ message
  | noJsonText => "JSON input should be string, bytes or bytearray"

end Misfit

/-- A misfit, its place, and the value that does not fit: for a missing field, that which should have it. -/
structure Issue where
  path : List String
  misfit : Misfit
  input : Value

namespace Issue

/-- The issue seen from one level further out. -/
def within (step : String) (i : Issue) : Issue :=
  { i with path := step :: i.path }

/-- The line of an issue; the place of the whole value is named the root. -/
def line (i : Issue) : String :=
  let place := if i.path.isEmpty then "<root>" else ".".intercalate i.path
  place ++ ": " ++ i.misfit.message

/-- The lines of issues in one. -/
def summarize (issues : List Issue) : String :=
  "; ".intercalate (issues.map line)

end Issue

/-- How it is worded that a value has issues as some record. -/
abbrev Wording := String → List Issue → String

/-- The number of the issues and the record, and then the issues. -/
def Wording.plain : Wording := fun record issues =>
  let noun := if issues.length = 1 then "error" else "errors"
  s!"{issues.length} validation {noun} for {record}\n" ++ Issue.summarize issues

end Colloquy
