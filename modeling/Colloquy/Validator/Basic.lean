import Colloquy.Pattern.Basic
import Colloquy.Run
import Colloquy.Text.Case
import Colloquy.Text.Find

/-!
# Validators

A validator judges content in the context of a session.  The leaves ask for patterns, keywords, lengths or
shapes or call a function; `all` and `any` combine other validators.  The functions that build validators
refuse descriptions of nothing: keywords without a word, a length without a bound, a combination of no
validators.
-/

namespace Colloquy

/-! ### Verdicts -/

/-- What a validator says about content: whether it is accepted, and how to do better. -/
structure Verdict where
  isValid : Bool
  instruction : Option String := none
  deriving DecidableEq, Repr, Inhabited

namespace Verdict

/-- Acceptance. -/
def accept : Verdict := { isValid := true }

/-- Rejection with an instruction. -/
def reject (instruction : String) : Verdict := { isValid := false, instruction := some instruction }

/-- A verdict as an object. -/
def toValue (v : Verdict) : Value :=
  .object [("is_valid", .bool v.isValid), ("instruction", .ofText? v.instruction)]

end Verdict

/-- What a function that judges content answers: a verdict, or a value that counts as true or false. -/
inductive Finding where
  | verdict (v : Verdict)
  | value (v : Value)

/-! ### Validators -/

/-- A judge of content. -/
inductive Validator (σ : Type) where
  | matching (pattern : Pattern) (description : String)
  | notMatching (pattern : Pattern) (description : String)
  | keywords (wanted banned : List String) (caseSensitive : Bool) (description : String)
  | length (least most : Option Int) (description : String)
  | shaped (shape : Shape) (description : String)
  | function (judge : Value → Session → Run σ Finding) (description : String)
  | all (validators : List (Validator σ)) (description : String)
  | any (validators : List (Validator σ)) (description : String)

namespace Validator

variable {σ : Type}

/-- A description, or the default for an empty one. -/
def describe (description default : String) : String :=
  if description = "" then default else description

/-! ### Building -/

/-- Accepts content in which a pattern is found. -/
def ofPattern (pattern : Pattern) (description : String) : Validator σ :=
  matching pattern (describe description s!"Content must match pattern: {pattern.source}")

/-- Accepts content in which a pattern is not found. -/
def ofBannedPattern (pattern : Pattern) (description : String) : Validator σ :=
  notMatching pattern (describe description s!"Content must not match pattern: {pattern.source}")

/-- Accepts content that holds all words wanted and no word banned. -/
def ofKeywords (wanted banned : List String) (caseSensitive : Bool) (description : String) :
    Except Failure (Validator σ) :=
  if wanted.isEmpty && banned.isEmpty then
    .error (.configuration "KeywordValidator needs include or exclude keywords" none)
  else .ok (keywords wanted banned caseSensitive description)

/-- Accepts content of a length within bounds. -/
def ofLength (least most : Option Int) (description : String) : Except Failure (Validator σ) :=
  match least, most with
  | none, none =>
    .error (.configuration "LengthValidator needs min_length or max_length" none)
  | some l, some m =>
    if m < l then
      .error (.configuration s!"min_length ({l}) exceeds max_length ({m})" none)
    else .ok (length least most description)
  | _, _ => .ok (length least most description)

/-- Accepts JSON texts of a shape. -/
def ofShape (shape : Shape) (description : String) : Validator σ :=
  shaped shape (describe description s!"Content must be JSON matching {shape.name}")

/-- Accepts what a function accepts. -/
def ofFunction (judge : Value → Session → Run σ Finding)
    (description : String := "Custom validation failed") : Validator σ :=
  function judge description

/-- Accepts what all of the validators accept. -/
def ofAll (validators : List (Validator σ)) (description : String) :
    Except Failure (Validator σ) :=
  if validators.isEmpty then
    .error (.configuration "AllValidator needs at least one validator" none)
  else .ok (all validators (describe description "All validations must pass"))

/-- Accepts what one of the validators accepts. -/
def ofAny (validators : List (Validator σ)) (description : String) :
    Except Failure (Validator σ) :=
  if validators.isEmpty then
    .error (.configuration "AnyValidator needs at least one validator" none)
  else .ok (any validators (describe description "At least one validation must pass"))

/-! ### Display -/

/-- The name of a validator's kind. -/
def kindName : Validator σ → String
  | matching .. => "RegexMatchValidator"
  | notMatching .. => "RegexNoMatchValidator"
  | keywords .. => "KeywordValidator"
  | length .. => "LengthValidator"
  | shaped .. => "SchemaValidator"
  | function .. => "FunctionValidator"
  | all .. => "AllValidator"
  | any .. => "AnyValidator"

/-- What a validator asks for. -/
def description : Validator σ → String
  | matching _ d | notMatching _ d | keywords _ _ _ d | length _ _ d | shaped _ d | function _ d
  | all _ d | any _ d => d

/-- A validator's kind and description. -/
def display (v : Validator σ) : String :=
  v.kindName ++ "(" ++ Text.quoted v.description ++ ")"

end Validator

end Colloquy
