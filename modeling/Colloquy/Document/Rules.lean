import Colloquy.Extraction.Markdown
import Colloquy.Validator.Basic
import Colloquy.Value.Access
import Colloquy.Value.Convert

/-!
# Rules as documents

Patterns, extraction rules and validators can be written as values: a pattern is its text, or an object with
the text and letters for flags; a rule and a validator are objects, the latter with the word for their kind.
Functions that judge content are no part of a document and are supplied by the caller.
-/

namespace Colloquy.Document

variable {σ : Type}

/-! ### Patterns -/

/-- The flags that letters stand for. -/
def flags (letters : String) : Pattern.Flags where
  ignoreCase := letters.contains 'i'
  multiline := letters.contains 'm'
  dotAll := letters.contains 's'
  ascii := letters.contains 'a'
  verbose := letters.contains 'x'

/-- The pattern that a value writes: a text, to which the given letters apply, or an object with its own. -/
def pattern (letters : String) : Value → Except Failure Pattern
  | .str s => Pattern.read s (flags letters)
  | v => Pattern.read (v.word "re") (flags (v.word "flags"))

/-- A pattern that is read only when its rule is made, if it is a text. -/
def patternInput : Value → Except Failure PatternInput
  | .str s => .ok (.source s)
  | v => .ready <$> pattern "" v

/-! ### Extraction -/

/-- The roles of the messages that a rule looks at; the assistant's, if none are named. -/
def roles (v : Value) : List Value := (v.field? "roles").elim [.str "assistant"] Value.items

/-- What a word makes of the text that was found. -/
def conversion (word : String) (found : Value) : Except Failure Value :=
  match word, found with
  | "int", v => .int <$> v.toInteger
  | "upper", .str s => .ok (.str (Text.upper s))
  | "strip", .str s => .ok (.str (Text.trimmed s))
  | "len", .str s => .ok (.int s.length)
  | "len", v => .error (.fault .wrongType s!"object of type '{v.kindName}' has no len()")
  | name, v => .error (.fault .noAttribute s!"'{v.kindName}' object has no attribute '{name}'")

/-- An extraction rule. -/
def patternRule (alone : Bool) (v : Value) : Except Failure (PatternRule σ) := do
  let input ← patternInput (v.field "pattern")
  let transform : Option (Value → Run σ Value) := (v.field "transform").text?.map fun word found =>
    Run.ofExcept (conversion word found)
  let make := if alone then PatternRule.alone else PatternRule.make
  make input (v.word "key") (roles v) transform (v.field? "default")

/-- The extraction by the rules of a document, or by the one rule that it is. -/
def patternExtraction (v : Value) : Except Failure (Session → Run σ Session) := do
  match v.field? "rules" with
  | some rules =>
    let rules := if v.flag "single" then rules.items.take 1 else rules.items
    Colloquy.patternExtraction (← rules.mapM (patternRule false))
  | none => Colloquy.patternExtraction [← patternRule true v]

/-- The extraction of sections and code blocks. -/
def markupExtraction (v : Value) : Except Failure (Session → Run σ Session) := do
  let vars (name : String) : Assoc String := (v.field name).entries.map fun (k, x) => (k, x.text)
  return extractMarkdown (← MarkupRule.make (vars "headings") (vars "code_blocks") (roles v))

/-! ### Validators -/

/-- What a document's validators refer to. -/
structure Judges (σ : Type) where
  /-- The shape with a name. -/
  shape : String → Shape
  /-- What a function says about content. -/
  function : Value → Value → Session → Run σ Finding

/-- A validator with parts that `inner` reads. -/
def validatorOver (judges : Judges σ) (inner : Value → Except Failure (Validator σ)) (v : Value) :
    Except Failure (Validator σ) := do
  let description := v.word "description"
  let letters := v.word "flags"
  let words (name : String) := (v.field name).items.map Value.text
  match v.word "v" with
  | "regex_match" => return .ofPattern (← pattern letters (v.field "pattern")) description
  | "regex_no_match" => return .ofBannedPattern (← pattern letters (v.field "pattern")) description
  | "keyword" =>
    Validator.ofKeywords (words "include") (words "exclude") (v.flag "case_sensitive") description
  | "length" => Validator.ofLength (v.field "min").integer? (v.field "max").integer? description
  | "schema" => return .ofShape (judges.shape (v.word "model")) description
  | "all" => Validator.ofAll (← (v.field "validators").items.mapM inner) description
  | "any" => Validator.ofAny (← (v.field "validators").items.mapM inner) description
  | _ =>
    let judge := judges.function (v.field "fn")
    return if (v.field? "description").isSome then .ofFunction judge description
      else .ofFunction judge

/-- A validator whose parts are nested no deeper than the first argument says. -/
def validatorWithin (judges : Judges σ) : Nat → Value → Except Failure (Validator σ)
  | 0 => validatorOver judges fun _ => .error (.configuration "nested too deeply" none)
  | n + 1 => validatorOver judges (validatorWithin judges n)

/-- A validator. -/
def validator (judges : Judges σ) (v : Value) : Except Failure (Validator σ) :=
  validatorWithin judges v.depth v

end Colloquy.Document
