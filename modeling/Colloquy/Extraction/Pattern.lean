import Colloquy.Pattern.Basic
import Colloquy.Run
import Colloquy.Value.Display

/-!
# Extracting by patterns

A rule looks for a pattern in the messages of some roles, the oldest first, and names the var that takes
what the first match hands on.  All rules look at the session as it was; what they find is written at once,
and a rule that finds nothing and has no default leaves its var alone.
-/

namespace Colloquy

/-! ### Roles and patterns as they are given -/

/-- The role that a value names. -/
def Role.ofValue : Value → Except Failure Role
  | v =>
    let unknown : Failure := .configuration
      s!"Unknown message role: {v.literal} is not a valid MessageRole" (some "ValueError")
    match v with
    | .str word =>
      match Role.ofWord? word with
      | some role => .ok role
      | none => .error unknown
    | _ => .error unknown

/-- A pattern as it is given: as a text still to be read, or read. -/
inductive PatternInput where
  | source (text : String)
  | ready (pattern : Pattern)

/-- The kind of failure that a text amounts to which is no pattern. -/
def Pattern.Fault.failure (source : String) (fault : Pattern.Fault) : Failure :=
  match fault.cause with
  | .largeRepeat => .fault .overflow (fault.message source)
  | _ => .badPattern (fault.message source)

/-- Reads a pattern with flags. -/
def Pattern.read (source : String) (flags : Pattern.Flags) : Except Failure Pattern :=
  match Pattern.ofText source flags with
  | .ok p => .ok p
  | .error fault => .error (fault.failure source)

/-- The pattern that is given. -/
def PatternInput.resolve : PatternInput → Except Failure Pattern
  | source text => Pattern.read text {}
  | ready pattern => .ok pattern

/-! ### Rules -/

/-- Where a var's value is found. -/
structure PatternRule (σ : Type) where
  pattern : Pattern
  key : String
  roles : List Role
  /-- What is made of the text that was found; null stands for a group that took no part. -/
  transform : Option (Value → Run σ Value) := none
  /-- What is stored if nothing is found. -/
  default : Option Value := none

namespace PatternRule

variable {σ : Type}

/-- A rule of a pattern and roles as they are given. -/
def make (pattern : PatternInput) (key : String) (roles : List Value)
    (transform : Option (Value → Run σ Value)) (default : Option Value) :
    Except Failure (PatternRule σ) := do
  let pattern ← pattern.resolve
  let roles ← roles.mapM Role.ofValue
  return { pattern, key, roles, transform, default }

/-- A rule that stands alone and needs a key to do so. -/
def alone (pattern : PatternInput) (key : String) (roles : List Value)
    (transform : Option (Value → Run σ Value)) (default : Option Value) :
    Except Failure (PatternRule σ) :=
  if key = "" then
    .error (.configuration "extract_pattern needs a key when given a bare pattern" none)
  else make pattern key roles transform default

/-- What the oldest matching message hands on. -/
def found? (rule : PatternRule σ) (messages : List Message) : Option (Option String) :=
  (messages.filter (rule.roles.contains ·.role)).findSome? fun m => rule.pattern.captured? m.content

/-- The value of a rule in a session, if it has one. -/
def value? (rule : PatternRule σ) (s : Session) : Run σ (Option Value) :=
  match rule.found? s.messages with
  | none => return rule.default
  | some text =>
    match rule.transform with
    | none => return some (.ofText? text)
    | some transform => do return some (← transform (.ofText? text))

end PatternRule

/-! ### Extraction -/

variable {σ : Type}

/-- The vars that rules have values for. -/
def patternFindings (s : Session) : List (PatternRule σ) → Entries → Run σ Entries
  | [], found => return found
  | rule :: rest, found => do
    match ← rule.value? s with
    | none => patternFindings s rest found
    | some v => patternFindings s rest (found.insert rule.key v)

/-- Keys in ascending order. -/
def sortedKeys (found : Entries) : List String :=
  found.keys.mergeSort (fun a b => decide (a ≤ b))

/-- Stores the values of rules in the vars of a session. -/
def extractPatterns (rules : List (PatternRule σ)) (s : Session) : Run σ Session := do
  let found ← patternFindings s rules []
  if found.isEmpty then return s
  Run.log (.patternExtracted (sortedKeys found))
  return s.withVars found

/-- The extraction by one or more rules. -/
def patternExtraction (rules : List (PatternRule σ)) :
    Except Failure (Session → Run σ Session) :=
  if rules.isEmpty then
    .error (.configuration "extract_pattern needs at least one rule" none)
  else .ok (extractPatterns rules)

end Colloquy
