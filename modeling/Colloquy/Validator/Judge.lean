import Colloquy.Validator.Basic

/-!
# Judging content

`Validator.judge` runs a validator.  A combination asks its validators one after the other: `all` stops at
the first rejection and hands it on, `any` stops at the first acceptance and otherwise joins the
instructions.  Content is a text as a rule; a leaf that meets anything else which it cannot judge fails.
-/

namespace Colloquy.Validator

variable {σ : Type}

/-! ### Leaves -/

/-- The text in which a pattern is searched. -/
def searchable (content : Value) : Except Failure String :=
  match content with
  | .str s => .ok s
  | v => .error (.fault .wrongType
      s!"expected string or bytes-like object, got '{v.kindName}'")

/-- The content with its case removed. -/
def folded (content : Value) : Except Failure Value :=
  match content with
  | .str s => .ok (.str (Text.lower s))
  | v => .error (.fault .noAttribute s!"'{v.kindName}' object has no attribute 'lower'")

/-- Whether content holds a word: as a part of a text, or as an item or key. -/
def holds (content : Value) (word : String) : Except Failure Bool :=
  match content with
  | .str s => .ok (Text.holds s word)
  | .list items => .ok (items.any (Value.same (.str word)))
  | .object entries => .ok (Assoc.lookup word entries).isSome
  | v => .error (.fault .wrongType s!"argument of type '{v.kindName}' is not iterable")

/-- The words that content holds, or those that it does not hold. -/
def filterHeld (held caseSensitive : Bool) (content : Value) :
    List String → Except Failure (List String)
  | [] => .ok []
  | w :: rest => do
    let found ← holds content (if caseSensitive then w else Text.lower w)
    let others ← filterHeld held caseSensitive content rest
    return if found = held then w :: others else others

/-- Judges the keywords in content. -/
def judgeKeywords (wanted banned : List String) (caseSensitive : Bool) (description : String)
    (content : Value) : Except Failure Verdict := do
  let content ← if caseSensitive then pure content else folded content
  let missing ← filterHeld false caseSensitive content wanted
  if !missing.isEmpty then
    return .reject (describe description ("Content must include: " ++ ", ".intercalate missing))
  let found ← filterHeld true caseSensitive content banned
  if !found.isEmpty then
    return .reject (describe description ("Content must not include: " ++ ", ".intercalate found))
  return .accept

/-- Judges the length of content. -/
def judgeLength (least most : Option Int) (description : String) (content : Value) :
    Except Failure Verdict :=
  match content.size? with
  | none =>
    .error (.fault .wrongType s!"object of type '{content.kindName}' has no len()")
  | some n =>
    match least.filter ((n : Int) < ·), most.filter (· < (n : Int)) with
    | some l, _ =>
      .ok (.reject (describe description s!"Content is too short ({n} chars); use at least {l}"))
    | none, some m =>
      .ok (.reject (describe description s!"Content is too long ({n} chars); use at most {m}"))
    | none, none => .ok .accept

/-- Judges content as a JSON text of a shape. -/
def judgeShape (shape : Shape) (description : String) (content : Value) : Verdict :=
  match shape.readText content with
  | .ok _ => .accept
  | .error issues => .reject s!"{description} ({Issue.summarize issues})"

/-! ### Combinations -/

/-- The instruction of a combination none of whose validators accepts. -/
def joinInstructions (description : String) (instructions : List String) : String :=
  let detail := "; ".intercalate instructions
  if detail = "" then description else description ++ ": " ++ detail

mutual

/-- Judges content in the context of a session. -/
def judge : Validator σ → Value → Session → Run σ Verdict
  | matching pattern description, content, _ => do
    let s ← Run.ofExcept (searchable content)
    return if (pattern.search? s).isSome then .accept else .reject description
  | notMatching pattern description, content, _ => do
    let s ← Run.ofExcept (searchable content)
    return if (pattern.search? s).isSome then .reject description else .accept
  | keywords wanted banned caseSensitive description, content, _ =>
    Run.ofExcept (judgeKeywords wanted banned caseSensitive description content)
  | length least most description, content, _ =>
    Run.ofExcept (judgeLength least most description content)
  | shaped shape description, content, _ => return judgeShape shape description content
  | function f description, content, session => do
    match ← f content session with
    | .verdict v => return v
    | .value v => return if v.truthy then .accept else .reject description
  | all validators _, content, session => judgeAll validators content session
  | any validators description, content, session =>
    judgeAny description [] validators content session

/-- Judges by all validators: the first rejection, or acceptance. -/
def judgeAll : List (Validator σ) → Value → Session → Run σ Verdict
  | [], _, _ => return .accept
  | v :: rest, content, session => do
    let verdict ← judge v content session
    if verdict.isValid then judgeAll rest content session else return verdict

/-- Judges by any validator: the first acceptance, or a rejection with the instructions of all. -/
def judgeAny (description : String) (instructions : List String) :
    List (Validator σ) → Value → Session → Run σ Verdict
  | [], _, _ => return .reject (joinInstructions description instructions)
  | v :: rest, content, session => do
    let verdict ← judge v content session
    if verdict.isValid then return verdict
    else
      judgeAny description (instructions ++ (verdict.instruction.filter (· ≠ "")).toList) rest
        content session

end

end Colloquy.Validator
