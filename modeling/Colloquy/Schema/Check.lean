import Colloquy.Number.Arithmetic
import Colloquy.Number.Reader
import Colloquy.Schema.Issue

/-!
# Checks

A `Check` reads something out of a value or lists all that is wrong with it.  Checks of several fields are
put together by `field` and its kin so that the issues of every field are listed, in the order of the
fields.  Scalars are read leniently: numbers from text that writes them, integers from doubles without a
fraction, booleans from their usual words; texts are read from nothing but texts.
-/

namespace Colloquy

/-- What was read, or everything that is wrong. -/
abbrev Checked (α : Type) := Except (List Issue) α

/-- A reading of values. -/
abbrev Check (α : Type) := Value → Checked α

namespace Checked

/-- Both results, or the issues of both. -/
def both {α β : Type} : Checked α → Checked β → Checked (α × β)
  | .ok a, .ok b => .ok (a, b)
  | .ok _, .error is => .error is
  | .error is, .ok _ => .error is
  | .error is, .error js => .error (is ++ js)

/-- A misfit of the whole value. -/
def misfit {α : Type} (m : Misfit) (v : Value) : Checked α := .error [⟨[], m, v⟩]

/-- The issues seen from one level further out. -/
def within {α : Type} (step : String) : Checked α → Checked α
  | .ok a => .ok a
  | .error issues => .error (issues.map (·.within step))

/-- All results, or all issues. -/
def all {α : Type} : List (Checked α) → Checked (List α)
  | [] => .ok []
  | c :: rest => (both c (all rest)).map fun (a, as) => a :: as

theorem both_eq_ok_iff {α β : Type} {a : Checked α} {b : Checked β} {p : α × β} :
    both a b = .ok p ↔ a = .ok p.1 ∧ b = .ok p.2 := by
  cases a <;> cases b <;> simp [both, Prod.ext_iff]

end Checked

namespace Check

/-! ### Scalars -/

/-- A text. -/
def text : Check String
  | .str s => .ok s
  | v => .misfit .notText v

/-- Any value. -/
def any : Check Value := .ok

/-- An object. -/
def mapping : Check Entries
  | .object entries => .ok entries
  | v => .misfit .notMapping v

/-- One of a list of words. -/
def word {α : Type} (ofText? : String → Option α) (words : List String) : Check α
  | .str s =>
    match ofText? s with
    | some a => .ok a
    | none => .misfit (.notAmong words) (.str s)
  | v => .misfit (.notAmong words) v

/-- Whether low lines stand only between other characters, one at a time. -/
def separated (cs : List Char) : Bool :=
  cs.head? != some '_' && cs.getLast? != some '_' && !(cs.zip (cs.drop 1)).contains ('_', '_')

/-- The double that a text writes, low lines between digits included. -/
def floatOfText? (s : String) : Option Float :=
  let cs := Text.trim s.toList
  if cs.any (fun c => 127 < c.toNat) || !separated cs then none
  else Number.readFloat? (String.ofList (cs.filter (· ≠ '_')))

/-- A number, as a double. -/
def number : Check Float
  | .float x => .ok x
  | .int n => .ok (Number.ofRatio (decide (n < 0)) n.natAbs 1)
  | .bool b => .ok (if b then 1.0 else 0.0)
  | .str s =>
    match floatOfText? s with
    | some x => .ok x
    | none => .misfit .notNumberText (.str s)
  | v => .misfit .notNumber v

/-- A text without the zeros of an empty fraction. -/
def dropEmptyFraction (cs : List Char) : List Char :=
  let fraction := cs.dropWhile (· ≠ '.')
  if (fraction.drop 1).all (· = '0') then cs.takeWhile (· ≠ '.') else cs

/-- The integer that a text writes, low lines between digits and an empty fraction included. -/
def integerOfText? (s : String) : Option Int :=
  let cs := dropEmptyFraction (Text.trim s.toList)
  if cs.any (fun c => 127 < c.toNat) || cs.any Text.isBlank then none
  else
    match Number.readInteger (String.ofList cs) with
    | .ok n => some n
    | .error _ => none

/-- Whether a double lies within the integers of sixty-four bits. -/
def isWordSized (x : Float) : Bool :=
  -9223372036854775808.0 < x && x < 9223372036854775808.0

/-- An integer. -/
def integer : Check Int
  | .int n => .ok n
  | .bool b => .ok (if b then 1 else 0)
  | .float x =>
    match Number.truncate? x with
    | none => .misfit .notFinite (.float x)
    | some n =>
      -- A double beyond sixty-four bits is refused as if it had a fraction.
      if Num.same (.int n) (.float x) && isWordSized x then .ok n
      else .misfit .fractional (.float x)
  | .str s =>
    match integerOfText? s with
    | some n => .ok n
    | none => .misfit .notIntegerText (.str s)
  | v => .misfit .notInteger v

/-- The boolean that a word stands for. -/
def booleanOfText? (s : String) : Option Bool :=
  let s := String.ofList (s.toList.map Char.toLower)
  if ["0", "off", "f", "false", "n", "no"].contains s then some false
  else if ["1", "on", "t", "true", "y", "yes"].contains s then some true
  else none

/-- The boolean of an integer that a value is, which is unclear for all but zero and one; an integer of more than
sixty-four bits is none at all. -/
def booleanOfInteger (n : Int) : Check Bool := fun v =>
  if n = 0 then .ok false
  else if n = 1 then .ok true
  else if -9223372036854775808 ≤ n ∧ n < 9223372036854775808 then .misfit .unclearBoolean v
  else .misfit .notBoolean v

/-- A boolean. -/
def boolean : Check Bool
  | .bool b => .ok b
  | .int n => booleanOfInteger n (.int n)
  | .float x =>
    match integer (.float x) with
    | .ok n => booleanOfInteger n (.float x)
    | .error _ => .misfit .notBoolean (.float x)
  | .str s =>
    match booleanOfText? s with
    | some b => .ok b
    | none => .misfit .unclearBoolean (.str s)
  | v => .misfit .notBoolean v

/-! ### Composites -/

/-- Null, or what another check reads. -/
def optional {α : Type} (check : Check α) : Check (Option α)
  | .null => .ok none
  | v => (check v).map some

/-- Checks the items of a list, naming their positions. -/
def items {α : Type} (check : Check α) (vs : List Value) : Checked (List α) :=
  .all (vs.mapIdx fun i v => (check v).within (toString i))

/-- A list of what another check reads. -/
def list {α : Type} (check : Check α) : Check (List α)
  | .list vs => items check vs
  | v => .misfit .notList v

/-- A list that stands for a fixed sequence. -/
def sequence {α : Type} (check : Check α) : Check (List α)
  | .list vs => items check vs
  | v => .misfit .notTuple v

/-- A field of an object that has to be there. -/
def required {α : Type} (entries : Entries) (name : String) (check : Check α) : Checked α :=
  match Assoc.lookup name entries with
  | none => .error [⟨[name], .missing, .object entries⟩]
  | some v => (check v).within name

/-- A field of an object that may be missing. -/
def field {α : Type} (entries : Entries) (name : String) (default : α) (check : Check α) :
    Checked α :=
  match Assoc.lookup name entries with
  | none => .ok default
  | some v => (check v).within name

end Check

end Colloquy
