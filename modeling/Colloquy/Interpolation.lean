import Colloquy.Text.Find
import Colloquy.Value.Display

/-!
# Interpolation

A template is a text with placeholders between pairs of braces.  `Piece.scan` cuts a text into literal
characters and placeholders, `Objects.follow` follows the names of a dotted path through mappings and attributes,
and `interpolateVars` puts the text of what is found in the place of each placeholder; a placeholder for which
nothing is found stays as it is.  Text that comes from a value is not scanned again.

What there is to be found is up to the language of the callers: `Objects` says which things are mappings, which
attributes the others have, and how they are written.  `interpolate` is the case of vars that are values.
-/

namespace Colloquy

/-! ### Pieces -/

/-- A part of a template. -/
inductive Piece where
  | literal (c : Char)
  /-- A placeholder, without its braces. -/
  | placeholder (inner : List Char)
  deriving DecidableEq, Repr

namespace Piece

/-- The placeholder that a text starts with, and what follows it: two braces, one or more characters other
than a closing brace, and two closing braces. -/
def front? : List Char → Option (List Char × List Char)
  | '\x7b' :: '\x7b' :: cs =>
    match cs.takeWhile (· ≠ '\x7d'), cs.dropWhile (· ≠ '\x7d') with
    | c :: inner, '\x7d' :: '\x7d' :: rest => some (c :: inner, rest)
    | _, _ => none
  | _ => none

theorem length_of_front? {cs inner rest : List Char} (h : front? cs = some (inner, rest)) :
    rest.length < cs.length := by
  unfold front? at h
  split at h
  · rename_i tail
    split at h
    · rename_i c inner' rest' _ hd
      obtain ⟨-, rfl⟩ := Prod.mk.inj (Option.some.inj h)
      have := (List.dropWhile_sublist (fun d => decide (d ≠ '\x7d')) (l := tail)).length_le
      rw [hd] at this
      simp only [List.length_cons] at this ⊢
      omega
    · simp at h
  · simp at h

/-- Cuts a text into pieces from the left. -/
def scan (cs : List Char) : List Piece :=
  match cs with
  | [] => []
  | c :: tail =>
    match h : front? (c :: tail) with
    | some (inner, rest) =>
      have := length_of_front? h
      placeholder inner :: scan rest
    | none => literal c :: scan tail
termination_by cs.length
decreasing_by
  · assumption
  · exact Nat.lt_succ_self _

/-- A piece as it stands in the template. -/
def source : Piece → List Char
  | literal c => [c]
  | placeholder inner => '\x7b' :: '\x7b' :: inner ++ ['\x7d', '\x7d']

end Piece

/-! ### Paths -/

/-- What paths lead through: mappings, and what has attributes. -/
structure Objects (ω : Type) where
  /-- What a mapping answers to each name, null for one that it does not have; none for what is no mapping. -/
  mapping? : ω → Option (String → ω)
  /-- The attribute with a name of what is no mapping. -/
  attribute? : ω → String → Option ω
  isNull : ω → Bool
  text : ω → String

namespace Objects

variable {ω : Type} (o : Objects ω)

/-- What a name leads to: the answer of a mapping, or an attribute of anything else. -/
def part? (v : ω) (name : String) : Option ω :=
  match o.mapping? v with
  | some get => some (get name)
  | none => o.attribute? v name

/-- Follows names one after the other. -/
def follow (v : ω) (names : List String) : Option ω := names.foldlM o.part? v

end Objects

/-- The names of a dotted path. -/
def pathNames (path : List Char) : List String :=
  (Text.splitOn '.' path).map String.ofList

/-! ### Templates -/

/-- What stands for a piece: the text of what the path of a placeholder leads to, or the piece itself. -/
def Piece.fill {ω : Type} (o : Objects ω) (vars : ω) : Piece → List Char
  | literal c => [c]
  | placeholder inner =>
    match o.follow vars (pathNames (Text.trim inner)) with
    | none => (placeholder inner).source
    | some v => if o.isNull v then (placeholder inner).source else (o.text v).toList

/-- Fills the placeholders of a template. -/
def interpolateVars {ω : Type} (o : Objects ω) (template : String) (vars : ω) : String :=
  String.ofList ((Piece.scan template.toList).flatMap (Piece.fill o vars))

/-! ### Values and other things -/

/-- A value, or anything else that there is, by its address. -/
inductive Thing where
  | value (v : Value)
  | other (address : Nat)
  deriving Inhabited

/-- What there is besides values, and the attributes of all that there is. -/
structure Things where
  mapping? : Nat → Option (String → Thing)
  attribute? : Thing → String → Option Thing
  text : Nat → String

namespace Things

/-- The attributes of an integer. -/
def partOfInteger? (n : Int) (name : String) : Option Value :=
  if name = "real" ∨ name = "numerator" then some (.int n)
  else if name = "imag" then some (.int 0)
  else if name = "denominator" then some (.int 1)
  else none

/-- Nothing besides values, of which only numbers have attributes. -/
def numeric : Things where
  mapping? _ := none
  attribute?
    | .value (.bool b), name => (partOfInteger? (if b then 1 else 0) name).map .value
    | .value (.int n), name => (partOfInteger? n name).map .value
    | .value (.float x), "real" => some (.value (.float x))
    | .value (.float _), "imag" => some (.value (.float 0.0))
    | _, _ => none
  text _ := ""

/-- Values and other things as what paths lead through.  Objects are mappings. -/
def objects (things : Things) : Objects Thing where
  mapping?
    | .value (.object entries) => some fun name => .value ((Assoc.lookup name entries).getD .null)
    | .value _ => none
    | .other address => things.mapping? address
  attribute? := things.attribute?
  isNull
    | .value .null => true
    | _ => false
  text
    | .value v => v.text
    | .other address => things.text address

end Things

/-- Fills the placeholders of a template from vars. -/
def interpolate (things : Things) (template : String) (vars : Entries) : String :=
  interpolateVars things.objects template (.value (.object vars))

/-- Whether a template has placeholders. -/
def hasPlaceholders (template : String) : Bool :=
  (Piece.scan template.toList).any fun
    | .placeholder _ => true
    | .literal _ => false

end Colloquy
