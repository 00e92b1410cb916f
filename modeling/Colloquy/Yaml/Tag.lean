import Colloquy.Text.Find
import Colloquy.Value.Convert
import Colloquy.Yaml.Folding

/-!
# Kinds of scalars

What a scalar stands for depends on its tag.  `Tag.ofPlain` finds the tag of a plain scalar by its form:
words for null, true and false in three spellings, integers to the bases two, eight, ten, sixteen and sixty,
and doubles, which need a point.  `Tag.read` reads a scalar with a tag.
-/

namespace Colloquy.Yaml

/-- What a node stands for. -/
inductive Tag where
  | null
  | bool
  | int
  | float
  | text
  | sequence
  | mapping
  /-- A key whose value is merged into the mapping. -/
  | merge
  /-- A key for the value of a mapping. -/
  | default
  deriving DecidableEq, Repr

namespace Tag

/-- The tag of a name. -/
def ofName? : String → Option Tag
  | "null" => some null
  | "bool" => some bool
  | "int" => some int
  | "float" => some float
  | "str" => some text
  | "seq" => some sequence
  | "map" => some mapping
  | "merge" => some merge
  | "value" => some default
  | _ => none

/-! ### Forms of numbers -/

/-- A text without its sign, if it has one. -/
def unsigned : List Char → List Char
  | '+' :: cs => cs
  | '-' :: cs => cs
  | cs => cs

/-- Digits of a kind and low lines. -/
def areDigits (isDigit : Char → Bool) (cs : List Char) : Bool :=
  cs.all fun c => isDigit c || c == '_'

/-- A number below sixty, in one digit or two. -/
def isSixtieth : List Char → Bool
  | [d] => d.isDigit
  | [t, d] => '0' ≤ t && t ≤ '5' && d.isDigit
  | _ => false

/-- A digit and further digits and low lines. -/
def isDecimal : List Char → Bool
  | d :: ds => d.isDigit && areDigits Char.isDigit ds
  | [] => false

/-- Whether a text has the form of an integer. -/
def isInt (cs : List Char) : Bool :=
  match unsigned cs with
  | '0' :: 'b' :: ds => !ds.isEmpty && areDigits (fun c => c == '0' || c == '1') ds
  | '0' :: 'x' :: ds =>
    !ds.isEmpty && areDigits (fun c => c.isDigit || ('a' ≤ c && c ≤ 'f') || ('A' ≤ c && c ≤ 'F')) ds
  | '0' :: ds => areDigits (fun c => '0' ≤ c && c ≤ '7') ds
  | ds =>
    match Text.splitOn ':' ds with
    | first :: sixtieths => isDecimal first && sixtieths.all isSixtieth
    | [] => false

/-- A mark, a sign and digits, or nothing at all. -/
def isExponent : List Char → Bool
  | [] => true
  | e :: sign :: ds =>
    (e == 'e' || e == 'E') && (sign == '+' || sign == '-') && !ds.isEmpty && ds.all Char.isDigit
  | _ => false

/-- Whether a text goes on as a fraction after the point. -/
def isFraction (cs : List Char) : Bool :=
  isExponent (cs.dropWhile fun c => c.isDigit || c == '_')

/-- Whether a text has the form of a double: a number with a point, which has no sign if it starts with the
point, a number to the base sixty with a point, or a word for infinity or for an undefined number. -/
def isFloat (cs : List Char) : Bool :=
  let whole := (unsigned cs).takeWhile (· ≠ '.')
  let rest := (unsigned cs).dropWhile (· ≠ '.')
  match rest with
  | [] => false
  | _ :: fraction =>
    if whole.isEmpty then
      [".inf", ".Inf", ".INF"].contains (String.ofList rest) ||
        (cs.head? == some '.' &&
          ([".nan", ".NaN", ".NAN"].contains (String.ofList rest) ||
            (fraction.head?.any Char.isDigit && isFraction fraction)))
    else
      match Text.splitOn ':' whole with
      | [first] => isDecimal first && isFraction fraction
      | first :: sixtieths =>
        isDecimal first && sixtieths.all isSixtieth && areDigits Char.isDigit fraction
      | [] => false

/-! ### Plain scalars -/

/-- The word in small letters, with a capital or in capitals. -/
def spellings (word : String) : List String :=
  let capital (cs : List Char) : List Char :=
    match cs with
    | [] => []
    | c :: rest => c.toUpper :: rest
  [word, String.ofList (capital word.toList), String.ofList (word.toList.map Char.toUpper)]

/-- The words that count as true. -/
def affirmations : List String := ["yes", "true", "on"]

/-- The words that count as false. -/
def negations : List String := ["no", "false", "off"]

/-- The tag of a plain scalar. -/
def ofPlain (s : String) : Tag :=
  if s = "" || s = "~" || (spellings "null").contains s then null
  else if ((affirmations ++ negations).flatMap spellings).contains s then bool
  else if isInt s.toList then int
  else if isFloat s.toList then float
  else if s = "<<" then merge
  else if s = "=" then default
  else text

/-! ### Reading -/

/-- A sign as a factor, and what follows it. -/
def signed : List Char → Int × List Char
  | '+' :: cs => (1, cs)
  | '-' :: cs => (-1, cs)
  | cs => (1, cs)

/-- The number that digits write to a base. -/
def toBase? (base : Nat) (cs : List Char) : Option Nat :=
  if cs.isEmpty then none
  else
    cs.foldlM (fun n c => (hexValue? c).bind fun d => if d < base then some (base * n + d) else none) 0

/-- The number that digits write to a base, or the failure that they write none. -/
def toBase (base : Nat) (cs : List Char) : Except Failure Int :=
  match toBase? base cs with
  | some n => .ok n
  | none => .error (.fault .badValue (s!"invalid literal for int() with base {base}: " ++
      Text.quoted (String.ofList cs)))

/-- The integer that a text without low lines writes. -/
def readInt (cs : List Char) : Except Failure Int := do
  let (sign, digits) := signed cs
  let size ← match digits with
    | ['0'] => .ok 0
    | '0' :: 'b' :: ds => toBase 2 ds
    | '0' :: 'x' :: ds => toBase 16 ds
    | '0' :: _ => toBase 8 digits
    | _ => do
      let parts ← (Text.splitOn ':' digits).mapM fun part => Number.integerOf (String.ofList part)
      .ok (parts.foldl (fun n d => 60 * n + d) 0)
  return sign * size

/-- The double that a text writes. -/
def readPart (cs : List Char) : Except Failure Float :=
  Value.toDouble (.str (String.ofList cs))

/-- The double that a text without low lines and capitals writes. -/
def readFloat (cs : List Char) : Except Failure Float := do
  let (sign, digits) := signed cs
  let factor := if sign < 0 then -1.0 else 1.0
  match String.ofList digits with
  | ".inf" => return factor * (1.0 / 0.0)
  | ".nan" => return 0.0 / 0.0
  | _ =>
    match Text.splitOn ':' digits with
    | [_] => return factor * (← readPart digits)
    | parts =>
      let parts ← parts.mapM readPart
      let sum := parts.reverse.foldl (fun (sum, unit) d => (sum + d * unit, unit * 60.0)) (0.0, 1.0)
      return factor * sum.1

/-- The value of a scalar with a tag. -/
def read (tag : Tag) (s : String) : Except Failure Value :=
  let digits := s.toList.filter (· ≠ '_')
  match tag with
  | null => .ok .null
  | bool =>
    let word := String.ofList (s.toList.map Char.toLower)
    if affirmations.contains word then .ok (.bool true)
    else if negations.contains word then .ok (.bool false)
    else .error (.fault .missingKey word)
  | int => .int <$> readInt digits
  | float => .float <$> readFloat (digits.map Char.toLower)
  | text => .ok (.str s)
  | _ => refuse

end Tag

end Colloquy.Yaml
