import Colloquy.Number.Binary64
import Colloquy.Text.Chars

/-!
# Reading numbers from text

`readInteger` and `readFloat` accept what people write: blanks around the number, a sign, decimal digits of
any script and single low lines between digits.  Integers of more than `digitLimit` digits are refused.
-/

namespace Colloquy.Number

/-- The greatest number of digits that an integer is read from. -/
def digitLimit : Nat := 4300

/-- Why a text is no integer. -/
inductive IntegerFault where
  | malformed
  | tooLong (digits : Nat)
  deriving DecidableEq, Repr

/-- A text without the low lines that stand between two digits; `afterDigit` tells whether one stands in
front of it. -/
def dropSeparators (afterDigit : Bool) : List Char → List Char
  | [] => []
  | c :: cs =>
    if c = '_' ∧ afterDigit ∧ cs.head?.any Text.isDigit then dropSeparators false cs
    else c :: dropSeparators (Text.isDigit c) cs

/-- The values of the digits that a text starts with, and what follows them. -/
def readDigits : List Char → List Nat × List Char
  | [] => ([], [])
  | c :: cs =>
    match Text.digitValue? c with
    | none => ([], c :: cs)
    | some value =>
      let tail := readDigits cs
      (value :: tail.1, tail.2)

/-- The natural number of a list of digit values. -/
def ofDigits (values : List Nat) : Nat :=
  values.foldl (fun n d => 10 * n + d) 0

/-- Whether a sign is negative, and what follows the sign, if there is one. -/
def readSign : List Char → Bool × List Char
  | '+' :: rest => (false, rest)
  | '-' :: rest => (true, rest)
  | cs => (false, cs)

/-- The integer that a text writes in decimal digits. -/
def readInteger (s : String) : Except IntegerFault Int :=
  let (negative, cs) := readSign (dropSeparators false (Text.trim s.toList))
  match readDigits cs with
  | ([], _) => .error .malformed
  | (values, []) =>
    if digitLimit < values.length then .error (.tooLong values.length)
    else .ok (if negative then -(ofDigits values : Int) else ofDigits values)
  | _ => .error .malformed

/-- The exponent that a text writes after its mark; nothing at all stands for zero. -/
def readExponent? : List Char → Option Int
  | [] => some 0
  | c :: cs =>
    if c = 'e' ∨ c = 'E' then
      let (negative, cs) := readSign cs
      match readDigits cs with
      | ([], _) => none
      | (values, []) => some (if negative then -(ofDigits values : Int) else ofDigits values)
      | _ => none
    else none

/-- The double nearest to `digits * 10 ^ exponent`, without large powers for numbers out of range.  There are at
most `count` digits; some of them may be zeros in front. -/
def ofDecimalBounded (negative : Bool) (digits : Nat) (count : Nat) (exponent : Int) : Float :=
  if digits == 0 then ofDecimal negative 0 0
  else if 400 < exponent then ofScaled negative 1 1100
  else if count + exponent < -400 then ofDecimal negative 0 0
  else ofDecimal negative digits exponent

/-- The double that a text writes, if it writes one: digits with a point and an exponent, or the words for
infinity and for an undefined number in any case. -/
def readFloat? (s : String) : Option Float :=
  let (negative, cs) := readSign (dropSeparators false (Text.trim s.toList))
  let word := String.ofList (cs.map Char.toLower)
  if word == "inf" || word == "infinity" then some (ofScaled negative 1 1100)
  else if word == "nan" then some (0.0 / 0.0)
  else
    let (whole, rest) := readDigits cs
    let (fraction, rest) := match rest with
      | '.' :: rest => readDigits rest
      | rest => ([], rest)
    if whole.isEmpty && fraction.isEmpty then none
    else
      (readExponent? rest).map fun exponent =>
        let values := whole ++ fraction
        ofDecimalBounded negative (ofDigits values) values.length (exponent - fraction.length)

end Colloquy.Number
