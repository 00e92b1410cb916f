/-!
# Doubles as scaled integers

A finite double is a signed integer times a power of two.  `Reading.ofFloat` takes a double apart, and
`ofRatio` puts the double together that lies nearest to a quotient of natural numbers, ties going to the
even significand.  Every conversion between doubles, integers and decimals goes through these two, so that
no operation loses more than the one rounding it names.
-/

namespace Colloquy.Number

/-! ### Taking apart -/

/-- What the bits of a double stand for. -/
inductive Reading where
  /-- `significand * 2 ^ exponent`, negated where `negative`. -/
  | finite (negative : Bool) (significand : Nat) (exponent : Int)
  | infinite (negative : Bool)
  | undefined
  deriving DecidableEq, Repr

/-- The reading of a double's sign, exponent and fraction fields. -/
def Reading.ofFloat (x : Float) : Reading :=
  let bits := x.toBits.toNat
  let negative := bits / Nat.pow 2 63 == 1
  let field : Nat := bits / Nat.pow 2 52 % 2048
  let fraction : Nat := bits % Nat.pow 2 52
  if field == 2047 then
    if fraction == 0 then .infinite negative else .undefined
  else if field == 0 then .finite negative fraction (-1074)
  else .finite negative (Nat.pow 2 52 + fraction) ((field : Int) - 1075)

/-- Whether a double is neither infinite nor undefined. -/
def isFinite (x : Float) : Bool :=
  match Reading.ofFloat x with
  | .finite .. => true
  | _ => false

/-! ### Putting together -/

/-- `num / den` rounded to a natural number, a half going to the even neighbour. -/
def divideToEven (num den : Nat) : Nat :=
  let quotient := num / den
  let twice := 2 * (num % den)
  if twice < den then quotient
  else if den < twice then quotient + 1
  else if quotient % 2 == 0 then quotient
  else quotient + 1

/-- `num / (den * 2 ^ exponent)` rounded to a natural number. -/
def scaledQuotient (num den : Nat) (exponent : Int) : Nat :=
  if 0 ≤ exponent then divideToEven num (den * Nat.pow 2 exponent.toNat)
  else divideToEven (num * Nat.pow 2 (-exponent).toNat) den

/-- The bits of the double of value `significand * 2 ^ exponent`, for a significand of at most 53 bits
that has all 53 unless the exponent is the least one, or of one more power of two. -/
def packBits (negative : Bool) (significand : Nat) (exponent : Int) : Nat :=
  let sign := if negative then Nat.pow 2 63 else 0
  let (significand, exponent) :=
    if significand == Nat.pow 2 53 then (Nat.pow 2 52, exponent + 1) else (significand, exponent)
  if significand < Nat.pow 2 52 then sign + significand
  else
    let field := (exponent + 1075).toNat
    if 2047 ≤ field then sign + 2047 * Nat.pow 2 52
    else sign + field * Nat.pow 2 52 + (significand - Nat.pow 2 52)

/-- The exponent at which the quotient of `num` by `den` has a significand of 53 bits, or the least
exponent of a double. -/
def quotientExponent (num den : Nat) : Int :=
  let guess : Int := (num.log2 : Int) - den.log2 - 52
  let exponent :=
    if (if 0 ≤ guess then num < den * Nat.pow 2 (52 + guess.toNat)
        else num * Nat.pow 2 (-guess).toNat < den * Nat.pow 2 52) then guess - 1 else guess
  if exponent < -1074 then -1074 else exponent

/-- The double nearest to `num / den`, ties going to the even significand; infinite beyond the range. -/
def ofRatio (negative : Bool) (num den : Nat) : Float :=
  if num == 0 then Float.ofBits (packBits negative 0 (-1074)).toUInt64
  else
    let exponent := quotientExponent num den
    Float.ofBits (packBits negative (scaledQuotient num den exponent) exponent).toUInt64

/-- The double nearest to `significand * 2 ^ exponent`. -/
def ofScaled (negative : Bool) (significand : Nat) (exponent : Int) : Float :=
  if 0 ≤ exponent then ofRatio negative (significand * Nat.pow 2 exponent.toNat) 1
  else ofRatio negative significand (Nat.pow 2 (-exponent).toNat)

/-- The double nearest to `digits * 10 ^ exponent`. -/
def ofDecimal (negative : Bool) (digits : Nat) (exponent : Int) : Float :=
  if 0 ≤ exponent then ofRatio negative (digits * Nat.pow 10 exponent.toNat) 1
  else ofRatio negative digits (Nat.pow 10 (-exponent).toNat)

/-- The double nearest to an integer, if it is in range. -/
def ofInt? (n : Int) : Option Float :=
  let x := ofRatio (decide (n < 0)) n.natAbs 1
  if isFinite x then some x else none

/-- The integer part of a finite double. -/
def truncate? (x : Float) : Option Int :=
  match Reading.ofFloat x with
  | .finite negative significand exponent =>
    let size := if 0 ≤ exponent then significand * Nat.pow 2 exponent.toNat
      else significand / Nat.pow 2 (-exponent).toNat
    some (if negative then -(size : Int) else size)
  | _ => none

/-! ### Powers -/

/-- A significand without trailing zero bits, with the exponent that makes up for them. -/
def stripTwos : Nat → Nat → Int → Nat × Int
  | 0, significand, exponent => (significand, exponent)
  | fuel + 1, significand, exponent =>
    if significand % 2 == 0 then stripTwos fuel (significand / 2) (exponent + 1)
    else (significand, exponent)

/-- The double nearest to the `n`-th power of `significand * 2 ^ exponent`, which is not zero.  Sixty-four
times the binary logarithm of the base, known within one, tells the powers that are far out of range. -/
def powerOfScaled (negative : Bool) (significand : Nat) (exponent : Int) (n : Nat) : Float :=
  let (significand, exponent) := stripTwos 53 significand exponent
  let magnitude : Int := ((Nat.pow significand 64).log2 : Int) + 64 * exponent
  if 64 * 1100 < n * magnitude then ofScaled negative 1 1100
  else if n * (magnitude + 1) < -(64 * 1200) then ofScaled negative 0 0
  else ofScaled negative (Nat.pow significand n) (exponent * n)

/-- The double nearest to the `n`-th power of a double's exact value. -/
def power (x : Float) (n : Nat) : Float :=
  match Reading.ofFloat x with
  | .finite negative significand exponent =>
    if n == 0 then 1.0
    else
      let negative := negative && n % 2 == 1
      if significand == 0 then ofScaled negative 0 0
      else powerOfScaled negative significand exponent n
  | .infinite negative =>
    if n == 0 then 1.0 else if negative && n % 2 == 1 then x else x.abs
  | .undefined => if n == 0 then 1.0 else x

/-- The double nearest to the reciprocal of the `n`-th power of a double's exact value, which is not zero. -/
def powerInverse (x : Float) (n : Nat) : Float :=
  match Reading.ofFloat x with
  | .finite negative significand exponent =>
    let (significand, exponent) := stripTwos 53 significand exponent
    let magnitude : Int := ((Nat.pow significand 64).log2 : Int) + 64 * exponent
    let negative := negative && n % 2 == 1
    if 64 * 1200 < n * magnitude then ofScaled negative 0 0
    else if n * (magnitude + 1) < -(64 * 1100) then ofScaled negative 1 1100
    else if 0 ≤ exponent then ofRatio negative 1 (Nat.pow significand n * Nat.pow 2 (exponent.toNat * n))
    else ofRatio negative (Nat.pow 2 ((-exponent).toNat * n)) (Nat.pow significand n)
  | .infinite negative => ofScaled (negative && n % 2 == 1) 0 0
  | .undefined => x

end Colloquy.Number
