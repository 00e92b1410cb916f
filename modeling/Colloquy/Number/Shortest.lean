import Colloquy.Number.Binary64

/-!
# The fewest digits that read back

`shortest` gives a finite nonzero double as an integer times a power of ten with as few digits as
possible: on the grid of one digit, then two, and so on, it tries the two neighbours of the value, the
nearer one first, and takes the first that reads back as the same double.
-/

namespace Colloquy.Number

/-- The integer `digits` times `10 ^ exponent`. -/
structure Decimal where
  digits : Nat
  exponent : Int
  deriving DecidableEq, Repr

/-- The number of decimal digits. -/
def digitCount (n : Nat) : Nat :=
  (Nat.toDigits 10 n).length

/-- The least `j` above `start`, within `fuel` steps, at which `num * 10 ^ j` reaches `den`. -/
def leadingZeros (num den : Nat) : Nat → Nat → Nat
  | 0, j => j
  | fuel + 1, j => if den ≤ num * Nat.pow 10 j then j else leadingZeros num den fuel (j + 1)

/-- The position `k` of the decimal point: `10 ^ (k - 1) ≤ num / den < 10 ^ k`. -/
def pointPosition (num den : Nat) : Int :=
  if den ≤ num then digitCount (num / den) else 1 - (leadingZeros num den 400 0 : Int)

/-- The two neighbours of `num / den` among the multiples of `10 ^ exponent`, the nearer one first and an
even one before an odd one at the same distance. -/
def neighbours (num den : Nat) (exponent : Int) : List Decimal :=
  let (num, den) :=
    if 0 ≤ exponent then (num, den * Nat.pow 10 exponent.toNat)
    else (num * Nat.pow 10 (-exponent).toNat, den)
  let below := num / den
  let twice := 2 * (num % den)
  let lower : Decimal := ⟨below, exponent⟩
  let upper : Decimal := ⟨below + 1, exponent⟩
  if twice < den || (twice == den && below % 2 == 0) then [lower, upper] else [upper, lower]

/-- A decimal without trailing zero digits. -/
def stripTens : Nat → Decimal → Decimal
  | 0, d => d
  | fuel + 1, d =>
    if d.digits % 10 == 0 then stripTens fuel ⟨d.digits / 10, d.exponent + 1⟩ else d

/-- All digits of `significand * 2 ^ exponent`. -/
def exactDecimal (significand : Nat) (exponent : Int) : Decimal :=
  if 0 ≤ exponent then ⟨significand * Nat.pow 2 exponent.toNat, 0⟩
  else ⟨significand * Nat.pow 5 (-exponent).toNat, exponent⟩

/-- The shortest decimal that reads back as the double of value `significand * 2 ^ exponent`. -/
def shortest (significand : Nat) (exponent : Int) : Decimal :=
  let (num, den) :=
    if 0 ≤ exponent then (significand * Nat.pow 2 exponent.toNat, 1)
    else (significand, Nat.pow 2 (-exponent).toNat)
  let target := (ofScaled false significand exponent).toBits
  let point := pointPosition num den
  let found := (List.range 17).findSome? fun i =>
    (neighbours num den (point - (i + 1 : Nat))).find? fun d =>
      (ofDecimal false d.digits d.exponent).toBits == target
  stripTens 20 (found.getD (exactDecimal significand exponent))

end Colloquy.Number
