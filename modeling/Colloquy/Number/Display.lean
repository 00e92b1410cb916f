import Colloquy.Number.Shortest

/-!
# The text of numbers

A double is written with the fewest digits that read back, positionally while the decimal point falls
within `Layout.leastPoint` and `Layout.greatestPoint`, and otherwise with one digit before the point and an
exponent.  `plain` is the layout of displayed values and of JSON alike.
-/

namespace Colloquy.Number

/-- How the digits of a double are set out. -/
structure Layout where
  /-- The least position of the decimal point, counted from the first digit, that is written out. -/
  leastPoint : Int
  /-- The greatest position of the decimal point that is written out. -/
  greatestPoint : Int
  /-- The number of digits to which exponents are filled up. -/
  exponentWidth : Nat
  infinite : String
  undefined : String

/-- Points from three places before the digits to sixteen places into them are written out; exponents
have a sign and at least two digits. -/
def plain : Layout := ⟨-3, 16, 2, "inf", "nan"⟩

/-- Digits with zeros in front up to a width. -/
def padLeft (width : Nat) (s : String) : String :=
  String.ofList (List.replicate (width - s.length) '0') ++ s

/-- The unsigned text of `digits` with the decimal point after `point` of them. -/
def Layout.arrange (layout : Layout) (digits : List Char) (point : Int) : String :=
  let count : Int := digits.length
  if layout.leastPoint ≤ point ∧ point ≤ layout.greatestPoint then
    if point ≤ 0 then
      "0." ++ String.ofList (List.replicate (-point).toNat '0') ++ String.ofList digits
    else if count ≤ point then
      String.ofList (digits ++ List.replicate (point - count).toNat '0') ++ ".0"
    else
      String.ofList (digits.take point.toNat) ++ "." ++ String.ofList (digits.drop point.toNat)
  else
    let fraction := digits.drop 1
    let mantissa := String.ofList (digits.take 1) ++
      if fraction.isEmpty then "" else "." ++ String.ofList fraction
    let exponent := point - 1
    mantissa ++ "e" ++ (if exponent < 0 then "-" else "+") ++
      padLeft layout.exponentWidth (toString exponent.natAbs)

/-- The text of a double. -/
def Layout.display (layout : Layout) (x : Float) : String :=
  match Reading.ofFloat x with
  | .undefined => layout.undefined
  | .infinite negative => (if negative then "-" else "") ++ layout.infinite
  | .finite negative significand exponent =>
    let sign := if negative then "-" else ""
    if significand == 0 then sign ++ "0.0"
    else
      let d := shortest significand exponent
      let digits := Nat.toDigits 10 d.digits
      sign ++ layout.arrange digits (digits.length + d.exponent)

/-- The text of a double in the plain layout. -/
def display (x : Float) : String := plain.display x

/-- The double nearest to the multiple of `10 ^ -places` that lies nearest to `x`, a half going to the even
multiple. -/
def roundPlaces (places : Nat) (x : Float) : Float :=
  match Reading.ofFloat x with
  -- A double is a ratio of integers, so it is scaled and rounded without any error.
  | .finite negative significand exponent =>
    let scaled := significand * Nat.pow 10 places
    let multiple := if 0 ≤ exponent then scaled * Nat.pow 2 exponent.toNat
      else divideToEven scaled (Nat.pow 2 (-exponent).toNat)
    ofDecimal negative multiple (-(places : Int))
  | _ => x

end Colloquy.Number
