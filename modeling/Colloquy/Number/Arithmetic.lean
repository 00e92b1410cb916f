import Colloquy.Number.Binary64
import Colloquy.Value.Basic

/-!
# Numbers of both kinds

Integers are unbounded and exact, doubles round; where both meet, the integer becomes a double.  What
can fail is named by `Fault`: an integer or a power beyond the range of doubles, a negative power of zero,
and an operand that is no number.  Comparison is exact between the kinds.
-/

namespace Colloquy

namespace Number

/-- Why an operation on numbers has no result. -/
inductive Fault where
  /-- A power beyond the range of doubles. -/
  | overflow
  /-- An integer beyond the range of doubles. -/
  | tooLarge
  | zeroToNegativePower
  | notNumber
  deriving DecidableEq, Repr

end Number

/-- A number as it was written: an integer or a double. -/
inductive Num where
  | int (n : Int)
  | float (x : Float)
  deriving Inhabited

namespace Num

open Number (Fault)

/-! ### Conversion -/

/-- The double nearest to a number. -/
def toFloat : Num → Except Fault Float
  | int n =>
    match Number.ofInt? n with
    | some x => .ok x
    | none => .error .tooLarge
  | float x => .ok x

/-- A number as a value. -/
def toValue : Num → Value
  | int n => .int n
  | float x => .float x

/-! ### Comparison -/

/-- Whether `n` is less than the double, exactly. -/
def intLtFloat (n : Int) (x : Float) : Bool :=
  match Number.Reading.ofFloat x with
  | .undefined => false
  | .infinite negative => !negative
  | .finite negative significand exponent =>
    let m : Int := if negative then -(significand : Int) else significand
    if 0 ≤ exponent then n < m * Nat.pow 2 exponent.toNat else n * Nat.pow 2 (-exponent).toNat < m

/-- Whether the double is less than `n`, exactly. -/
def floatLtInt (x : Float) (n : Int) : Bool :=
  match Number.Reading.ofFloat x with
  | .undefined => false
  | .infinite negative => negative
  | .finite negative significand exponent =>
    let m : Int := if negative then -(significand : Int) else significand
    if 0 ≤ exponent then m * Nat.pow 2 exponent.toNat < n else m < n * Nat.pow 2 (-exponent).toNat

/-- The order of numbers of both kinds; an undefined number is less than nothing and greater than
nothing. -/
def lt : Num → Num → Bool
  | int a, int b => a < b
  | int a, float b => intLtFloat a b
  | float a, int b => floatLtInt a b
  | float a, float b => a < b

/-- Equality of value between numbers of both kinds. -/
def same : Num → Num → Bool
  | int a, int b => a == b
  | float a, float b => a == b
  | int a, float b => Number.isFinite b && !intLtFloat a b && !floatLtInt b a
  | float a, int b => Number.isFinite a && !intLtFloat b a && !floatLtInt a b

/-- At most, which an undefined number is to nothing. -/
def le (a b : Num) : Bool :=
  a.lt b || a.same b

/-- The smaller of two numbers, the first one unless the second is less. -/
def min (a b : Num) : Num :=
  if b.lt a then b else a

/-! ### Arithmetic -/

/-- The product, exact for two integers. -/
def mul : Num → Num → Except Fault Num
  | int a, int b => .ok (int (a * b))
  | a, b => do
    let x ← a.toFloat
    let y ← b.toFloat
    return float (x * y)

/-- A double to an integer power.  A finite base with a power beyond the range is a fault. -/
def floatPow (x : Float) (n : Int) : Except Fault Num :=
  if n < 0 then
    if x == 0.0 then .error .zeroToNegativePower
    else
      let y := Number.powerInverse x n.natAbs
      if Number.isFinite x && !Number.isFinite y then .error .overflow else .ok (float y)
  else
    let y := Number.power x n.natAbs
    if Number.isFinite x && !Number.isFinite y then .error .overflow else .ok (float y)

/-- The integer power, exact for an integer base and an exponent that is not negative. -/
def pow : Num → Int → Except Fault Num
  | int a, n =>
    if n < 0 then do floatPow (← (int a).toFloat) n
    else .ok (int (Int.pow a n.toNat))
  | float x, n => floatPow x n

/-- What follows an operation has a result only if the operation has one. -/
theorem exists_of_bind_ok {α β : Type} {x : Except Fault α} {k : α → Except Fault β} {b : β}
    (h : x >>= k = .ok b) : ∃ a, x = .ok a ∧ k a = .ok b := by
  cases x with
  | error fault => exact nomatch h
  | ok a => exact ⟨a, rfl, h⟩

end Num

namespace Value

/-- The number that a value is; true and false count as one and zero. -/
def num? : Value → Option Num
  | bool b => some (.int (if b then 1 else 0))
  | int n => some (.int n)
  | float x => some (.float x)
  | _ => none

/-- The number that a value is, or the fault that it is none. -/
def num (v : Value) : Except Number.Fault Num :=
  match v.num? with
  | some n => .ok n
  | none => .error .notNumber

mutual

/-- Equality of values: numbers by value, texts, lists item by item, and objects by key in any order. -/
def same : Value → Value → Bool
  | null, null => true
  | str a, str b => a == b
  | list as, list bs => sameItems as bs
  | object as, object bs => as.length == bs.length && sameEntries as bs
  -- An undefined number is not equal to itself, but the same one found twice is taken to be the same.
  | float x, float y => x == y || x.toBits == y.toBits
  | a, b =>
    match a.num?, b.num? with
    | some x, some y => x.same y
    | _, _ => false

/-- Equality of two lists item by item. -/
def sameItems : List Value → List Value → Bool
  | [], [] => true
  | a :: as, b :: bs => same a b && sameItems as bs
  | _, _ => false

/-- Whether every entry of the first object stands in the second with the same value. -/
def sameEntries : List (String × Value) → List (String × Value) → Bool
  | [], _ => true
  | (k, a) :: as, bs => bs.any (fun (l, b) => k == l && same a b) && sameEntries as bs

end

theorem same_str (a b : String) : (str a).same (str b) = (a == b) := by rw [same]

/-! ### Every value equals itself -/

theorem same_float_self (x : Float) : (float x).same (float x) = true := by
  simp [same]

mutual

theorem same_self : ∀ v : Value, v.same v = true
  | null => by rw [same]
  | bool b => by simp [same, num?, Num.same]
  | int n => by simp [same, num?, Num.same]
  | float x => same_float_self x
  | str s => by simp [same]
  | list items => by rw [same]; exact sameItems_self items
  | object entries => by
    rw [same, beq_self_eq_true, Bool.true_and]
    exact sameEntries_self entries entries (List.Subset.refl _)

theorem sameItems_self : ∀ items : List Value, sameItems items items = true
  | [] => by rw [sameItems]
  | v :: rest => by rw [sameItems, same_self v, sameItems_self rest]; rfl

theorem sameEntries_self : ∀ entries all : List (String × Value), entries ⊆ all →
    sameEntries entries all = true
  | [], _, _ => by rw [sameEntries]
  | (k, v) :: rest, all, h => by
    have hhere : all.any (fun (l, b) => k == l && same v b) = true := by
      rw [List.any_eq_true]
      exact ⟨(k, v), h (List.mem_cons_self ..), by simp [same_self v]⟩
    rw [sameEntries, hhere, sameEntries_self rest all fun _ he => h (List.mem_cons_of_mem _ he)]
    rfl

end

end Value

end Colloquy
