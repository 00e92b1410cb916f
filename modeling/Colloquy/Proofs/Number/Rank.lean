import Mathlib.Order.Compare
import Mathlib.Tactic.NormNum
import Mathlib.Tactic.Ring

/-!
# The order of doubles

`rank` counts a double in units of the least positive one; the infinities stand where the next power of two
beyond the finite doubles would, and an undefined number has no rank.  Doubles are compared as their ranks
are (`lt_iff_rank`, `le_iff_rank`), so those that are defined are in order like the integers, up to the sign
of zero.
-/

namespace Colloquy.Number

open Float.Model (UnpackedFloat Format)
open Float.Model.UnpackedFloat (Sign)

/-! ### Magnitudes -/

/-- The units that a mantissa amounts to at an exponent, of which −1074 is the least. -/
def magnitude (m : Nat) (e : Int) : Nat := m * 2 ^ (e + 1074).toNat

/-- The units at which the finite doubles end. -/
@[irreducible]
def limit : Nat := magnitude (2 ^ 53) 971

/-- A mantissa of 53 bits, or of fewer at the least exponent. -/
structure Normalized (m : Nat) (e : Int) : Prop where
  lt : m < 2 ^ 53
  least : -1074 ≤ e
  full : 2 ^ 52 ≤ m ∨ e = -1074

theorem magnitude_pos {m : Nat} (hm : 0 < m) (e : Int) : 0 < magnitude m e :=
  Nat.mul_pos hm (Nat.two_pow_pos _)

theorem magnitude_lt_limit {m : Nat} {e : Int} (hm : m < 2 ^ 53) (he : e ≤ 971) :
    magnitude m e < limit := by
  unfold limit
  calc magnitude m e < magnitude (2 ^ 53) e := Nat.mul_lt_mul_of_pos_right hm (Nat.two_pow_pos _)
    _ ≤ magnitude (2 ^ 53) 971 :=
        Nat.mul_le_mul_left _ (Nat.pow_le_pow_right (by decide) (by omega))

/-- A mantissa of 53 bits at a greater exponent is at least the first power of two with more bits. -/
theorem magnitude_two_pow_le {m : Nat} {e₁ e₂ : Int} (hm : 2 ^ 52 ≤ m) (he₁ : -1074 ≤ e₁)
    (he : e₁ < e₂) : magnitude (2 ^ 53) e₁ ≤ magnitude m e₂ := by
  calc magnitude (2 ^ 53) e₁ = 2 ^ (53 + (e₁ + 1074).toNat) := (Nat.pow_add ..).symm
    _ ≤ 2 ^ (52 + (e₂ + 1074).toNat) := Nat.pow_le_pow_right (by decide) (by omega)
    _ = 2 ^ 52 * 2 ^ (e₂ + 1074).toNat := Nat.pow_add ..
    _ ≤ magnitude m e₂ := Nat.mul_le_mul_right _ hm

theorem limit_le_magnitude {m : Nat} {e : Int} (hm : 2 ^ 52 ≤ m) (he : 971 < e) :
    limit ≤ magnitude m e := by
  unfold limit
  exact magnitude_two_pow_le hm (by decide) he

theorem limit_pos : 0 < limit := by
  unfold limit
  exact magnitude_pos (Nat.two_pow_pos _) _

theorem Normalized.magnitude_lt {m₁ m₂ : Nat} {e₁ e₂ : Int} (h₁ : Normalized m₁ e₁)
    (h₂ : Normalized m₂ e₂) (he : e₁ < e₂) : magnitude m₁ e₁ < magnitude m₂ e₂ := by
  have hleast := h₁.least
  have hfull : 2 ^ 52 ≤ m₂ := h₂.full.resolve_right (by omega)
  calc magnitude m₁ e₁ < magnitude (2 ^ 53) e₁ :=
        Nat.mul_lt_mul_of_pos_right h₁.lt (Nat.two_pow_pos _)
    _ ≤ magnitude m₂ e₂ := magnitude_two_pow_le hfull hleast he

/-- Normalized magnitudes are compared by exponent first. -/
theorem Normalized.compare_magnitude {m₁ m₂ : Nat} {e₁ e₂ : Int} (h₁ : Normalized m₁ e₁)
    (h₂ : Normalized m₂ e₂) :
    (compare e₁ e₂).then (compare m₁ m₂) = compare (magnitude m₁ e₁) (magnitude m₂ e₂) := by
  -- A greater exponent means a full mantissa, which outweighs any mantissa of the lesser one.
  rcases lt_trichotomy e₁ e₂ with he | rfl | he
  · rw [compare_lt_iff_lt.2 he, compare_lt_iff_lt.2 (h₁.magnitude_lt h₂ he)]
    rfl
  · have hstrict : StrictMono fun m => magnitude m e₁ := fun m n h =>
      Nat.mul_lt_mul_of_pos_right h (Nat.two_pow_pos _)
    have hsame : compare e₁ e₁ = .eq := compare_eq_iff_eq.2 rfl
    rw [hsame, ← cmp_eq_compare, ← cmp_eq_compare, ← hstrict.cmp_map_eq]
    rfl
  · rw [compare_gt_iff_gt.2 he, compare_gt_iff_gt.2 (h₂.magnitude_lt h₁ he)]
    rfl

/-! ### Signs -/

/-- Signed naturals are compared by sign first. -/
theorem compare_apply (s t : Sign) {a b : Nat} (ha : 0 < a) (hb : 0 < b) :
    compare (s.apply a) (t.apply b) =
      match s, t with
      | .negative, .negative => (compare a b).swap
      | .negative, .positive => .lt
      | .positive, .negative => .gt
      | .positive, .positive => compare a b := by
  cases s with
  | negative =>
    cases t with
    | negative =>
      have hanti : StrictAnti fun n : Nat => -(n : Int) := fun m n h =>
        Int.neg_lt_neg (Int.ofNat_lt.2 h)
      show compare (-(a : Int)) (-(b : Int)) = (compare a b).swap
      rw [← cmp_eq_compare, ← cmp_eq_compare, cmp_swap]
      exact hanti.cmp_map_eq a b
    | positive => exact compare_lt_iff_lt.2 (show -(a : Int) < b by omega)
  | positive =>
    cases t with
    | negative => exact compare_gt_iff_gt.2 (show -(b : Int) < a by omega)
    | positive =>
      have hmono : StrictMono fun n : Nat => (n : Int) := fun m n h => Int.ofNat_lt.2 h
      rw [← cmp_eq_compare, ← cmp_eq_compare]
      exact hmono.cmp_map_eq a b

theorem compare_apply_zero (s : Sign) {a : Nat} (ha : 0 < a) :
    compare (s.apply a) 0 = match s with
      | .negative => .lt
      | .positive => .gt := by
  cases s with
  | negative => exact compare_lt_iff_lt.2 (show -(a : Int) < 0 by omega)
  | positive => exact compare_gt_iff_gt.2 (show (0 : Int) < a by omega)

theorem compare_zero_apply (s : Sign) {a : Nat} (ha : 0 < a) :
    compare 0 (s.apply a) = match s with
      | .negative => .gt
      | .positive => .lt := by
  cases s with
  | negative => exact compare_gt_iff_gt.2 (show -(a : Int) < 0 by omega)
  | positive => exact compare_lt_iff_lt.2 (show (0 : Int) < a by omega)

/-! ### Unpacked doubles -/

/-- An unpacked double in units, unless it is undefined. -/
def units : UnpackedFloat → Option Int
  | .notANumber => none
  | .infinity s => some (s.apply limit)
  | .zero _ => some 0
  | .finite s m e _ => some (s.apply (magnitude m e))

/-- An unpacked double as doubles are written: a finite one has a normalized mantissa and no exponent out of
range. -/
def Canonical : UnpackedFloat → Prop
  | .finite _ m e _ => Normalized m e ∧ e ≤ 971
  | _ => True

theorem toNat_implicit_append (mantissa : BitVec 52) :
    (1#1 ++ mantissa).toNat = 2 ^ 52 + mantissa.toNat := by
  have hbits := Nat.two_pow_add_eq_or_of_lt mantissa.isLt 1
  rw [Nat.mul_one] at hbits
  exact (BitVec.toNat_append ..).trans hbits.symm

theorem canonical_unpack (x : Float.Model) : Canonical x.unpack := by
  unfold Float.Model.unpack UnpackedFloat.unpack
  extract_lets mantissa field exponent
  have hmantissa : mantissa.toNat < 2 ^ 52 := mantissa.isLt
  have hfield : field.toNat < 2048 := field.isLt
  have hexponent : exponent = field.toNat - 1075 := rfl
  by_cases hfull : field = -1#11
  · rw [if_pos hfull]
    by_cases hzero : mantissa = 0#52
    · rw [if_pos hzero]
      trivial
    · rw [if_neg hzero]
      trivial
  rw [if_neg hfull]
  have hless : field.toNat ≠ 2047 := fun h => hfull (BitVec.eq_of_toNat_eq h)
  by_cases hsmall : field = 0#11
  · rw [if_pos hsmall]
    have hleast : field.toNat = 0 := congrArg BitVec.toNat hsmall
    by_cases hzero : mantissa = 0#52
    · rw [dif_pos hzero]
      trivial
    · rw [dif_neg hzero]
      exact ⟨⟨by omega, by omega, .inr (by omega)⟩, by omega⟩
  · rw [if_neg hsmall]
    have hpos : field.toNat ≠ 0 := fun h => hsmall (BitVec.eq_of_toNat_eq h)
    show Normalized (1#1 ++ mantissa).toNat exponent ∧ exponent ≤ 971
    rw [toNat_implicit_append]
    exact ⟨⟨by omega, by omega, .inl (by omega)⟩, by omega⟩

/-- **Comparing doubles.** Canonical doubles are compared as their units are, and an undefined one is not
comparable at all. -/
theorem compare_eq_units {x y : UnpackedFloat} (hx : Canonical x) (hy : Canonical y) :
    x.compare y = Option.map₂ compare (units x) (units y) := by
  cases x with
  | notANumber => cases y <;> rfl
  | infinity s =>
    cases y with
    | notANumber => cases s <;> rfl
    | infinity t =>
      show some (compare s t) = some (compare (s.apply limit) (t.apply limit))
      have hsame : compare limit limit = .eq := compare_eq_iff_eq.2 rfl
      rw [compare_apply s t limit_pos limit_pos, hsame]
      cases s <;> cases t <;> rfl
    | zero t =>
      show _ = some (compare (s.apply limit) 0)
      rw [compare_apply_zero s limit_pos]
      cases s <;> rfl
    | finite t m e hm =>
      have hgt : compare limit (magnitude m e) = .gt :=
        compare_gt_iff_gt.2 (magnitude_lt_limit hy.1.lt hy.2)
      show _ = some (compare (s.apply limit) (t.apply (magnitude m e)))
      rw [compare_apply s t limit_pos (magnitude_pos hm e), hgt]
      cases s <;> cases t <;> rfl
  | zero s =>
    cases y with
    | notANumber => rfl
    | infinity t =>
      show _ = some (compare 0 (t.apply limit))
      rw [compare_zero_apply t limit_pos]
      cases t <;> rfl
    | zero t => rfl
    | finite t m e hm =>
      show _ = some (compare 0 (t.apply (magnitude m e)))
      rw [compare_zero_apply t (magnitude_pos hm e)]
      cases t <;> rfl
  | finite s m e hm =>
    cases y with
    | notANumber => cases s <;> rfl
    | infinity t =>
      have hlt : compare (magnitude m e) limit = .lt :=
        compare_lt_iff_lt.2 (magnitude_lt_limit hx.1.lt hx.2)
      show _ = some (compare (s.apply (magnitude m e)) (t.apply limit))
      rw [compare_apply s t (magnitude_pos hm e) limit_pos, hlt]
      cases s <;> cases t <;> rfl
    | zero t =>
      show _ = some (compare (s.apply (magnitude m e)) 0)
      rw [compare_apply_zero s (magnitude_pos hm e)]
      cases s <;> rfl
    | finite t n f hn =>
      show _ = some (compare (s.apply (magnitude m e)) (t.apply (magnitude n f)))
      rw [compare_apply s t (magnitude_pos hm e) (magnitude_pos hn f),
        ← hx.1.compare_magnitude hy.1]
      cases s <;> cases t <;> rfl

/-! ### Doubles -/

/-- A double in units of the least positive one, unless it is undefined. -/
def rank (x : Float) : Option Int := units x.toModel.unpack

/-- **The order of doubles.** A double is less than another one if both are defined and its rank is less. -/
theorem lt_iff_rank {x y : Float} :
    x < y ↔ ∃ i j, rank x = some i ∧ rank y = some j ∧ i < j := by
  have hlt : x < y ↔ x.toModel.unpack.compare y.toModel.unpack = some .lt := by
    show decide ((x.toModel.unpack.compare y.toModel.unpack == some .lt) = true) = true ↔ _
    rw [decide_eq_true_iff, beq_iff_eq]
  rw [hlt, compare_eq_units (canonical_unpack _) (canonical_unpack _), Option.map₂_eq_some_iff]
  simp only [compare_lt_iff_lt]
  rfl

/-- A double is at most another one if both are defined and its rank is at most the other's. -/
theorem le_iff_rank {x y : Float} :
    x ≤ y ↔ ∃ i j, rank x = some i ∧ rank y = some j ∧ i ≤ j := by
  have hle : x ≤ y ↔ ∃ o, x.toModel.unpack.compare y.toModel.unpack = some o ∧ o.isLE := by
    show decide ((x.toModel.unpack.compare y.toModel.unpack).any (·.isLE) = true) = true ↔ _
    rw [decide_eq_true_iff, Option.any_eq_true]
  rw [hle, compare_eq_units (canonical_unpack _) (canonical_unpack _)]
  simp only [Option.map₂_eq_some_iff]
  constructor
  · rintro ⟨o, ⟨i, j, hi, hj, rfl⟩, ho⟩
    exact ⟨i, j, hi, hj, compare_le_iff_le.1 (Ordering.isLE_iff_ne_gt.1 ho)⟩
  · rintro ⟨i, j, hi, hj, hij⟩
    exact ⟨compare i j, ⟨i, j, hi, hj, rfl⟩, Ordering.isLE_iff_ne_gt.2 (compare_le_iff_le.2 hij)⟩

theorem not_lt_of_le {x y : Float} (h : x ≤ y) : ¬ y < x := by
  intro hless
  obtain ⟨i, j, hi, hj, hij⟩ := le_iff_rank.1 h
  obtain ⟨j', i', hj', hi', hji⟩ := lt_iff_rank.1 hless
  obtain rfl : i = i' := Option.some.inj (hi.symm.trans hi')
  obtain rfl : j = j' := Option.some.inj (hj.symm.trans hj')
  exact hji.not_ge hij

/-- What is at most something is a number, and so at most itself. -/
theorem le_self_of_le {x y : Float} (h : x ≤ y) : y ≤ y := by
  obtain ⟨i, j, hi, hj, hij⟩ := le_iff_rank.1 h
  exact le_iff_rank.2 ⟨j, j, hj, hj, le_rfl⟩

theorem le_of_lt {x y : Float} (h : x < y) : x ≤ y := by
  obtain ⟨i, j, hi, hj, hij⟩ := lt_iff_rank.1 h
  exact le_iff_rank.2 ⟨i, j, hi, hj, hij.le⟩

theorem lt_of_le_of_lt {x y z : Float} (h : x ≤ y) (h' : y < z) : x < z := by
  obtain ⟨i, j, hi, hj, hij⟩ := le_iff_rank.1 h
  obtain ⟨j', k, hj', hk, hjk⟩ := lt_iff_rank.1 h'
  obtain rfl : j = j' := Option.some.inj (hj.symm.trans hj')
  exact lt_iff_rank.2 ⟨i, k, hi, hk, hij.trans_lt hjk⟩

theorem lt_trans {x y z : Float} (h : x < y) (h' : y < z) : x < z :=
  lt_of_le_of_lt (le_of_lt h) h'

theorem rank_eq_none_iff {x : Float} : rank x = none ↔ x.isNaN := by
  show units x.toModel.unpack = none ↔ x.toModel.unpack.isNaN = true
  cases x.toModel.unpack with
  | notANumber => exact iff_of_true rfl rfl
  | infinity s => exact iff_of_false (Option.some_ne_none _) Bool.false_ne_true
  | zero s => exact iff_of_false (Option.some_ne_none _) Bool.false_ne_true
  | finite s m e hm => exact iff_of_false (Option.some_ne_none _) Bool.false_ne_true

/-- Of two doubles that are defined, one is at most the other if the other is not less. -/
theorem le_of_not_lt {x y : Float} (hx : ¬ x.isNaN) (hy : ¬ y.isNaN) (h : ¬ y < x) : x ≤ y := by
  rw [← rank_eq_none_iff, ← ne_eq, Option.ne_none_iff_exists'] at hx hy
  obtain ⟨i, hi⟩ := hx
  obtain ⟨j, hj⟩ := hy
  refine le_iff_rank.2 ⟨i, j, hi, hj, not_lt.1 fun hji => ?_⟩
  exact h (lt_iff_rank.2 ⟨j, i, hj, hi, hji⟩)

end Colloquy.Number
