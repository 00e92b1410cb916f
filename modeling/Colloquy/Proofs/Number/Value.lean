import Colloquy.Number.Arithmetic
import Colloquy.Proofs.Number.Decimal
import Colloquy.Proofs.Number.Difference

/-!
# Values of numbers

The value of an integer or of a double is a rational number, or infinite (`Num.value?`).  A double has as many units as
its reading says (`rank_eq_reading`), so numbers of both kinds are compared by their values (`Num.lt_iff_value`).
-/

namespace Colloquy

namespace Number

open Float.Model (UnpackedFloat Format)
open Float.Model.UnpackedFloat (Sign)

/-! ### Ranks and readings -/

theorem toNat_unpackSign (bits : BitVec Format.binary64.numBits) :
    (UnpackedFloat.unpackSign bits).toNat = bits.toNat / 2 ^ 63 := by
  have hbits : bits.toNat < 2 ^ 64 := bits.isLt
  unfold UnpackedFloat.unpackSign
  rw [BitVec.toNat_cast, BitVec.extractLsb_toNat, Nat.shiftRight_eq_div_pow]
  show bits.toNat / 2 ^ 63 % 2 = _
  omega

/-- A number of units below zero or above. -/
def signed (negative : Bool) (n : Nat) : Int := if negative then -n else n

theorem apply_unpackSign (bits : BitVec Format.binary64.numBits) (n : Nat) :
    (Sign.ofBitVec (UnpackedFloat.unpackSign bits)).apply n = signed (bits.toNat / 2 ^ 63 == 1) n := by
  have hbits : bits.toNat < 2 ^ 64 := bits.isLt
  have hsign := toNat_unpackSign bits
  unfold Sign.ofBitVec signed
  split_ifs with hpositive hone hone
  · rw [hpositive] at hsign
    rw [beq_iff_eq, ← hsign] at hone
    exact absurd hone (by decide)
  · rfl
  · rfl
  · rw [beq_iff_eq] at hone
    refine absurd (BitVec.eq_of_toNat_eq (hsign.trans ?_)) hpositive
    show bits.toNat / 2 ^ 63 = 0
    omega

/-- The units that a reading stands for. -/
def Reading.units? : Reading → Option Int
  | .finite negative significand exponent => some (signed negative (magnitude significand exponent))
  | .infinite negative => some (signed negative limit)
  | .undefined => none

/-- **The rank of a double** is what its reading says. -/
theorem rank_eq_reading (x : Float) : rank x = (Reading.ofFloat x).units? := by
  obtain ⟨bits, hbits⟩ : ∃ bits : BitVec Format.binary64.numBits, bits = x.toModel.toBits.toBitVec := ⟨_, rfl⟩
  have hnat : x.toBits.toNat = bits.toNat := by rw [hbits]; rfl
  have hexponent := toNat_unpackExponent bits
  have hmantissa := toNat_unpackMantissa bits
  have hsign := apply_unpackSign bits
  have hhalf : Nat.pow 2 52 = 2 ^ 52 := rfl
  have hpow : Nat.pow 2 63 = 2 ^ 63 := rfl
  show units (UnpackedFloat.unpack Format.binary64 x.toModel.toBits.toBitVec) = _
  unfold UnpackedFloat.unpack Reading.ofFloat
  rw [← hbits, hnat, hhalf, hpow]
  dsimp only
  rw [← hexponent, ← hmantissa]
  have hfull : UnpackedFloat.unpackExponent bits = -1#11 ↔
      ((UnpackedFloat.unpackExponent bits).toNat == 2047) = true := by
    rw [beq_iff_eq, ← BitVec.toNat_inj]
    rfl
  have hleast : UnpackedFloat.unpackExponent bits = 0#11 ↔
      ((UnpackedFloat.unpackExponent bits).toNat == 0) = true := by
    rw [beq_iff_eq, ← BitVec.toNat_inj]
    rfl
  have hzero : UnpackedFloat.unpackMantissa bits = 0#52 ↔
      ((UnpackedFloat.unpackMantissa bits).toNat == 0) = true := by
    rw [beq_iff_eq, ← BitVec.toNat_inj]
    rfl
  -- Both look at the exponent field first: whether all of its bits are set, or none.
  by_cases hfield : UnpackedFloat.unpackExponent bits = -1#11
  · rw [if_pos hfield, if_pos (hfull.1 hfield)]
    by_cases hnone : UnpackedFloat.unpackMantissa bits = 0#52
    · rw [if_pos hnone, if_pos (hzero.1 hnone)]
      exact congrArg some (hsign limit)
    · rw [if_neg hnone, if_neg (mt hzero.2 hnone)]
      rfl
  rw [if_neg hfield, if_neg (mt hfull.2 hfield)]
  by_cases hsmall : UnpackedFloat.unpackExponent bits = 0#11
  · rw [if_pos hsmall, if_pos (hleast.1 hsmall)]
    by_cases hnone : UnpackedFloat.unpackMantissa bits = 0#52
    · have hnil : signed (bits.toNat / 2 ^ 63 == 1) 0 = 0 := by
        unfold signed
        split_ifs <;> rfl
      rw [dif_pos hnone, hnone]
      show some 0 = some (signed _ (magnitude 0 (-1074)))
      rw [magnitude, Nat.zero_mul, hnil]
    · have hexponent' : ((UnpackedFloat.unpackExponent bits).toNat : Int) -
          (Format.binary64.exponentBias + (52 : Nat)) + 1 = -1074 := by
        rw [hsmall]
        rfl
      rw [dif_neg hnone]
      show some (Sign.apply _ (magnitude _ _)) = some (signed _ _)
      rw [hsign, ← hexponent']
  · have hexponent' : ((UnpackedFloat.unpackExponent bits).toNat : Int) -
        (Format.binary64.exponentBias + (52 : Nat)) = (UnpackedFloat.unpackExponent bits).toNat - 1075 := rfl
    rw [if_neg hsmall, if_neg (mt hleast.2 hsmall)]
    show some (Sign.apply _ (magnitude (1#1 ++ UnpackedFloat.unpackMantissa bits).toNat _)) = some (signed _ _)
    rw [hsign, toNat_implicit_append, ← hexponent']

/-! ### Values -/

/-- The value of the least positive double. -/
def least : ℚ := 2 ^ (-1074 : Int)

theorem least_pos : 0 < least := zpow_pos two_pos _

theorem magnitude_mul_least (m : Nat) {e : Int} (he : -1074 ≤ e) : (magnitude m e : ℚ) * least = m * 2 ^ e := by
  obtain ⟨k, hk⟩ : ∃ k : Nat, e + 1074 = k := ⟨(e + 1074).toNat, by omega⟩
  have hexponent : e = k + -1074 := by omega
  rw [magnitude, hk, Int.toNat_natCast, hexponent, zpow_add₀ two_ne_zero, zpow_natCast, Nat.cast_mul, Nat.cast_pow,
    Nat.cast_ofNat, mul_assoc]
  rfl

end Number

namespace Num

open Number

/-- The value of a number; positive infinity is above all others. -/
def value? : Num → Option (WithTop ℚ)
  | int n => some (n : ℚ)
  | float x =>
    match Reading.ofFloat x with
    | .finite negative m e => some (((if negative then -(m : ℚ) else m) * 2 ^ e : ℚ))
    | .infinite false => some ⊤
    | _ => none

variable {x : Float} {v w : WithTop ℚ} {a b : Num}

theorem value?_of_reading {m : Nat} {e : Int} (h : Reading.ofFloat x = .finite false m e) :
    (float x).value? = some ((m * 2 ^ e : ℚ) : WithTop ℚ) := by
  rw [value?, h]
  rfl

/-- A double with a value is positive infinity, or a mantissa at an exponent. -/
theorem reading_of_value (h : (float x).value? = some v) : (Reading.ofFloat x = .infinite false ∧ v = ⊤) ∨
    ∃ negative m e, Reading.ofFloat x = .finite negative m e ∧
      v = (((if negative then -(m : Int) else m : Int) * 2 ^ e : ℚ) : WithTop ℚ) := by
  rw [value?] at h
  cases hreading : Reading.ofFloat x with
  | finite negative m e =>
    rw [hreading] at h
    refine .inr ⟨negative, m, e, rfl, ?_⟩
    rw [← Option.some.inj h]
    cases negative <;> simp
  | infinite negative =>
    rw [hreading] at h
    cases negative with
    | false => exact .inl ⟨rfl, (Option.some.inj h).symm⟩
    | true => exact nomatch h
  | undefined =>
    rw [hreading] at h
    exact nomatch h

/-- The value of a double is that of its units, unless they are those of infinity. -/
theorem value?_float_iff : (float x).value? = some v ↔ (rank x = some (limit : Int) ∧ v = ⊤) ∨
    ∃ r : Int, rank x = some r ∧ r.natAbs < limit ∧ v = ((r * least : ℚ) : WithTop ℚ) := by
  have hpos := limit_pos
  rw [rank_eq_reading, value?]
  cases hreading : Reading.ofFloat x with
  | finite negative m e =>
    obtain ⟨-, hnormalized, hle⟩ := packBits_reading hreading
    have hless := magnitude_lt_limit hnormalized.lt hle
    have hvalue : ((signed negative (magnitude m e) : Int) : ℚ) * least =
        (if negative then -(m : ℚ) else m) * 2 ^ e := by
      cases negative <;> simp [signed, magnitude_mul_least m hnormalized.least]
    have habs : (signed negative (magnitude m e)).natAbs = magnitude m e := by
      cases negative <;> simp [signed]
    constructor
    · rintro ⟨⟩
      exact .inr ⟨_, rfl, by rwa [habs], by rw [hvalue]⟩
    · rintro (⟨hrank, -⟩ | ⟨r, hrank, -, rfl⟩)
      · have hsame : signed negative (magnitude m e) = limit := Option.some.inj hrank
        rw [hsame, Int.natAbs_natCast] at habs
        exact absurd hless habs.le.not_gt
      · rw [← Option.some.inj hrank, hvalue]
  | infinite negative =>
    cases negative with
    | false =>
      constructor
      · rintro ⟨⟩
        exact .inl ⟨rfl, rfl⟩
      · rintro (⟨-, rfl⟩ | ⟨r, hrank, hr, -⟩)
        · rfl
        · rw [← Option.some.inj hrank] at hr
          exact absurd hr (lt_irrefl limit)
    | true =>
      refine iff_of_false nofun ?_
      rintro (⟨hrank, -⟩ | ⟨r, hrank, hr, -⟩)
      · have hsame : -(limit : Int) = limit := Option.some.inj hrank
        omega
      · have hsame : -(limit : Int) = r := Option.some.inj hrank
        omega
  | undefined => exact iff_of_false nofun (by simp [Reading.units?])

/-! ### Comparison -/

/-- Integers are compared with scaled ones by bringing both to integers. -/
theorem lt_scaled_iff (n m : Int) (e : Int) :
    (if 0 ≤ e then n < m * Nat.pow 2 e.toNat else n * Nat.pow 2 (-e).toNat < m) ↔ (n : ℚ) < m * 2 ^ e := by
  split_ifs with he
  · obtain ⟨k, rfl⟩ := Int.eq_ofNat_of_zero_le he
    have hpow : ((m * Nat.pow 2 k : Int) : ℚ) = m * 2 ^ k := by exact_mod_cast rfl
    rw [Int.toNat_natCast, ← Int.cast_lt (R := ℚ), hpow, zpow_natCast]
  · obtain ⟨k, rfl⟩ : ∃ k : Nat, e = -k := ⟨(-e).toNat, by omega⟩
    have hpow : ((n * Nat.pow 2 k : Int) : ℚ) = n * 2 ^ k := by exact_mod_cast rfl
    rw [neg_neg, Int.toNat_natCast, ← Int.cast_lt (R := ℚ), hpow, zpow_neg, zpow_natCast, ← div_eq_mul_inv,
      lt_div_iff₀ (by positivity)]

theorem scaled_lt_iff (n m : Int) (e : Int) :
    (if 0 ≤ e then m * Nat.pow 2 e.toNat < n else m < n * Nat.pow 2 (-e).toNat) ↔ m * 2 ^ e < (n : ℚ) := by
  split_ifs with he
  · obtain ⟨k, rfl⟩ := Int.eq_ofNat_of_zero_le he
    have hpow : ((m * Nat.pow 2 k : Int) : ℚ) = m * 2 ^ k := by exact_mod_cast rfl
    rw [Int.toNat_natCast, ← Int.cast_lt (R := ℚ), hpow, zpow_natCast]
  · obtain ⟨k, rfl⟩ : ∃ k : Nat, e = -k := ⟨(-e).toNat, by omega⟩
    have hpow : ((n * Nat.pow 2 k : Int) : ℚ) = n * 2 ^ k := by exact_mod_cast rfl
    rw [neg_neg, Int.toNat_natCast, ← Int.cast_lt (R := ℚ), hpow, zpow_neg, zpow_natCast, ← div_eq_mul_inv,
      div_lt_iff₀ (by positivity)]

theorem intLtFloat_iff {n : Int} (h : (float x).value? = some w) :
    intLtFloat n x = true ↔ ((n : ℚ) : WithTop ℚ) < w := by
  unfold intLtFloat
  rcases reading_of_value h with ⟨hreading, rfl⟩ | ⟨negative, m, e, hreading, rfl⟩
  · rw [hreading]
    exact iff_of_true rfl (WithTop.coe_lt_top _)
  · rw [hreading, WithTop.coe_lt_coe, ← lt_scaled_iff]
    dsimp only
    split_ifs <;> rw [decide_eq_true_iff]

theorem floatLtInt_iff {n : Int} (h : (float x).value? = some w) :
    floatLtInt x n = true ↔ w < ((n : ℚ) : WithTop ℚ) := by
  unfold floatLtInt
  rcases reading_of_value h with ⟨hreading, rfl⟩ | ⟨negative, m, e, hreading, rfl⟩
  · rw [hreading]
    exact iff_of_false nofun not_top_lt
  · rw [hreading, WithTop.coe_lt_coe, ← scaled_lt_iff]
    dsimp only
    split_ifs <;> rw [decide_eq_true_iff]

theorem floatLtFloat_iff {y : Float} (hx : (float x).value? = some v) (hy : (float y).value? = some w) :
    x < y ↔ v < w := by
  rw [lt_iff_rank]
  rcases value?_float_iff.1 hx with ⟨hrank, rfl⟩ | ⟨r, hrank, hr, rfl⟩
  · refine iff_of_false ?_ not_top_lt
    rintro ⟨i, j, hi, hj, hless⟩
    have htop := natAbs_rank_le hj
    rw [hrank] at hi
    obtain rfl : (limit : Int) = i := Option.some.inj hi
    omega
  · rcases value?_float_iff.1 hy with ⟨hrank', rfl⟩ | ⟨s, hrank', -, rfl⟩
    · exact iff_of_true ⟨r, limit, hrank, hrank', by omega⟩ (WithTop.coe_lt_top _)
    · rw [WithTop.coe_lt_coe, mul_lt_mul_iff_left₀ least_pos, Int.cast_lt]
      constructor
      · rintro ⟨i, j, hi, hj, hless⟩
        rwa [Option.some.inj (hrank.symm.trans hi), Option.some.inj (hrank'.symm.trans hj)]
      · exact fun hless => ⟨r, s, hrank, hrank', hless⟩

/-- **Numbers of both kinds** are compared by their values. -/
theorem lt_iff_value (ha : a.value? = some v) (hb : b.value? = some w) : a.lt b = true ↔ v < w := by
  cases a with
  | int n =>
    obtain rfl : ((n : ℚ) : WithTop ℚ) = v := Option.some.inj ha
    cases b with
    | int m =>
      obtain rfl : ((m : ℚ) : WithTop ℚ) = w := Option.some.inj hb
      rw [lt, decide_eq_true_iff, WithTop.coe_lt_coe, Int.cast_lt]
    | float y => exact intLtFloat_iff hb
  | float x =>
    cases b with
    | int m =>
      obtain rfl : ((m : ℚ) : WithTop ℚ) = w := Option.some.inj hb
      exact floatLtInt_iff ha
    | float y =>
      rw [lt, decide_eq_true_iff]
      exact floatLtFloat_iff ha hb

end Num

end Colloquy
