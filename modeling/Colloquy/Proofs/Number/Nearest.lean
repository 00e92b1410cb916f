import Colloquy.Proofs.Number.Rounding
import Mathlib

/-!
# The nearest double

What `ofRatio` makes of a quotient only depends on its value: it is the double nearest to a rational number
(`nearest`, `ofRatio_eq_nearest`).  The bits that it is made of are its own (`toBits_ofBits`), so numbers may be
compared by the bits of their nearest doubles.
-/

namespace Colloquy.Number

open Float.Model (UnpackedFloat Format)

variable {num den a b c d : Nat}

/-! ### Bits of doubles -/

theorem toNat_unpackExponent (bits : BitVec Format.binary64.numBits) :
    (UnpackedFloat.unpackExponent bits).toNat = bits.toNat / 2 ^ 52 % 2048 := by
  unfold UnpackedFloat.unpackExponent
  rw [BitVec.toNat_cast, BitVec.extractLsb_toNat, Nat.shiftRight_eq_div_pow]
  rfl

theorem toNat_unpackMantissa (bits : BitVec Format.binary64.numBits) :
    (UnpackedFloat.unpackMantissa bits).toNat = bits.toNat % 2 ^ 52 := by
  unfold UnpackedFloat.unpackMantissa
  rw [BitVec.toNat_cast, BitVec.extractLsb_toNat, Nat.shiftRight_eq_div_pow, Nat.pow_zero, Nat.div_one]
  rfl

/-- Bits up to those of positive infinity are the bits of the double that they make. -/
theorem toBits_ofBits {n : Nat} (h : n ≤ 2047 * 2 ^ 52) :
    (Float.ofBits n.toUInt64).toBits.toNat = n := by
  have hvalue : n.toUInt64.toNat = n := by
    rw [UInt64.toNat_ofNat']
    omega
  have hvalid : Format.binary64.Valid n.toUInt64.toBitVec := by
    refine ⟨fun hfull hmantissa => absurd (BitVec.eq_of_toNat_eq ?_) hmantissa⟩
    -- With a full exponent there is no room for a mantissa.
    have hfield : n.toUInt64.toBitVec.toNat / 2 ^ 52 % 2048 = 2047 :=
      (toNat_unpackExponent n.toUInt64.toBitVec).symm.trans (congrArg BitVec.toNat hfull)
    refine (toNat_unpackMantissa n.toUInt64.toBitVec).trans ?_
    show n.toUInt64.toNat % 2 ^ 52 = 0
    rw [UInt64.toNat_toBitVec, hvalue] at hfield
    rw [hvalue]
    omega
  have hpack := UnpackedFloat.pack_unpack_of_valid hvalid
  have hbits : (Float.ofBits n.toUInt64).toBits = n.toUInt64 := congrArg UInt64.ofBitVec hpack
  rw [hbits, hvalue]

/-! ### Exponents -/

theorem log_eq {q : ℚ} {k : Int} (hlow : (2 : ℚ) ^ k ≤ q) (hhigh : q < 2 ^ (k + 1)) :
    Int.log 2 q = k := by
  have hpos : 0 < q := lt_of_lt_of_le (zpow_pos (by norm_num) k) hlow
  have hle := (Int.zpow_le_iff_le_log (b := 2) (by decide) hpos).1 (by exact_mod_cast hlow)
  have hlt := (Int.lt_zpow_iff_log_lt (b := 2) (by decide) hpos).1 (by exact_mod_cast hhigh)
  omega

/-- The exponent of the double nearest to a positive number: it leaves a mantissa of 53 bits, unless it is the least
one. -/
def exponentOf (q : ℚ) : Int := max (Int.log 2 q - 52) (-1074)

/-- A quotient lies between the powers of two that the logarithms of its parts name. -/
theorem quotient_bounds (hnum : 0 < num) (hden : 0 < den) :
    (2 : ℚ) ^ ((num.log2 : Int) - den.log2 - 1) ≤ num / den ∧
      (num / den : ℚ) < 2 ^ ((num.log2 : Int) - den.log2 + 1) := by
  have hden' : (0 : ℚ) < den := by exact_mod_cast hden
  have hnumLow : (2 : ℚ) ^ num.log2 ≤ num := by exact_mod_cast Nat.log2_self_le hnum.ne'
  have hnumHigh : (num : ℚ) < 2 ^ (num.log2 + 1) := by exact_mod_cast Nat.lt_log2_self
  have hdenLow : (2 : ℚ) ^ den.log2 ≤ den := by exact_mod_cast Nat.log2_self_le hden.ne'
  have hdenHigh : (den : ℚ) < 2 ^ (den.log2 + 1) := by exact_mod_cast Nat.lt_log2_self
  have hlow : ((num.log2 : Int) - den.log2 - 1) = num.log2 - ((den.log2 + 1 : Nat) : Int) := by
    push_cast
    ring
  have hhigh : ((num.log2 : Int) - den.log2 + 1) = ((num.log2 + 1 : Nat) : Int) - den.log2 := by
    push_cast
    ring
  rw [hlow, hhigh, zpow_sub₀ two_ne_zero, zpow_sub₀ two_ne_zero, zpow_natCast, zpow_natCast,
    zpow_natCast, zpow_natCast]
  constructor
  · rw [div_le_div_iff₀ (by positivity) hden']
    calc (2 : ℚ) ^ num.log2 * den ≤ num * den := by gcongr
      _ ≤ num * 2 ^ (den.log2 + 1) := by gcongr
  · rw [div_lt_div_iff₀ hden' (by positivity)]
    calc (num : ℚ) * 2 ^ den.log2 ≤ num * den := by gcongr
      _ < 2 ^ (num.log2 + 1) * den := by gcongr

/-- The test whether a quotient is below a power of two. -/
theorem lt_shifted_iff (num : Nat) (hden : 0 < den) (k : Int) :
    (if 0 ≤ k then num < den * Nat.pow 2 (52 + k.toNat)
      else num * Nat.pow 2 (-k).toNat < den * Nat.pow 2 52) ↔ (num / den : ℚ) < 2 ^ (52 + k) := by
  have hden' : (0 : ℚ) < den := by exact_mod_cast hden
  rw [div_lt_iff₀ hden']
  split_ifs with hk
  · obtain ⟨n, rfl⟩ := Int.eq_ofNat_of_zero_le hk
    have hexponent : (52 + (n : Int)) = ((52 + n : Nat) : Int) := by push_cast; ring
    rw [hexponent, zpow_natCast, mul_comm]
    exact_mod_cast Iff.rfl
  · obtain ⟨n, rfl⟩ : ∃ n : Nat, k = -n := ⟨(-k).toNat, by omega⟩
    have hpow : (0 : ℚ) < 2 ^ n := by positivity
    rw [neg_neg, Int.toNat_natCast, zpow_add₀ two_ne_zero, zpow_neg, zpow_natCast, mul_right_comm,
      ← div_eq_mul_inv, lt_div_iff₀ hpow, mul_comm _ (den : ℚ)]
    exact_mod_cast Iff.rfl

theorem quotientExponent_eq (hnum : 0 < num) (hden : 0 < den) :
    quotientExponent num den = exponentOf (num / den) := by
  obtain ⟨hlow, hhigh⟩ := quotient_bounds hnum hden
  have hguess := lt_shifted_iff num hden ((num.log2 : Int) - den.log2 - 52)
  have hpower : 52 + ((num.log2 : Int) - den.log2 - 52) = num.log2 - den.log2 := by ring
  rw [hpower] at hguess
  unfold quotientExponent exponentOf
  dsimp only
  rw [max_def]
  by_cases h : (num / den : ℚ) < 2 ^ ((num.log2 : Int) - den.log2)
  · have hlog := log_eq hlow (by rwa [sub_add_cancel])
    rw [if_pos (hguess.2 h)]
    split_ifs <;> omega
  · have hlog := log_eq (not_lt.1 h) hhigh
    rw [if_neg (mt hguess.1 h)]
    split_ifs <;> omega

/-! ### Mantissas -/

theorem divideToEven_congr (hb : 0 < b) (hd : 0 < d) (h : (a / b : ℚ) = c / d) :
    divideToEven a b = divideToEven c d := by
  have hb' : (b : ℚ) ≠ 0 := by exact_mod_cast hb.ne'
  have hd' : (d : ℚ) ≠ 0 := by exact_mod_cast hd.ne'
  have hcross : a * d = c * b := by exact_mod_cast (div_eq_div_iff hb' hd').1 h
  rw [← divideToEven_mul_right a b hd, hcross, Nat.mul_comm b d, divideToEven_mul_right c d hb]

/-- A scaled quotient is rounded as any fraction of its value. -/
theorem scaledQuotient_eq {e : Int} (hden : 0 < den) (hb : 0 < b) (h : (num / den : ℚ) = a / b * 2 ^ e) :
    scaledQuotient num den e = divideToEven a b := by
  unfold scaledQuotient
  split_ifs with he
  · obtain ⟨n, rfl⟩ := Int.eq_ofNat_of_zero_le he
    have hpow : ((den * Nat.pow 2 n : Nat) : ℚ) = den * 2 ^ n := by exact_mod_cast rfl
    refine divideToEven_congr (Nat.mul_pos hden (Nat.two_pow_pos n)) hb ?_
    rw [Int.toNat_natCast, hpow, ← div_div, h, zpow_natCast, mul_div_cancel_right₀ _ (by positivity)]
  · obtain ⟨n, rfl⟩ : ∃ n : Nat, e = -n := ⟨(-e).toNat, by omega⟩
    have hpow : ((num * Nat.pow 2 n : Nat) : ℚ) = num * 2 ^ n := by exact_mod_cast rfl
    refine divideToEven_congr hden hb ?_
    rw [neg_neg, Int.toNat_natCast, hpow, mul_div_right_comm, h, zpow_neg, zpow_natCast, mul_assoc,
      inv_mul_cancel₀ (by positivity), mul_one]

theorem divideToEven_le_two_pow (hb : 0 < b) (h : (a / b : ℚ) < 2 ^ 53) :
    divideToEven a b ≤ 2 ^ 53 := by
  have hb' : (0 : ℚ) < b := by exact_mod_cast hb
  have hless : a < 2 ^ 53 * b := by exact_mod_cast (div_lt_iff₀ hb').1 h
  exact (divideToEven_le a b).trans ((Nat.div_lt_iff_lt_mul hb).2 hless)

theorem two_pow_le_divideToEven (hb : 0 < b) (h : (2 : ℚ) ^ 52 ≤ a / b) : 2 ^ 52 ≤ divideToEven a b := by
  have hb' : (0 : ℚ) < b := by exact_mod_cast hb
  have hle : 2 ^ 52 * b ≤ a := by exact_mod_cast (le_div_iff₀ hb').1 h
  exact ((Nat.le_div_iff_mul_le hb).2 hle).trans (le_divideToEven a b)

theorem divideToEven_eq_zero (hb : 0 < b) (h : (a / b : ℚ) < 1 / 2) : divideToEven a b = 0 := by
  have hb' : (0 : ℚ) < b := by exact_mod_cast hb
  have hless : a * 2 < 1 * b := by exact_mod_cast (div_lt_div_iff₀ hb' two_pos).1 h
  have hsmall : a < b := by omega
  rw [divideToEven_eq, Nat.div_eq_of_lt hsmall, Nat.mod_eq_of_lt hsmall, if_neg (by omega)]

/-! ### The nearest double -/

/-- A number that is not negative as a fraction in units of a power of two. -/
theorem exists_scaled {q : ℚ} (hq : 0 ≤ q) (e : Int) : ∃ a b : Nat, 0 < b ∧ q = a / b * 2 ^ e := by
  have hpow : (0 : ℚ) < 2 ^ e := zpow_pos two_pos e
  have hnonneg : 0 ≤ (q / 2 ^ e).num := Rat.num_nonneg.2 (div_nonneg hq hpow.le)
  have hcast : (((q / 2 ^ e).num.toNat : Nat) : ℚ) = (q / 2 ^ e).num := by
    exact_mod_cast Int.toNat_of_nonneg hnonneg
  refine ⟨(q / 2 ^ e).num.toNat, (q / 2 ^ e).den, Rat.den_pos _, ?_⟩
  rw [hcast, Rat.num_div_den, div_mul_cancel₀ q hpow.ne']

/-- The mantissa of the double nearest to a number that is not negative. -/
def mantissaOf (q : ℚ) : Nat := scaledQuotient q.num.toNat q.den (exponentOf q)

/-- The bits of the double nearest to a number that is not negative, or to its negation. -/
def nearestBits (negative : Bool) (q : ℚ) : Nat :=
  if q = 0 then packBits negative 0 (-1074) else packBits negative (mantissaOf q) (exponentOf q)

/-- The double nearest to a number that is not negative, or to its negation; a half goes to the even mantissa. -/
def nearest (negative : Bool) (q : ℚ) : Float := Float.ofBits (nearestBits negative q).toUInt64

theorem mantissaOf_eq {q : ℚ} (hq : 0 ≤ q) (hb : 0 < b) (h : q = a / b * 2 ^ exponentOf q) :
    mantissaOf q = divideToEven a b := by
  have hcast : ((q.num.toNat : Nat) : ℚ) = q.num := by
    exact_mod_cast Int.toNat_of_nonneg (Rat.num_nonneg.2 hq)
  refine scaledQuotient_eq (Rat.den_pos q) hb ?_
  rw [hcast, Rat.num_div_den]
  exact h

/-- **Quotients.** What is made of a quotient only depends on its value. -/
theorem ofRatio_eq_nearest (negative : Bool) (num : Nat) (hden : 0 < den) :
    ofRatio negative num den = nearest negative (num / den) := by
  have hden' : (den : ℚ) ≠ 0 := by exact_mod_cast hden.ne'
  unfold ofRatio nearest nearestBits
  rcases num.eq_zero_or_pos with rfl | hnum
  · rw [Nat.cast_zero, zero_div, if_pos rfl]
    rfl
  · have hnum' : (num : ℚ) ≠ 0 := by exact_mod_cast hnum.ne'
    have hnonneg : (0 : ℚ) ≤ num / den := by positivity
    obtain ⟨a, b, hb, hvalue⟩ := exists_scaled hnonneg (exponentOf (num / den))
    have hmantissa := scaledQuotient_eq hden hb hvalue
    rw [if_neg (div_ne_zero hnum' hden'), quotientExponent_eq hnum hden, mantissaOf_eq hnonneg hb hvalue,
      ← hmantissa]
    exact if_neg (by rw [beq_iff_eq]; exact hnum.ne')

/-! ### Bits of the nearest double -/

theorem lt_of_exponentOf (q : ℚ) : q < 2 ^ (exponentOf q + 53) := by
  have hlog : q < 2 ^ (Int.log 2 q + 1) := by
    exact_mod_cast Int.lt_zpow_succ_log_self (b := 2) (by decide) q
  refine hlog.trans_le (zpow_le_zpow_right₀ one_le_two ?_)
  unfold exponentOf
  omega

theorem mantissaOf_le {q : ℚ} (hq : 0 ≤ q) : mantissaOf q ≤ 2 ^ 53 := by
  obtain ⟨a, b, hb, hvalue⟩ := exists_scaled hq (exponentOf q)
  rw [mantissaOf_eq hq hb hvalue]
  refine divideToEven_le_two_pow hb ?_
  have hpow : (0 : ℚ) < 2 ^ exponentOf q := zpow_pos two_pos _
  have hless := lt_of_exponentOf q
  rw [zpow_add₀ two_ne_zero, mul_comm] at hless
  nth_rewrite 1 [hvalue] at hless
  exact_mod_cast lt_of_mul_lt_mul_right hless hpow.le

theorem le_exponentOf (q : ℚ) : -1074 ≤ exponentOf q := le_max_right _ _

/-- Above the least exponent the mantissa is a full one. -/
theorem le_mantissaOf (hq : 0 < q) (h : exponentOf q ≠ -1074) : 2 ^ 52 ≤ mantissaOf q := by
  obtain ⟨a, b, hb, hvalue⟩ := exists_scaled hq.le (exponentOf q)
  have hpow : (0 : ℚ) < 2 ^ exponentOf q := zpow_pos two_pos _
  have hexponent : 52 + exponentOf q = Int.log 2 q := by
    unfold exponentOf at h ⊢
    omega
  have hle : (2 : ℚ) ^ (52 + exponentOf q) ≤ q := by
    rw [hexponent]
    exact_mod_cast Int.zpow_log_le_self (b := 2) (by decide) hq
  rw [zpow_add₀ two_ne_zero] at hle
  nth_rewrite 2 [hvalue] at hle
  rw [mantissaOf_eq hq.le hb hvalue]
  exact two_pow_le_divideToEven hb (by exact_mod_cast le_of_mul_le_mul_right hle hpow)

/-- A mantissa of one more bit is that of a power of two, which goes with the next exponent; so it is enough to look
at other mantissas. -/
theorem exists_packBits_eq (m : Nat) (e : Int) : ∃ m' e', m' ≠ 2 ^ 53 ∧ m' ≤ m ∧ (2 ^ 52 ≤ m → 2 ^ 52 ≤ m') ∧
    e ≤ e' ∧ ∀ negative, packBits negative m e = packBits negative m' e' := by
  by_cases hm : m = 2 ^ 53
  · rw [hm]
    exact ⟨2 ^ 52, e + 1, by decide, by decide, fun _ => le_rfl, by omega, fun _ => rfl⟩
  · exact ⟨m, e, hm, le_rfl, id, le_rfl, fun _ => rfl⟩

theorem packBits_eq (negative : Bool) {m : Nat} (hm : m ≠ 2 ^ 53) (e : Int) : packBits negative m e =
    (if negative then 2 ^ 63 else 0) + if m < 2 ^ 52 then m
      else if 2047 ≤ (e + 1075).toNat then 2047 * 2 ^ 52
      else (e + 1075).toNat * 2 ^ 52 + (m - 2 ^ 52) := by
  have hbits : (m == Nat.pow 2 53) = false := beq_eq_false_iff_ne.2 hm
  have hhalf : Nat.pow 2 52 = 2 ^ 52 := rfl
  have hsign : Nat.pow 2 63 = 2 ^ 63 := rfl
  unfold packBits
  rw [hbits, hhalf, hsign]
  dsimp only
  rw [if_neg Bool.false_ne_true]
  dsimp only
  split_ifs <;> omega

theorem packBits_unsigned {m : Nat} (hm : m ≠ 2 ^ 53) (e : Int) : packBits false m e =
    if m < 2 ^ 52 then m
    else if 2047 ≤ (e + 1075).toNat then 2047 * 2 ^ 52
    else (e + 1075).toNat * 2 ^ 52 + (m - 2 ^ 52) := by
  rw [packBits_eq false hm, if_neg Bool.false_ne_true, Nat.zero_add]

theorem packBits_sign (negative : Bool) (m : Nat) (e : Int) :
    packBits negative m e = (if negative then 2 ^ 63 else 0) + packBits false m e := by
  obtain ⟨m', e', hm', -, -, -, hpacked⟩ := exists_packBits_eq m e
  rw [hpacked negative, hpacked false, packBits_eq negative hm', packBits_unsigned hm']

theorem packBits_le {m : Nat} (hm : m ≤ 2 ^ 53) (e : Int) : packBits false m e ≤ 2047 * 2 ^ 52 := by
  obtain ⟨m', e', hm', hle, -, -, hpacked⟩ := exists_packBits_eq m e
  have hless : m' < 2 ^ 53 := (hle.trans hm).lt_of_ne hm'
  rw [hpacked, packBits_unsigned hm']
  split_ifs <;> omega

/-- Beyond the greatest exponent there is infinity. -/
theorem packBits_infinite {m : Nat} {e : Int} (hm : 2 ^ 52 ≤ m) (he : 972 ≤ e) :
    packBits false m e = 2047 * 2 ^ 52 := by
  obtain ⟨m', e', hm', -, hlow, hexponent, hpacked⟩ := exists_packBits_eq m e
  rw [hpacked, packBits_unsigned hm', if_neg (hlow hm).not_gt, if_pos (by omega)]

theorem nearestBits_sign (negative : Bool) (q : ℚ) :
    nearestBits negative q = (if negative then 2 ^ 63 else 0) + nearestBits false q := by
  unfold nearestBits
  by_cases hq : q = 0
  · rw [if_pos hq, if_pos hq, packBits_sign]
  · rw [if_neg hq, if_neg hq, packBits_sign]

theorem nearestBits_le {q : ℚ} (hq : 0 ≤ q) : nearestBits false q ≤ 2047 * 2 ^ 52 := by
  unfold nearestBits
  split_ifs
  · exact packBits_le (Nat.zero_le _) _
  · exact packBits_le (mantissaOf_le hq) _

theorem nearest_of_bits {q q' : ℚ} (h : nearestBits false q = nearestBits false q') (negative : Bool) :
    nearest negative q = nearest negative q' := by
  rw [nearest, nearest, nearestBits_sign negative q, nearestBits_sign negative q', h]

theorem bits_of_nearest {q q' : ℚ} (hq : 0 ≤ q) (hq' : 0 ≤ q')
    (h : (nearest false q).toBits = (nearest false q').toBits) :
    nearestBits false q = nearestBits false q' := by
  rw [← toBits_ofBits (nearestBits_le hq), ← toBits_ofBits (nearestBits_le hq')]
  exact congrArg UInt64.toNat h

/-! ### Numbers out of range -/

/-- Numbers beyond the doubles are taken for infinite ones. -/
theorem nearestBits_large {q : ℚ} (h : 2 ^ 1024 ≤ q) : nearestBits false q = 2047 * 2 ^ 52 := by
  have hpos : 0 < q := lt_of_lt_of_le (by positivity) h
  have hlog : 1024 ≤ Int.log 2 q :=
    (Int.zpow_le_iff_le_log (b := 2) (by decide) hpos).1 (by exact_mod_cast h)
  have hexponent : exponentOf q = Int.log 2 q - 52 := max_eq_left (by omega)
  rw [nearestBits, if_neg hpos.ne']
  exact packBits_infinite (le_mantissaOf hpos (by omega)) (by omega)

/-- Numbers below half the least double are taken for zero. -/
theorem nearestBits_small {q : ℚ} (hq : 0 ≤ q) (h : q < 2 ^ (-1075 : Int)) : nearestBits false q = 0 := by
  rcases hq.eq_or_lt with rfl | hpos
  · exact if_pos rfl
  have hlog : Int.log 2 q < -1075 :=
    (Int.lt_zpow_iff_log_lt (b := 2) (by decide) hpos).1 (by exact_mod_cast h)
  have hexponent : exponentOf q = -1074 := max_eq_right (by omega)
  obtain ⟨a, b, hb, hvalue⟩ := exists_scaled hq (exponentOf q)
  have hmantissa : mantissaOf q = 0 := by
    rw [mantissaOf_eq hq hb hvalue]
    refine divideToEven_eq_zero hb ?_
    have hpow : (0 : ℚ) < 2 ^ (-1074 : Int) := zpow_pos two_pos _
    have hhalf : (2 : ℚ) ^ (-1075 : Int) = 1 / 2 * 2 ^ (-1074 : Int) := by
      rw [show (-1075 : Int) = -1 + -1074 by norm_num, zpow_add₀ two_ne_zero, zpow_neg_one, one_div]
    rw [hexponent] at hvalue
    rw [hvalue, hhalf] at h
    exact lt_of_mul_lt_mul_right h hpow.le
  rw [nearestBits, if_neg hpos.ne', hmantissa, packBits_unsigned (by decide), if_pos (by decide)]

end Colloquy.Number
