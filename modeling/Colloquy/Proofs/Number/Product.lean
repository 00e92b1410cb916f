import Colloquy.Proofs.Number.Value

/-!
# Products of doubles

The `steps` of a number that is not negative are the units of the double nearest to it, if there were no greatest
exponent.  They never decrease (`steps_mono`), and from `beyond` on they are those of infinity or more
(`steps_lt_iff`).  So the value of the nearest double (`approximate`, `value?_nearest`) never decreases either, and
the product of doubles is the double nearest to the product of their values (`value?_mul`).
-/

namespace Colloquy

namespace Number

open Float.Model (UnpackedFloat Format totalExponent)
open Float.Model.UnpackedFloat (Sign ExtendedMantissa)

variable {p q : ℚ} {m n : Nat} {e f : Int}

/-! ### Steps -/

/-- The units of the double nearest to a number that is not negative, with no greatest exponent. -/
def steps (q : ℚ) : Nat := magnitude (mantissaOf q) (exponentOf q)

theorem steps_zero : steps 0 = 0 := by
  have hnone : mantissaOf 0 = 0 := by
    have hvalue : (0 : ℚ) = (0 : Nat) / (1 : Nat) * 2 ^ exponentOf 0 := by simp
    rw [mantissaOf_eq le_rfl one_pos hvalue, divideToEven_one]
  rw [steps, hnone, magnitude, Nat.zero_mul]

theorem exponentOf_mono (hp : 0 < p) (h : p ≤ q) : exponentOf p ≤ exponentOf q :=
  max_le_max_right _ (Int.sub_le_sub_right (Int.log_mono_right hp h) 52)

theorem divideToEven_le_of_le {a b c d : Nat} (hb : 0 < b) (hd : 0 < d) (h : (a / b : ℚ) ≤ c / d) :
    divideToEven a b ≤ divideToEven c d := by
  have hb' : (0 : ℚ) < b := by exact_mod_cast hb
  have hd' : (0 : ℚ) < d := by exact_mod_cast hd
  have hcross : a * d ≤ c * b := by exact_mod_cast (div_le_div_iff₀ hb' hd').1 h
  calc divideToEven a b = divideToEven (a * d) (b * d) := (divideToEven_mul_right a b hd).symm
    _ ≤ divideToEven (c * b) (b * d) := divideToEven_mono hcross
    _ = divideToEven c d := by rw [Nat.mul_comm b d, divideToEven_mul_right c d hb]

/-- **Rounding never decreases.** -/
theorem steps_mono (hp : 0 ≤ p) (h : p ≤ q) : steps p ≤ steps q := by
  rcases hp.eq_or_lt with rfl | hpos
  · rw [steps_zero]
    exact Nat.zero_le _
  have hleast := le_exponentOf p
  rcases (exponentOf_mono hpos h).eq_or_lt with hsame | hless
  · obtain ⟨a, b, hb, hvalue⟩ := exists_scaled hp (exponentOf p)
    obtain ⟨c, d, hd, hvalue'⟩ := exists_scaled (hp.trans h) (exponentOf q)
    have hpow : (0 : ℚ) < 2 ^ exponentOf p := zpow_pos two_pos _
    have hle : (a / b : ℚ) ≤ c / d := by
      rw [hvalue, hvalue', ← hsame] at h
      exact le_of_mul_le_mul_right h hpow
    rw [steps, steps, mantissaOf_eq hp hb hvalue, mantissaOf_eq (hp.trans h) hd hvalue', ← hsame]
    exact Nat.mul_le_mul_right _ (divideToEven_le_of_le hb hd hle)
  · -- A greater exponent means a full mantissa, below which rounding up cannot end.
    calc steps p ≤ magnitude (2 ^ 53) (exponentOf p) := Nat.mul_le_mul_right _ (mantissaOf_le hp)
      _ ≤ steps q := magnitude_two_pow_le (le_mantissaOf (hpos.trans_le h) (by omega)) hleast hless

/-- What is a double already has the units of that double. -/
theorem steps_value (h : Normalized m e) : steps (m * 2 ^ e) = magnitude m e := by
  rcases m.eq_zero_or_pos with rfl | hm
  · rw [Nat.cast_zero, zero_mul, steps_zero, magnitude, Nat.zero_mul]
  · have hnonneg : (0 : ℚ) ≤ m * 2 ^ e := by positivity
    have hvalue : ((m : ℚ) * 2 ^ e) = (m : Nat) / (1 : Nat) * 2 ^ exponentOf (m * 2 ^ e) := by
      rw [exponentOf_value h hm, Nat.cast_one, div_one]
    rw [steps, mantissaOf_eq hnonneg one_pos hvalue, exponentOf_value h hm, divideToEven_one]

/-! ### The range of doubles -/

/-- The number from which on all numbers are taken for infinite ones: half a step beyond the greatest double. -/
def beyond : ℚ := 2 ^ 1024 - 2 ^ 970

theorem beyond_eq : beyond = ((2 ^ 54 - 1 : Nat) / (2 : Nat) : ℚ) * 2 ^ (971 : Int) := by
  have hodd : ((2 ^ 54 - 1 : Nat) : ℚ) = 2 ^ 54 - 1 := by norm_num
  have hpow : (2 : ℚ) ^ (971 : Int) = 2 * 2 ^ 970 := by
    rw [show (971 : Int) = 1 + (970 : Nat) by rfl, zpow_add₀ two_ne_zero, zpow_one, zpow_natCast]
  have htop : (2 : ℚ) ^ 1024 = 2 ^ 54 * 2 ^ 970 := by rw [← pow_add]
  rw [beyond, hodd, hpow, htop, Nat.cast_ofNat]
  generalize (2 : ℚ) ^ 970 = u
  ring

theorem exponentOf_beyond : exponentOf beyond = 971 := by
  have hlow : (2 : ℚ) ^ (1023 : Int) ≤ beyond := by
    have hpow : (2 : ℚ) ^ (1023 : Int) = 2 ^ 52 * 2 ^ (971 : Int) := by
      rw [← zpow_natCast, ← zpow_add₀ two_ne_zero]
      rfl
    rw [beyond_eq, hpow]
    exact mul_le_mul_of_nonneg_right (by norm_num) (by positivity)
  have hhigh : beyond < 2 ^ ((1023 : Int) + 1) := by
    have hpow : (2 : ℚ) ^ ((1023 : Int) + 1) = 2 ^ 53 * 2 ^ (971 : Int) := by
      rw [← zpow_natCast, ← zpow_add₀ two_ne_zero]
      rfl
    rw [beyond_eq, hpow]
    exact mul_lt_mul_of_pos_right (by norm_num) (by positivity)
  rw [exponentOf, log_eq hlow hhigh]
  rfl

theorem beyond_pos : 0 < beyond := by
  rw [beyond_eq]
  positivity

theorem steps_beyond : steps beyond = limit := by
  have hvalue : beyond = ((2 ^ 54 - 1 : Nat) / (2 : Nat) : ℚ) * 2 ^ exponentOf beyond := by
    rw [exponentOf_beyond, ← beyond_eq]
  have hrounded : divideToEven (2 ^ 54 - 1) 2 = 2 ^ 53 := by decide
  rw [steps, mantissaOf_eq beyond_pos.le Nat.two_pos hvalue, exponentOf_beyond, hrounded]
  unfold limit
  rfl

/-- A quotient that is less than half a step above a number is not rounded further up. -/
theorem divideToEven_le_of_lt {a b : Nat} (h : 2 * a < (2 * n + 1) * b) : divideToEven a b ≤ n := by
  have hsplit := Nat.div_add_mod a b
  have hless : a < (n + 1) * b := by
    rw [Nat.add_mul, Nat.one_mul]
    rw [Nat.add_mul, Nat.one_mul, Nat.mul_assoc] at h
    omega
  have hb : 0 < b := Nat.pos_of_lt_mul_left hless
  have hle : a / b ≤ n := Nat.lt_succ_iff.1 ((Nat.div_lt_iff_lt_mul hb).2 hless)
  rcases hle.lt_or_eq with hlt | hsame
  · exact (divideToEven_le a b).trans hlt
  · rw [hsame] at hsplit
    rw [divideToEven_eq, hsame, if_neg, Nat.add_zero]
    rw [Nat.add_mul, Nat.one_mul, Nat.mul_assoc, Nat.mul_comm n b] at h
    omega

/-- **The range of doubles.** -/
theorem steps_lt_iff (hq : 0 ≤ q) : steps q < limit ↔ q < beyond := by
  constructor
  · intro h
    by_contra hbeyond
    exact (steps_mono beyond_pos.le (not_lt.1 hbeyond)).not_gt (steps_beyond ▸ h)
  · intro h
    rcases hq.eq_or_lt with rfl | hpos
    · rw [steps_zero]
      exact limit_pos
    have hexponent := exponentOf_mono hpos h.le
    rw [exponentOf_beyond] at hexponent
    have hmantissa := mantissaOf_le hq
    rcases hexponent.lt_or_eq with hless | hsame
    · calc steps q ≤ magnitude (2 ^ 53) (exponentOf q) := Nat.mul_le_mul_right _ hmantissa
        _ ≤ magnitude (2 ^ 52) 971 := magnitude_two_pow_le le_rfl (le_exponentOf q) hless
        _ < limit := magnitude_lt_limit (by decide) le_rfl
    · -- At the greatest exponent the last half step is missing.
      obtain ⟨a, b, hb, hvalue⟩ := exists_scaled hq (exponentOf q)
      have hb' : (0 : ℚ) < b := by exact_mod_cast hb
      have hless : (a / b : ℚ) < (2 ^ 54 - 1 : Nat) / (2 : Nat) := by
        rw [hvalue, hsame, beyond_eq] at h
        exact lt_of_mul_lt_mul_right h (by positivity)
      have hcross : a * 2 < (2 ^ 54 - 1) * b := by exact_mod_cast (div_lt_div_iff₀ hb' two_pos).1 hless
      have hmantissa : mantissaOf q ≤ 2 ^ 53 - 1 := by
        rw [mantissaOf_eq hq hb hvalue]
        exact divideToEven_le_of_lt (by omega)
      rw [steps, hsame]
      exact magnitude_lt_limit (by omega) le_rfl

/-! ### Units of the nearest double -/

/-- A double of three fields without a sign, and what they stand for. -/
theorem reading_fields {bits field fraction : Nat} (hbits : bits = field * 2 ^ 52 + fraction) (hfield : field < 2048)
    (hfraction : fraction < 2 ^ 52) {x : Float} (hx : x.toBits.toNat = bits) : Reading.ofFloat x =
      if field = 2047 then if fraction = 0 then .infinite false else .undefined
      else if field = 0 then .finite false fraction (-1074)
      else .finite false (2 ^ 52 + fraction) (field - 1075) := by
  have hhalf : Nat.pow 2 52 = 2 ^ 52 := rfl
  have hsign : Nat.pow 2 63 = 2 ^ 63 := rfl
  have hquotient : bits / 2 ^ 52 % 2048 = field := by omega
  have hrest : bits % 2 ^ 52 = fraction := by omega
  have hpositive : bits / 2 ^ 63 = 0 := by omega
  unfold Reading.ofFloat
  rw [hx, hhalf, hsign]
  dsimp only
  rw [hquotient, hrest, hpositive]
  simp only [beq_iff_eq]
  rfl

theorem reading_packBits (h : Normalized m e) : Reading.ofFloat (Float.ofBits (packBits false m e).toUInt64) =
    if 971 < e then .infinite false else .finite false m e := by
  have hless := h.lt
  have hleast := h.least
  have hbits := toBits_ofBits (packBits_le hless.le e)
  rw [packBits_unsigned hless.ne] at hbits ⊢
  by_cases hsmall : m < 2 ^ 52
  · obtain rfl : e = -1074 := h.full.resolve_left (by omega)
    rw [if_pos hsmall] at hbits ⊢
    have hsplit : m = 0 * 2 ^ 52 + m := by omega
    rw [reading_fields hsplit (by decide) hsmall hbits]
    rfl
  · rw [if_neg hsmall] at hbits ⊢
    by_cases hlarge : 971 < e
    · rw [if_pos (by omega)] at hbits ⊢
      rw [reading_fields (Nat.add_zero _).symm (by decide) (by decide) hbits, if_pos hlarge]
      rfl
    · have hmantissa : 2 ^ 52 + (m - 2 ^ 52) = m := by omega
      have hexponent : ((e + 1075).toNat : Int) - 1075 = e := by omega
      rw [if_neg (by omega)] at hbits ⊢
      rw [reading_fields rfl (by omega) (by omega) hbits, if_neg (by omega), if_neg (by omega), if_neg hlarge,
        hmantissa, hexponent]

/-- Packed bits have the units of what was packed, up to those of infinity. -/
theorem rank_packBits (h : Normalized m e) :
    rank (Float.ofBits (packBits false m e).toUInt64) = some ((min (magnitude m e) limit : Nat) : Int) := by
  rw [rank_eq_reading, reading_packBits h]
  split_ifs with hlarge
  · have hlimit := limit_le_magnitude (h.full.resolve_right (by omega)) hlarge
    rw [Nat.min_eq_right hlimit]
    rfl
  · have hless := magnitude_lt_limit h.lt (Int.not_lt.1 hlarge)
    rw [Nat.min_eq_left hless.le]
    rfl

theorem rank_nearest (hq : 0 ≤ q) :
    rank (nearest false q) = some ((min (steps q) limit : Nat) : Int) := by
  unfold nearest nearestBits
  split_ifs with hzero
  · have hnormalized : Normalized 0 (-1074) := ⟨by decide, le_rfl, .inr rfl⟩
    rw [rank_packBits hnormalized, hzero, steps_zero, magnitude, Nat.zero_mul]
  · have hpos : 0 < q := lt_of_le_of_ne hq (Ne.symm hzero)
    have hleast := le_exponentOf q
    rcases (mantissaOf_le hq).lt_or_eq with hless | hfull
    · refine rank_packBits ⟨hless, hleast, ?_⟩
      by_cases hexponent : exponentOf q = -1074
      · exact .inr hexponent
      · exact .inl (le_mantissaOf hpos hexponent)
    · -- A mantissa of one more bit is half of it at the next exponent.
      have hexponent : (exponentOf q + 1 + 1074).toNat = (exponentOf q + 1074).toNat + 1 := by omega
      have hnormalized : Normalized (2 ^ 52) (exponentOf q + 1) := ⟨by decide, by omega, .inl le_rfl⟩
      have hsame : steps q = magnitude (2 ^ 52) (exponentOf q + 1) := by
        rw [steps, hfull, magnitude, magnitude, hexponent, Nat.pow_succ]
        ring
      rw [hfull, hsame]
      exact rank_packBits hnormalized

/-- The value of the double nearest to a number that is not negative, with no greatest exponent. -/
def rounding (q : ℚ) : ℚ := steps q * least

/-- The value of the double nearest to a number that is not negative. -/
def approximate (q : ℚ) : WithTop ℚ := if q < beyond then (rounding q : WithTop ℚ) else ⊤

theorem rounding_mono (hp : 0 ≤ p) (h : p ≤ q) : rounding p ≤ rounding q :=
  mul_le_mul_of_nonneg_right (by exact_mod_cast steps_mono hp h) least_pos.le

theorem rounding_nonneg (q : ℚ) : 0 ≤ rounding q := mul_nonneg (Nat.cast_nonneg _) least_pos.le

theorem approximate_of_lt (h : q < beyond) : approximate q = rounding q := if_pos h

theorem approximate_nonneg (q : ℚ) : 0 ≤ approximate q := by
  unfold approximate
  split_ifs
  · exact_mod_cast rounding_nonneg q
  · exact le_top

theorem approximate_mono (hp : 0 ≤ p) (h : p ≤ q) : approximate p ≤ approximate q := by
  unfold approximate
  split_ifs with hless hless'
  · exact_mod_cast rounding_mono hp h
  · exact le_top
  · exact absurd (h.trans_lt ‹_›) hless
  · exact le_rfl

/-- Units up to those of infinity amount to a rounded value. -/
theorem value?_of_rank {x : Float} (hq : 0 ≤ q) (h : rank x = some ((min (steps q) limit : Nat) : Int)) :
    (Num.float x).value? = some (approximate q) := by
  rw [Num.value?_float_iff, h]
  unfold approximate
  by_cases hless : q < beyond
  · have hsteps := (steps_lt_iff hq).2 hless
    refine .inr ⟨steps q, ?_, ?_, ?_⟩
    · rw [Nat.min_eq_left hsteps.le]
    · rwa [Int.natAbs_natCast]
    · rw [if_pos hless, Int.cast_natCast, rounding]
  · have hsteps := not_lt.1 (mt (steps_lt_iff hq).1 hless)
    exact .inl ⟨by rw [Nat.min_eq_right hsteps], if_neg hless⟩

theorem value?_nearest (hq : 0 ≤ q) : (Num.float (nearest false q)).value? = some (approximate q) :=
  value?_of_rank hq (rank_nearest hq)

/-! ### Products -/

theorem targetExponent_eq_exponentOf (hm : 0 < m) (e : Int) :
    Format.binary64.targetExponent (totalExponent m e) = exponentOf (m * 2 ^ e) := by
  have hmin : Format.binary64.minExponent = -1074 := by decide
  have hbits : (Format.binary64.mantissaBits : Int) = 53 := by decide
  have hlow : (2 : ℚ) ^ ((m.log2 : Int) + e) ≤ m * 2 ^ e := by
    rw [zpow_add₀ two_ne_zero, zpow_natCast]
    exact mul_le_mul_of_nonneg_right (by exact_mod_cast Nat.log2_self_le hm.ne') (by positivity)
  have hhigh : (m * 2 ^ e : ℚ) < 2 ^ ((m.log2 : Int) + e + 1) := by
    rw [add_right_comm, zpow_add₀ two_ne_zero, ← Nat.cast_succ, zpow_natCast]
    exact mul_lt_mul_of_pos_right (by exact_mod_cast Nat.lt_log2_self) (by positivity)
  rw [Format.targetExponent, totalExponent, hmin, hbits, exponentOf, log_eq hlow hhigh]
  omega

/-- A mantissa is shifted to the exponent of its nearest double, if that is not less than its own. -/
theorem shiftToTargetExponent_of_exponentOf (hm : 0 < m) {j : Nat} (hj : exponentOf (m * 2 ^ e) = e + j) :
    UnpackedFloat.shiftToTargetExponent Format.binary64 m e .exact =
      (ExtendedMantissa.ofMantissaAndAccuracy m .exact >>> j, e + j) := by
  unfold UnpackedFloat.shiftToTargetExponent
  rw [targetExponent_eq_exponentOf hm, hj]
  unfold UnpackedFloat.shiftToExponent
  dsimp only
  rw [add_sub_cancel_left, Int.toNat_natCast]

theorem mantissaOf_shifted {j : Nat} (hj : exponentOf (m * 2 ^ e) = e + j) :
    mantissaOf (m * 2 ^ e) = divideToEven m (2 ^ j) := by
  have hvalue : (m * 2 ^ e : ℚ) = (m : Nat) / (2 ^ j : Nat) * 2 ^ exponentOf (m * 2 ^ e) := by
    rw [hj, zpow_add₀ two_ne_zero, zpow_natCast, Nat.cast_pow, Nat.cast_ofNat]
    field_simp
  exact mantissaOf_eq (by positivity) (Nat.two_pow_pos j) hvalue

theorem shiftToTargetExponent_zero (e : Int) :
    (UnpackedFloat.shiftToTargetExponent Format.binary64 0 e .exact).1.mantissa = 0 := by
  unfold UnpackedFloat.shiftToTargetExponent UnpackedFloat.shiftToExponent
  exact (isShift_shiftRight 0 _).mantissa.trans (Nat.zero_div _)

/-- A mantissa with an exponent that is not above that of its nearest double is rounded to this double: the first
shift rounds it, and the second one loses nothing. -/
theorem units_roundWithAccuracy (s : Sign) (hm : 0 < m) (he : e ≤ exponentOf (m * 2 ^ e)) :
    units (Float.Model.pack (UnpackedFloat.roundWithAccuracy Format.binary64 s m e .exact)).unpack =
      some (s.apply (min (steps (m * 2 ^ e)) limit : Nat)) := by
  have hpos : (0 : ℚ) < m * 2 ^ e := by positivity
  have hleast := le_exponentOf (m * 2 ^ e)
  obtain ⟨r, hr⟩ : ∃ r, r = mantissaOf (m * 2 ^ e) := ⟨_, rfl⟩
  obtain ⟨j, hj⟩ : ∃ j : Nat, exponentOf (m * 2 ^ e) = e + j := ⟨(exponentOf (m * 2 ^ e) - e).toNat, by omega⟩
  obtain ⟨k, hk⟩ : ∃ k : Nat, e + j = k - 1074 := ⟨(e + j + 1074).toNat, by omega⟩
  have hsteps : steps (m * 2 ^ e) = r * 2 ^ k := by rw [steps, ← hr, hj, hk, magnitude_sub]
  rw [UnpackedFloat.roundWithAccuracy, shiftToTargetExponent_of_exponentOf hm hj]
  dsimp only
  rw [roundedMantissa_shiftRight, ← mantissaOf_shifted hj, ← hr, hk, hsteps]
  rcases r.eq_zero_or_pos with rfl | hrpos
  · rw [dif_pos (shiftToTargetExponent_zero _), units_pack_zero, Nat.zero_mul, Nat.zero_min]
    cases s <;> rfl
  · have hlow : 2 ^ 52 ≤ r ∨ k = 0 := by
      by_cases hexponent : exponentOf (m * 2 ^ e) = -1074
      · exact .inr (by omega)
      · exact .inl (hr ▸ le_mantissaOf hpos hexponent)
    obtain ⟨em, f, hsecond, hmantissa, hmagnitude, hnormalized⟩ :=
      exists_shiftToTargetExponent hrpos (hr ▸ mantissaOf_le hpos.le) hlow
    rw [hsecond, dif_neg hmantissa.ne', units_pack s hmantissa hnormalized, hmagnitude]

/-- The exponents of two factors are not above that of the double nearest to the product: one of the mantissas is full,
or both exponents are the least one. -/
theorem add_le_exponentOf_mul (h : Normalized m e) (h' : Normalized n f) (hm : 0 < m) (hn : 0 < n) :
    e + f ≤ exponentOf ((m * n : Nat) * 2 ^ (e + f)) := by
  have hpos : 0 < m * n := Nat.mul_pos hm hn
  have hleast := le_exponentOf ((m * n : Nat) * 2 ^ (e + f))
  have hbits : 2 ^ 52 ≤ m * n ∨ e + f ≤ -1074 := by
    rcases h.full with hfull | rfl
    · exact .inl (hfull.trans (Nat.le_mul_of_pos_right m hn))
    rcases h'.full with hfull | rfl
    · exact .inl (hfull.trans (Nat.le_mul_of_pos_left n hm))
    · exact .inr (by decide)
  rcases hbits with hfull | hsmall
  · have hlog : 52 ≤ (m * n).log2 := (Nat.le_log2 hpos.ne').2 hfull
    have hmin : Format.binary64.minExponent = -1074 := by decide
    have hcount : (Format.binary64.mantissaBits : Int) = 53 := by decide
    rw [← targetExponent_eq_exponentOf hpos, Format.targetExponent, totalExponent, hmin, hcount]
    omega
  · exact hsmall.trans hleast

/-- A double with a value that is not negative is a zero of either sign, or a mantissa at an exponent. -/
theorem unpack_of_value {x : Float} {a : ℚ} (hx : (Num.float x).value? = some (a : WithTop ℚ)) (ha : 0 ≤ a) :
    (∃ s, x.toModel.unpack = .zero s ∧ a = 0) ∨
      ∃ m e, ∃ hm : 0 < m, x.toModel.unpack = .finite .positive m e hm ∧ Normalized m e ∧ e ≤ 971 ∧
        a = m * 2 ^ e := by
  have hcanonical := canonical_unpack x.toModel
  rcases Num.value?_float_iff.1 hx with ⟨-, htop⟩ | ⟨r, hrank, hr, hvalue⟩
  · exact absurd htop (WithTop.coe_ne_top)
  obtain rfl : a = r * least := WithTop.coe_injective hvalue
  have hnonneg : 0 ≤ r := by exact_mod_cast nonneg_of_mul_nonneg_left ha least_pos
  have hunits : units x.toModel.unpack = some r := hrank
  cases hunpack : x.toModel.unpack with
  | notANumber =>
    rw [hunpack] at hunits
    exact nomatch hunits
  | infinity s =>
    rw [hunpack] at hunits
    rw [← Option.some.inj hunits, natAbs_apply] at hr
    exact absurd hr (lt_irrefl limit)
  | zero s =>
    rw [hunpack] at hunits
    obtain rfl : 0 = r := Option.some.inj hunits
    exact .inl ⟨s, rfl, by rw [Int.cast_zero, zero_mul]⟩
  | finite s m e hm =>
    rw [hunpack] at hunits hcanonical
    obtain rfl : s.apply (magnitude m e) = r := Option.some.inj hunits
    have hpos := magnitude_pos hm e
    cases s with
    | negative =>
      have hneg : (0 : Int) ≤ -(magnitude m e : Int) := hnonneg
      omega
    | positive =>
      refine .inr ⟨m, e, hm, rfl, hcanonical.1, hcanonical.2, ?_⟩
      exact magnitude_mul_least m hcanonical.1.least

/-- A value of a double is its own nearest double's. -/
theorem rounding_of_value {x : Float} {a : ℚ} (hx : (Num.float x).value? = some (a : WithTop ℚ)) (ha : 0 ≤ a) :
    rounding a = a ∧ a < beyond := by
  rw [← steps_lt_iff ha]
  rcases unpack_of_value hx ha with ⟨-, -, rfl⟩ | ⟨m, e, hm, -, hnormalized, he, rfl⟩
  · rw [rounding, steps_zero, Nat.cast_zero, zero_mul]
    exact ⟨rfl, limit_pos⟩
  · rw [rounding, steps_value hnormalized, magnitude_mul_least m hnormalized.least]
    exact ⟨rfl, magnitude_lt_limit hnormalized.lt he⟩

/-- **Products.** The product of doubles that are not negative is the double nearest to the product of their
values. -/
theorem value?_mul {x y : Float} {a b : ℚ} (hx : (Num.float x).value? = some (a : WithTop ℚ))
    (hy : (Num.float y).value? = some (b : WithTop ℚ)) (ha : 0 ≤ a) (hb : 0 ≤ b) :
    (Num.float (x * y)).value? = some (approximate (a * b)) := by
  refine value?_of_rank (mul_nonneg ha hb) ?_
  show units (Float.Model.pack (UnpackedFloat.mul Format.binary64 x.toModel.unpack y.toModel.unpack)).unpack = _
  have hnone : (0 : Int) = (min (steps 0) limit : Nat) := by
    rw [steps_zero, Nat.zero_min]
    rfl
  rcases unpack_of_value hx ha with ⟨s, hs, rfl⟩ | ⟨m, e, hm, hfinite, hnormalized, -, rfl⟩
  · rw [hs, zero_mul, ← hnone]
    rcases unpack_of_value hy hb with ⟨t, ht, -⟩ | ⟨n, f, hn, hfinite, -⟩
    · have hproduct : UnpackedFloat.mul Format.binary64 (.zero s) (.zero t) = .zero (s * t) := rfl
      rw [ht, hproduct, units_pack_zero]
    · have hproduct : UnpackedFloat.mul Format.binary64 (.zero s) (.finite .positive n f hn) =
          .zero (s * .positive) := rfl
      rw [hfinite, hproduct, units_pack_zero]
  rcases unpack_of_value hy hb with ⟨t, ht, rfl⟩ | ⟨n, f, hn, hfinite', hnormalized', -, rfl⟩
  · have hproduct : UnpackedFloat.mul Format.binary64 (.finite .positive m e hm) (.zero t) =
        .zero (.positive * t) := rfl
    rw [ht, hfinite, hproduct, units_pack_zero, mul_zero, ← hnone]
  · have hpos : 0 < m * n := Nat.mul_pos hm hn
    have hvalue : (m * 2 ^ e * (n * 2 ^ f) : ℚ) = (m * n : Nat) * 2 ^ (e + f) := by
      rw [zpow_add₀ two_ne_zero, Nat.cast_mul]
      ring
    rw [hfinite, hfinite', hvalue]
    exact units_roundWithAccuracy .positive hpos (add_le_exponentOf_mul hnormalized hnormalized' hm hn)

end Number

end Colloquy
