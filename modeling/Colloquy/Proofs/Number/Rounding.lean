import Colloquy.Number.Binary64
import Colloquy.Proofs.Number.Rank
import Mathlib.Data.Nat.Log

/-!
# Rounding to doubles

`rounded` is the nearest natural number with at most 53 bits in front of its zeros, ties going to the even one;
it never decreases (`rounded_mono`).  A mantissa at an exponent is rounded by two shifts, the first of which
keeps a bit for half a unit and one for anything else behind it; what comes out is a double with as many units
as its magnitude rounds to (`exists_round`).
-/

namespace Colloquy.Number

open Float.Model (UnpackedFloat Format totalExponent)
open Float.Model.UnpackedFloat (Sign ExtendedMantissa)

/-! ### Division to even -/

theorem divideToEven_eq {num den : Nat} : divideToEven num den = num / den +
    if den < 2 * (num % den) ∨ (2 * (num % den) = den ∧ num / den % 2 = 1) then 1 else 0 := by
  unfold divideToEven
  simp only [beq_iff_eq]
  split_ifs <;> omega

theorem le_divideToEven (num den : Nat) : num / den ≤ divideToEven num den := by
  rw [divideToEven_eq]
  exact Nat.le_add_right _ _

theorem divideToEven_le (num den : Nat) : divideToEven num den ≤ num / den + 1 := by
  rw [divideToEven_eq]
  split_ifs <;> omega

theorem divideToEven_mono {den a b : Nat} (h : a ≤ b) :
    divideToEven a den ≤ divideToEven b den := by
  rcases Nat.lt_or_ge (a / den) (b / den) with hlt | hge
  · calc divideToEven a den ≤ a / den + 1 := divideToEven_le a den
      _ ≤ b / den := hlt
      _ ≤ divideToEven b den := le_divideToEven b den
  · -- Within one step of the quotient the remainders decide.
    have hquotient : a / den = b / den := le_antisymm (Nat.div_le_div_right h) hge
    have ha := Nat.div_add_mod a den
    have hb := Nat.div_add_mod b den
    rw [hquotient] at ha
    rw [divideToEven_eq, divideToEven_eq, hquotient]
    split_ifs <;> omega

theorem divideToEven_mul_right (a b : Nat) {c : Nat} (hc : 0 < c) :
    divideToEven (a * c) (b * c) = divideToEven a b := by
  have hassoc : 2 * (a % b * c) = 2 * (a % b) * c := by ring
  simp only [divideToEven_eq, Nat.mul_div_mul_right _ _ hc, Nat.mul_mod_mul_right, hassoc,
    Nat.mul_lt_mul_right hc, Nat.mul_left_inj hc.ne']

theorem divideToEven_one (a : Nat) : divideToEven a 1 = a := by
  rw [divideToEven_eq]
  simp [Nat.mod_one]

theorem divideToEven_mul_self (a : Nat) {c : Nat} (hc : 0 < c) : divideToEven (a * c) c = a := by
  have h := divideToEven_mul_right a 1 hc
  rwa [Nat.one_mul, divideToEven_one] at h

/-! ### Rounding -/

/-- The number of bits that a number has beyond 53. -/
def surplus (n : Nat) : Nat := n.log2 - 52

/-- The nearest number with 53 bits and zeros behind them, ties going to the even one. -/
def rounded (n : Nat) : Nat := divideToEven n (2 ^ surplus n) * 2 ^ surplus n

theorem surplus_mono {a b : Nat} (h : a ≤ b) : surplus a ≤ surplus b := by
  rw [surplus, surplus, Nat.log2_eq_log_two, Nat.log2_eq_log_two]
  exact Nat.sub_le_sub_right (Nat.log_mono_right h) 52

theorem div_lt_of_surplus (n : Nat) : n / 2 ^ surplus n < 2 ^ 53 := by
  rw [Nat.div_lt_iff_lt_mul (Nat.two_pow_pos _), ← Nat.pow_add]
  have hbits : n.log2 + 1 ≤ 53 + surplus n := by
    unfold surplus
    omega
  exact Nat.lt_log2_self.trans_le (Nat.pow_le_pow_right (by decide) hbits)

theorem le_div_of_surplus {n : Nat} (h : surplus n ≠ 0) : 2 ^ 52 ≤ n / 2 ^ surplus n := by
  rw [Nat.le_div_iff_mul_le (Nat.two_pow_pos _), ← Nat.pow_add]
  have hn : n ≠ 0 := by
    rintro rfl
    exact h rfl
  have hbits : 52 + surplus n = n.log2 := by
    unfold surplus at h ⊢
    omega
  rw [hbits]
  exact Nat.log2_self_le hn

theorem rounded_mono {a b : Nat} (h : a ≤ b) : rounded a ≤ rounded b := by
  rcases (surplus_mono h).eq_or_lt with hsame | hless
  · rw [rounded, rounded, hsame]
    exact Nat.mul_le_mul_right _ (divideToEven_mono h)
  · -- With more bits the number is at least the next power of two, which rounding cannot leave.
    have hlow : divideToEven a (2 ^ surplus a) ≤ 2 ^ 53 :=
      (divideToEven_le _ _).trans (div_lt_of_surplus a)
    have hhigh : 2 ^ 52 ≤ divideToEven b (2 ^ surplus b) :=
      (le_div_of_surplus (by omega)).trans (le_divideToEven _ _)
    calc rounded a ≤ 2 ^ 53 * 2 ^ surplus a := Nat.mul_le_mul_right _ hlow
      _ = 2 ^ (53 + surplus a) := (Nat.pow_add ..).symm
      _ ≤ 2 ^ (52 + surplus b) := Nat.pow_le_pow_right (by decide) (by omega)
      _ = 2 ^ 52 * 2 ^ surplus b := Nat.pow_add ..
      _ ≤ rounded b := Nat.mul_le_mul_right _ hhigh

theorem surplus_le {m : Nat} (hm : m < 2 ^ 53) (k : Nat) : surplus (m * 2 ^ k) ≤ k := by
  by_cases hzero : m * 2 ^ k = 0
  · rw [hzero]
    exact Nat.zero_le _
  · have hbits : (m * 2 ^ k).log2 < 53 + k := by
      rw [Nat.log2_lt hzero, Nat.pow_add]
      exact Nat.mul_lt_mul_of_pos_right hm (Nat.two_pow_pos _)
    unfold surplus
    omega

/-- What has at most 53 bits in front of its zeros stays as it is. -/
theorem rounded_eq_self {m : Nat} (hm : m < 2 ^ 53) (k : Nat) : rounded (m * 2 ^ k) = m * 2 ^ k := by
  have hle : surplus (m * 2 ^ k) ≤ k := surplus_le hm k
  have hsplit : m * 2 ^ k = m * 2 ^ (k - surplus (m * 2 ^ k)) * 2 ^ surplus (m * 2 ^ k) := by
    rw [Nat.mul_assoc, ← Nat.pow_add, Nat.sub_add_cancel hle]
  unfold rounded
  generalize surplus (m * 2 ^ k) = j at hsplit
  rw [hsplit, divideToEven_mul_self _ (Nat.two_pow_pos _)]

/-! ### Shifting -/

/-- What a mantissa is after shifting a number: its quotient, with a bit for the first digit behind it and
one for all others. -/
structure IsShift (n k : Nat) (em : ExtendedMantissa) : Prop where
  mantissa : em.mantissa = n / 2 ^ k
  roundBit : em.roundBit ↔ 2 ^ k ≤ 2 * (n % 2 ^ k)
  stickyBit : em.stickyBit ↔ 2 * (n % 2 ^ k) ≠ 0 ∧ 2 * (n % 2 ^ k) ≠ 2 ^ k

theorem IsShift.shiftRightOne {n k : Nat} {em : ExtendedMantissa} (h : IsShift n k em) :
    IsShift n (k + 1) em.shiftRightOne := by
  have hpow : 2 ^ (k + 1) = 2 ^ k * 2 := Nat.pow_succ ..
  have hmod : n % 2 ^ (k + 1) = n % 2 ^ k + 2 ^ k * (n / 2 ^ k % 2) := by
    rw [hpow, Nat.mod_mul]
  have hless := Nat.mod_lt n (Nat.two_pow_pos k)
  have hround := h.roundBit
  have hsticky := h.stickyBit
  refine ⟨?_, ?_, ?_⟩
  · show em.mantissa / 2 = n / 2 ^ (k + 1)
    rw [h.mantissa, hpow, Nat.div_div_eq_div_mul]
  · show (em.mantissa % 2 != 0) = true ↔ _
    rw [bne_iff_ne, h.mantissa, hmod, hpow]
    rcases Nat.mod_two_eq_zero_or_one (n / 2 ^ k) with hdigit | hdigit <;> rw [hdigit] <;> omega
  · show (em.roundBit || em.stickyBit) = true ↔ _
    rw [Bool.or_eq_true, hround, hsticky, hmod, hpow]
    rcases Nat.mod_two_eq_zero_or_one (n / 2 ^ k) with hdigit | hdigit <;> rw [hdigit] <;> omega

theorem isShift_shiftRight (n k : Nat) :
    IsShift n k (ExtendedMantissa.ofMantissaAndAccuracy n .exact >>> k) := by
  induction k with
  | zero =>
    have hmod : 2 * (n % 2 ^ 0) = 0 := by rw [Nat.pow_zero, Nat.mod_one]
    refine ⟨(Nat.div_one n).symm, ?_, ?_⟩
    · rw [hmod]
      exact ⟨nofun, nofun⟩
    · rw [hmod]
      exact ⟨nofun, fun h => absurd rfl h.1⟩
  | succ k ih => exact ih.shiftRightOne

theorem IsShift.roundedMantissa {n k : Nat} {em : ExtendedMantissa} (h : IsShift n k em) :
    em.roundedMantissa = divideToEven n (2 ^ k) := by
  obtain ⟨m, r, s⟩ := em
  obtain ⟨hm, hr, hs⟩ := h
  simp only at hm hr hs
  have hpos := Nat.two_pow_pos k
  rw [divideToEven_eq, ← hm]
  -- The two bits say where the remainder lies: at zero, below a half, at a half, or above it.
  cases r with
  | false =>
    have hbelow : 2 * (n % 2 ^ k) < 2 ^ k := Nat.lt_of_not_le fun h => nomatch hr.2 h
    have heven : (ExtendedMantissa.mk m false s).roundedMantissa = m := by cases s <;> rfl
    rw [heven, if_neg (by omega), Nat.add_zero]
  | true =>
    have habove := hr.1 rfl
    cases s with
    | false =>
      have hhalf : 2 * (n % 2 ^ k) = 2 ^ k := by
        by_contra h
        exact nomatch hs.2 ⟨by omega, h⟩
      show m + m % 2 = _
      rw [hhalf]
      split_ifs <;> omega
    | true =>
      obtain ⟨-, hne⟩ := hs.1 rfl
      show m + 1 = _
      rw [if_pos (by omega)]

theorem roundedMantissa_shiftRight (n k : Nat) :
    (ExtendedMantissa.ofMantissaAndAccuracy n .exact >>> k).roundedMantissa =
      divideToEven n (2 ^ k) :=
  (isShift_shiftRight n k).roundedMantissa

theorem log2_magnitude {m : Nat} (hm : 0 < m) (e : Int) :
    (magnitude m e).log2 = m.log2 + (e + 1074).toNat := by
  have hpos := magnitude_pos hm e
  rw [Nat.log2_eq_iff hpos.ne']
  have hlow := Nat.log2_self_le hm.ne'
  have hhigh := Nat.lt_log2_self (n := m)
  constructor
  · rw [Nat.pow_add]
    exact Nat.mul_le_mul_right _ hlow
  · rw [Nat.add_right_comm, Nat.pow_add]
    exact Nat.mul_lt_mul_of_pos_right hhigh (Nat.two_pow_pos _)

theorem targetExponent_eq {m : Nat} {e : Int} (hm : 0 < m) (he : -1074 ≤ e) :
    Format.binary64.targetExponent (totalExponent m e) = surplus (magnitude m e) - 1074 := by
  have hmin : Format.binary64.minExponent = -1074 := by decide
  have hbits : (Format.binary64.mantissaBits : Int) = 53 := by decide
  rw [Format.targetExponent, totalExponent, hmin, hbits, surplus, log2_magnitude hm]
  omega

/-- A mantissa that is shifted to its target exponent is left with the bits that a double has. -/
theorem shiftToTargetExponent_eq {m : Nat} {e : Int} (hm : 0 < m) (he : -1074 ≤ e) :
    UnpackedFloat.shiftToTargetExponent Format.binary64 m e .exact =
      (ExtendedMantissa.ofMantissaAndAccuracy m .exact >>>
        (surplus (magnitude m e) - 1074 - e).toNat,
        e + (surplus (magnitude m e) - 1074 - e).toNat) := by
  unfold UnpackedFloat.shiftToTargetExponent
  rw [targetExponent_eq hm he]
  rfl

theorem magnitude_sub (m k : Nat) : magnitude m (k - 1074) = m * 2 ^ k := by
  have hexponent : ((k : Int) - 1074 + 1074).toNat = k := by omega
  rw [magnitude, hexponent]

/-- A mantissa of at most 53 bits, or of one bit and 53 zeros, is shifted without any loss. -/
theorem exists_shiftToTargetExponent {r k : Nat} (hpos : 0 < r) (hle : r ≤ 2 ^ 53)
    (hlow : 2 ^ 52 ≤ r ∨ k = 0) : ∃ em f,
      UnpackedFloat.shiftToTargetExponent Format.binary64 r (k - 1074) .exact = (em, f) ∧
        0 < em.mantissa ∧ magnitude em.mantissa f = r * 2 ^ k ∧ Normalized em.mantissa f := by
  obtain ⟨i, hi⟩ : ∃ i, i = ((surplus (r * 2 ^ k) : Int) - 1074 - (k - 1074)).toNat := ⟨_, rfl⟩
  have hmantissa := (isShift_shiftRight r i).mantissa
  rw [shiftToTargetExponent_eq hpos (by omega), magnitude_sub, ← hi]
  refine ⟨_, _, rfl, ?_⟩
  rw [hmantissa]
  rcases hle.lt_or_eq with hless | rfl
  · -- All bits fit, so nothing is shifted.
    obtain rfl : i = 0 := by
      have hbits := surplus_le hless k
      omega
    rw [Nat.pow_zero, Nat.div_one, Int.natCast_zero, add_zero, magnitude_sub]
    exact ⟨hpos, rfl, hless, by omega, by omega⟩
  · obtain rfl : i = 1 := by
      have hbits : (2 ^ 53 * 2 ^ k).log2 = 53 + k := by rw [← Nat.pow_add, Nat.log2_two_pow]
      unfold surplus at hi
      omega
    have hhalf : 2 ^ 53 / 2 ^ 1 = 2 ^ 52 := by decide
    have hexponent : (k - 1074 : Int) + (1 : Nat) = (k + 1 : Nat) - 1074 := by omega
    rw [hhalf, hexponent, magnitude_sub]
    exact ⟨by decide, by ring, by decide, by omega, .inl le_rfl⟩

/-- **Rounding.** A mantissa at an exponent is rounded to a canonical double, which has as many units as its
magnitude rounds to. -/
theorem exists_roundWithAccuracy {m : Nat} {e : Int} (s : Sign) (hm : 0 < m) (he : -1074 ≤ e)
    (hshift : e ≤ surplus (magnitude m e) - 1074) : ∃ n f, ∃ hn : 0 < n,
      UnpackedFloat.roundWithAccuracy Format.binary64 s m e .exact = .finite s n f hn ∧
        magnitude n f = rounded (magnitude m e) ∧ Normalized n f := by
  obtain ⟨k, hk⟩ : ∃ k, k = surplus (magnitude m e) := ⟨_, rfl⟩
  obtain ⟨r, hr⟩ : ∃ r, r = divideToEven (magnitude m e) (2 ^ k) := ⟨_, rfl⟩
  obtain ⟨j, hj⟩ : ∃ j : Nat, (k - 1074 - e : Int) = j := ⟨(k - 1074 - e : Int).toNat, by omega⟩
  -- The first shift leaves the quotient and what was cut off, which is rounded to even.
  have hfirst : (ExtendedMantissa.ofMantissaAndAccuracy m .exact >>> j).roundedMantissa = r := by
    have hsplit : k = j + (e + 1074).toNat := by omega
    rw [roundedMantissa_shiftRight, hr, hsplit, Nat.pow_add]
    exact (divideToEven_mul_right _ _ (Nat.two_pow_pos _)).symm
  have hle : r ≤ 2 ^ 53 := by
    rw [hr, hk]
    exact (divideToEven_le _ _).trans (div_lt_of_surplus _)
  have hlow : 2 ^ 52 ≤ r ∨ k = 0 := by
    by_cases hzero : k = 0
    · exact .inr hzero
    · rw [hr, hk]
      exact .inl ((le_div_of_surplus (hk ▸ hzero)).trans (le_divideToEven _ _))
  have hpos : 0 < r := by
    rcases hlow with hlow | hzero
    · omega
    · rw [hr, hzero, Nat.pow_zero, divideToEven_one]
      exact magnitude_pos hm e
  obtain ⟨em, f, hsecond, hmantissa, hmagnitude, hnormalized⟩ :=
    exists_shiftToTargetExponent hpos hle hlow
  refine ⟨em.mantissa, f, hmantissa, ?_, ?_, hnormalized⟩
  · rw [UnpackedFloat.roundWithAccuracy, shiftToTargetExponent_eq hm he]
    dsimp only
    rw [← hk, hj, Int.toNat_natCast, hfirst, ← hj, add_sub_cancel, hsecond]
    exact dif_neg hmantissa.ne'
  · rw [hmagnitude, rounded, ← hk, hr]

theorem magnitude_shiftLeft (m : Nat) {e : Int} {i : Nat} (he : -1074 ≤ e - i) :
    magnitude (m <<< i) (e - i) = magnitude m e := by
  have hexponent : (e + 1074).toNat = i + (e - i + 1074).toNat := by omega
  rw [magnitude, magnitude, Nat.shiftLeft_eq, hexponent, Nat.pow_add, Nat.mul_assoc]

theorem exists_round {m : Nat} {e : Int} (s : Sign) (hm : 0 < m) (he : -1074 ≤ e) :
    ∃ n f, ∃ hn : 0 < n, UnpackedFloat.round Format.binary64 s m e = .finite s n f hn ∧
      magnitude n f = rounded (magnitude m e) ∧ Normalized n f := by
  obtain ⟨i, hi⟩ : ∃ i, i = (e - (surplus (magnitude m e) - 1074)).toNat := ⟨_, rfl⟩
  have hleast : -1074 ≤ e - i := by omega
  have hsame := magnitude_shiftLeft m hleast
  unfold UnpackedFloat.round UnpackedFloat.decreaseExponent
  rw [targetExponent_eq hm he]
  dsimp only
  rw [← hi, ← hsame]
  refine exists_roundWithAccuracy s ?_ hleast ?_
  · rw [Nat.shiftLeft_eq]
    exact Nat.mul_pos hm (Nat.two_pow_pos i)
  · rw [hsame]
    omega


end Colloquy.Number
