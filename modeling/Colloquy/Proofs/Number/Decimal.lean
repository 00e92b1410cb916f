import Colloquy.Number.Reader
import Colloquy.Number.Shortest
import Colloquy.Proofs.Number.Nearest

/-!
# Decimals that read back

All conversions to doubles go to the nearest one of some value (`ofScaled_eq_nearest`, `ofDecimal_eq_nearest`,
`ofDecimalBounded_eq_nearest`), and a double is the nearest one of its own value (`nearest_reading`).  So the shortest
decimal of a double reads back as this double: it has been tested for it, or it has the value of the double itself
(`nearest_shortest`).
-/

namespace Colloquy.Number

variable {negative : Bool} {m : Nat} {e : Int} {x : Float}

/-! ### The value of a double -/

/-- A word of 64 bits from its three fields. -/
theorem word_fields {bits : Nat} (h : bits < 2 ^ 64) :
    bits = (if bits / 2 ^ 63 = 1 then 2 ^ 63 else 0) + bits / 2 ^ 52 % 2048 * 2 ^ 52 + bits % 2 ^ 52 := by
  split_ifs <;> omega

/-- The bits of a finite double are packed from its reading, whose mantissa is normalized. -/
theorem packBits_reading (h : Reading.ofFloat x = .finite negative m e) :
    packBits negative m e = x.toBits.toNat ∧ Normalized m e ∧ e ≤ 971 := by
  have hword := word_fields x.toBits.toNat_lt
  have hfraction : x.toBits.toNat % 2 ^ 52 < 2 ^ 52 := Nat.mod_lt _ (by decide)
  have hfield : x.toBits.toNat / 2 ^ 52 % 2048 < 2048 := Nat.mod_lt _ (by decide)
  have hhalf : Nat.pow 2 52 = 2 ^ 52 := rfl
  have hsign : Nat.pow 2 63 = 2 ^ 63 := rfl
  unfold Reading.ofFloat at h
  rw [hhalf, hsign] at h
  dsimp only at h
  generalize x.toBits.toNat / 2 ^ 52 % 2048 = field at h hword hfield
  generalize x.toBits.toNat % 2 ^ 52 = fraction at h hword hfraction
  by_cases hfull : (field == 2047) = true
  · rw [if_pos hfull] at h
    split at h <;> exact nomatch h
  rw [if_neg hfull] at h
  rw [beq_iff_eq] at hfull
  by_cases hzero : (field == 0) = true
  · rw [if_pos hzero] at h
    rw [beq_iff_eq] at hzero
    obtain ⟨rfl, rfl, rfl⟩ := Reading.finite.inj h
    refine ⟨?_, ⟨by omega, by omega, .inr rfl⟩, by omega⟩
    rw [packBits_eq _ (by omega), if_pos hfraction]
    simp only [beq_iff_eq]
    omega
  · rw [if_neg hzero] at h
    rw [beq_iff_eq] at hzero
    obtain ⟨rfl, rfl, rfl⟩ := Reading.finite.inj h
    have hbits : ¬2 ^ 52 + fraction < 2 ^ 52 := by omega
    have hexponent : ((field : Int) - 1075 + 1075).toNat = field := by omega
    have hrange : ¬2047 ≤ field := by omega
    refine ⟨?_, ⟨by omega, by omega, .inl (by omega)⟩, by omega⟩
    rw [packBits_eq _ (by omega), hexponent, if_neg hbits, if_neg hrange]
    simp only [beq_iff_eq]
    omega

/-! ### Doubles are nearest to their values -/

theorem exponentOf_value (h : Normalized m e) (hm : 0 < m) : exponentOf (m * 2 ^ e) = e := by
  have hm' : (0 : ℚ) < m := by exact_mod_cast hm
  have hpow : (0 : ℚ) < 2 ^ e := zpow_pos two_pos e
  have hbelow : (m : ℚ) * 2 ^ e < 2 ^ (e + 53) := by
    rw [add_comm, zpow_add₀ two_ne_zero]
    exact mul_lt_mul_of_pos_right (by exact_mod_cast h.lt) hpow
  have hlog : Int.log 2 ((m : ℚ) * 2 ^ e) < e + 53 :=
    (Int.lt_zpow_iff_log_lt (b := 2) (by decide) (mul_pos hm' hpow)).1 (by exact_mod_cast hbelow)
  have hleast := h.least
  unfold exponentOf
  rcases h.full with hfull | rfl
  · have habove : (2 : ℚ) ^ (e + 52) ≤ m * 2 ^ e := by
      rw [add_comm, zpow_add₀ two_ne_zero]
      exact mul_le_mul_of_nonneg_right (by exact_mod_cast hfull) hpow.le
    have hlog' : e + 52 ≤ Int.log 2 ((m : ℚ) * 2 ^ e) :=
      (Int.zpow_le_iff_le_log (b := 2) (by decide) (mul_pos hm' hpow)).1 (by exact_mod_cast habove)
    omega
  · omega

theorem nearestBits_value (negative : Bool) (h : Normalized m e) :
    nearestBits negative (m * 2 ^ e) = packBits negative m e := by
  unfold nearestBits
  rcases m.eq_zero_or_pos with rfl | hm
  · rw [Nat.cast_zero, zero_mul, if_pos rfl, packBits_eq _ (by decide), packBits_eq _ (by decide)]
    rfl
  · have hpos : (0 : ℚ) < m * 2 ^ e := mul_pos (by exact_mod_cast hm) (zpow_pos two_pos e)
    have hvalue : ((m : ℚ) * 2 ^ e) = (m : Nat) / (1 : Nat) * 2 ^ exponentOf (m * 2 ^ e) := by
      rw [exponentOf_value h hm, Nat.cast_one, div_one]
    rw [if_neg hpos.ne', mantissaOf_eq hpos.le one_pos hvalue, exponentOf_value h hm, divideToEven_one]

/-- **A double is the nearest one** to its own value. -/
theorem nearest_reading (h : Reading.ofFloat x = .finite negative m e) :
    nearest negative (m * 2 ^ e) = x := by
  obtain ⟨hpacked, hnormalized, -⟩ := packBits_reading h
  calc nearest negative (m * 2 ^ e) = Float.ofBits x.toBits.toNat.toUInt64 := by
        rw [nearest, nearestBits_value negative hnormalized, hpacked]
    _ = Float.ofBits x.toBits := congrArg Float.ofBits UInt64.ofNat_toNat
    _ = x := Float.ofBits_toBits x

/-! ### Powers of two and ten -/

theorem ofScaled_eq_nearest (negative : Bool) (m : Nat) (e : Int) :
    ofScaled negative m e = nearest negative (m * 2 ^ e) := by
  unfold ofScaled
  split_ifs with he
  · obtain ⟨n, rfl⟩ := Int.eq_ofNat_of_zero_le he
    have hvalue : ((m * Nat.pow 2 n : Nat) : ℚ) = m * 2 ^ n := by exact_mod_cast rfl
    rw [ofRatio_eq_nearest negative _ one_pos, Nat.cast_one, div_one, Int.toNat_natCast, hvalue,
      zpow_natCast]
  · obtain ⟨n, rfl⟩ : ∃ n : Nat, e = -n := ⟨(-e).toNat, by omega⟩
    have hvalue : ((Nat.pow 2 n : Nat) : ℚ) = 2 ^ n := by exact_mod_cast rfl
    have hpos : 0 < Nat.pow 2 n := Nat.two_pow_pos n
    rw [neg_neg, Int.toNat_natCast, ofRatio_eq_nearest negative _ hpos, hvalue, zpow_neg, zpow_natCast,
      ← div_eq_mul_inv]

/-- The number that a decimal writes. -/
def Decimal.value (d : Decimal) : ℚ := d.digits * 10 ^ d.exponent

theorem Decimal.value_nonneg (d : Decimal) : 0 ≤ d.value := by
  exact mul_nonneg d.digits.cast_nonneg (zpow_nonneg (by norm_num) _)

theorem ofDecimal_eq_nearest (negative : Bool) (d : Decimal) :
    ofDecimal negative d.digits d.exponent = nearest negative d.value := by
  obtain ⟨digits, exponent⟩ := d
  unfold ofDecimal Decimal.value
  dsimp only
  split_ifs with he
  · obtain ⟨n, rfl⟩ := Int.eq_ofNat_of_zero_le he
    have hvalue : ((digits * Nat.pow 10 n : Nat) : ℚ) = digits * 10 ^ n := by exact_mod_cast rfl
    rw [ofRatio_eq_nearest negative _ one_pos, Nat.cast_one, div_one, Int.toNat_natCast, hvalue,
      zpow_natCast]
  · obtain ⟨n, rfl⟩ : ∃ n : Nat, exponent = -n := ⟨(-exponent).toNat, by omega⟩
    have hvalue : ((Nat.pow 10 n : Nat) : ℚ) = 10 ^ n := by exact_mod_cast rfl
    have hpos : 0 < Nat.pow 10 n := Nat.pow_pos (by decide)
    rw [neg_neg, Int.toNat_natCast, ofRatio_eq_nearest negative _ hpos, hvalue, zpow_neg, zpow_natCast,
      ← div_eq_mul_inv]

/-- A power of ten that no double reaches. -/
theorem two_pow_le_ten_pow : (2 : ℚ) ^ 1024 ≤ 10 ^ (400 : Int) := by
  calc (2 : ℚ) ^ 1024 = (2 ^ 64) ^ 16 := pow_mul 2 64 16
    _ ≤ (10 ^ 25) ^ 16 := pow_le_pow_left₀ (by norm_num) (by norm_num) 16
    _ = 10 ^ 400 := (pow_mul 10 25 16).symm

/-- A power of ten below all doubles. -/
theorem ten_pow_lt_two_pow : (10 : ℚ) ^ (-401 : Int) < 2 ^ (-1075 : Int) := by
  rw [zpow_neg, zpow_neg]
  refine inv_strictAnti₀ (by norm_num) ?_
  calc (2 : ℚ) ^ 1075 = (2 ^ 43) ^ 25 := pow_mul 2 43 25
    _ < (10 ^ 16) ^ 25 := pow_lt_pow_left₀ (by norm_num) (by norm_num) (by decide)
    _ = 10 ^ 400 := (pow_mul 10 16 25).symm
    _ ≤ 10 ^ 401 := pow_le_pow_right₀ (by norm_num) (by decide)

/-- A decimal out of range is read as the number just beyond it that `ofDecimalBounded` takes in its place. -/
theorem ofDecimalBounded_eq_nearest (negative : Bool) {digits count : Nat} (h : digits < 10 ^ count)
    (e : Int) : ofDecimalBounded negative digits count e = nearest negative (digits * 10 ^ e) := by
  have hten : (0 : ℚ) < 10 ^ e := zpow_pos (by norm_num) e
  unfold ofDecimalBounded
  split_ifs with hzero hlarge hsmall
  · rw [beq_iff_eq] at hzero
    rw [hzero, ofDecimal_eq_nearest negative ⟨0, 0⟩, Decimal.value, Nat.cast_zero, zero_mul, zero_mul]
  · have hpos : (1 : ℚ) ≤ digits := by
      exact_mod_cast Nat.one_le_iff_ne_zero.2 (mt beq_iff_eq.2 hzero)
    have hvalue : (2 : ℚ) ^ 1024 ≤ digits * 10 ^ e := by
      calc (2 : ℚ) ^ 1024 ≤ 10 ^ (400 : Int) := two_pow_le_ten_pow
        _ ≤ 10 ^ e := zpow_le_zpow_right₀ (by norm_num) (by omega)
        _ ≤ digits * 10 ^ e := le_mul_of_one_le_left hten.le hpos
    have hstand : (2 : ℚ) ^ 1024 ≤ (1 : Nat) * 2 ^ (1100 : Int) := by
      rw [Nat.cast_one, one_mul]
      exact pow_le_pow_right₀ one_le_two (by decide)
    rw [ofScaled_eq_nearest]
    refine nearest_of_bits ?_ negative
    rw [nearestBits_large hvalue, nearestBits_large hstand]
  · have hvalue : (digits : ℚ) * 10 ^ e < 2 ^ (-1075 : Int) := by
      calc (digits : ℚ) * 10 ^ e < 10 ^ count * 10 ^ e :=
            mul_lt_mul_of_pos_right (by exact_mod_cast h) hten
        _ = 10 ^ (count + e) := by rw [zpow_add₀ (by norm_num), zpow_natCast]
        _ ≤ 10 ^ (-401 : Int) := zpow_le_zpow_right₀ (by norm_num) (by omega)
        _ < 2 ^ (-1075 : Int) := ten_pow_lt_two_pow
    rw [ofDecimal_eq_nearest negative ⟨0, 0⟩]
    refine nearest_of_bits ?_ negative
    rw [nearestBits_small (mul_nonneg digits.cast_nonneg hten.le) hvalue, Decimal.value, Nat.cast_zero,
      zero_mul]
    exact if_pos rfl
  · exact ofDecimal_eq_nearest negative ⟨digits, e⟩

/-! ### The shortest decimal -/

theorem stripTens_value (fuel : Nat) (d : Decimal) : (stripTens fuel d).value = d.value := by
  induction fuel generalizing d with
  | zero => rfl
  | succ fuel ih =>
    unfold stripTens
    split_ifs with h
    · have hdigits : d.digits = d.digits / 10 * 10 := by
        rw [beq_iff_eq] at h
        omega
      rw [ih, Decimal.value, Decimal.value, zpow_add_one₀ (by norm_num), mul_comm _ (10 : ℚ), ← mul_assoc]
      nth_rewrite 2 [hdigits]
      rw [Nat.cast_mul, Nat.cast_ofNat]
    · rfl

theorem exactDecimal_value (m : Nat) (e : Int) : (exactDecimal m e).value = m * 2 ^ e := by
  unfold exactDecimal
  split_ifs with he
  · obtain ⟨n, rfl⟩ := Int.eq_ofNat_of_zero_le he
    have hvalue : ((m * Nat.pow 2 n : Nat) : ℚ) = m * 2 ^ n := by exact_mod_cast rfl
    rw [Decimal.value, Int.toNat_natCast, hvalue, zpow_zero, mul_one, zpow_natCast]
  · obtain ⟨n, rfl⟩ : ∃ n : Nat, e = -n := ⟨(-e).toNat, by omega⟩
    have hvalue : ((m * Nat.pow 5 n : Nat) : ℚ) = m * 5 ^ n := by exact_mod_cast rfl
    have hten : (10 : ℚ) ^ n = 5 ^ n * 2 ^ n := by rw [← mul_pow]; norm_num
    rw [Decimal.value, neg_neg, Int.toNat_natCast, hvalue, zpow_neg, zpow_neg, zpow_natCast, zpow_natCast,
      hten]
    field_simp

/-- The shortest decimal has the same nearest double as the number that it stands for. -/
theorem nearestBits_shortest (m : Nat) (e : Int) :
    nearestBits false (shortest m e).value = nearestBits false (m * 2 ^ e) := by
  have hnonneg : (0 : ℚ) ≤ m * 2 ^ e := mul_nonneg m.cast_nonneg (zpow_nonneg (by norm_num) e)
  unfold shortest
  dsimp only
  rw [stripTens_value]
  generalize hfound : List.findSome? _ _ = found
  cases found with
  | none => rw [Option.getD_none, exactDecimal_value]
  | some d =>
    rw [Option.getD_some]
    obtain ⟨i, -, hfind⟩ := List.exists_of_findSome?_eq_some hfound
    have hread := List.find?_some hfind
    have hbits : (ofDecimal false d.digits d.exponent).toBits = (ofScaled false m e).toBits :=
      beq_iff_eq.1 hread
    rw [ofDecimal_eq_nearest, ofScaled_eq_nearest] at hbits
    exact bits_of_nearest d.value_nonneg hnonneg hbits

/-- **The shortest decimal** reads back as the double that it was made of. -/
theorem nearest_shortest (h : Reading.ofFloat x = .finite negative m e) :
    nearest negative (shortest m e).value = x := by
  rw [nearest_of_bits (nearestBits_shortest m e) negative, nearest_reading h]

theorem shortest_digits_pos (h : Normalized m e) (hm : 0 < m) : 0 < (shortest m e).digits := by
  have hbits := nearestBits_shortest m e
  rw [nearestBits_value false h, packBits_unsigned h.lt.ne] at hbits
  by_contra hzero
  have hvalue : (shortest m e).value = 0 := by
    rw [Decimal.value, Nat.eq_zero_of_not_pos hzero, Nat.cast_zero, zero_mul]
  have hnone : nearestBits false 0 = 0 := rfl
  have hleast := h.least
  rw [hvalue, hnone] at hbits
  split_ifs at hbits <;> omega

end Colloquy.Number
