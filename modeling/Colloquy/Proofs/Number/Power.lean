import Colloquy.Proofs.Number.Product

/-!
# Powers of numbers

A power of a double is the double nearest to the power of its value (`power_eq_nearest`), also where it is far out of
range and not computed, and an integer becomes the double nearest to it (`ofInt?_eq`).  A power that is multiplied by
another number has a result where both kinds of numbers are integers, and where all numbers on the way are in the range
of doubles (`Num.exists_scaledPow_iff`); its value is the exact one or a rounded one (`Num.value?_scaledPow`), which in
either case does not decrease from one power to the next (`Num.growth_mono`).
-/

namespace Colloquy

namespace Number

variable {q : ℚ} {m n : Nat} {e : Int}

/-! ### Doubles of integers -/

theorem isFinite_iff {x : Float} :
    isFinite x = true ↔ ∃ a : ℚ, (Num.float x).value? = some (a : WithTop ℚ) := by
  unfold isFinite
  rw [Num.value?]
  cases Reading.ofFloat x with
  | finite negative m e => exact iff_of_true rfl ⟨_, rfl⟩
  | infinite negative => cases negative <;> simp
  | undefined => simp

theorem isFinite_nearest (hq : 0 ≤ q) : isFinite (nearest false q) = true ↔ q < beyond := by
  rw [isFinite_iff, value?_nearest hq, approximate]
  split_ifs with h
  · exact iff_of_true ⟨_, rfl⟩ h
  · exact iff_of_false (by rintro ⟨a, ⟨⟩⟩) h

/-- An integer that is not negative becomes the double nearest to it, unless it is beyond the range of doubles. -/
theorem ofInt?_eq {n : Int} (hn : 0 ≤ n) :
    ofInt? n = if (n : ℚ) < beyond then some (nearest false n) else none := by
  obtain ⟨k, rfl⟩ := Int.eq_ofNat_of_zero_le hn
  have hnonneg : (0 : ℚ) ≤ (k : Int) := by exact_mod_cast hn
  have hdouble : ofRatio (decide ((k : Int) < 0)) (k : Int).natAbs 1 = nearest false (k : Int) := by
    rw [decide_eq_false (Int.not_lt.2 hn), ofRatio_eq_nearest false _ one_pos, Int.natAbs_natCast, Nat.cast_one,
      div_one, Int.cast_natCast]
  rw [ofInt?, hdouble]
  by_cases h : ((k : Int) : ℚ) < beyond
  · rw [if_pos h, if_pos ((isFinite_nearest hnonneg).2 h)]
  · rw [if_neg h, if_neg (mt (isFinite_nearest hnonneg).1 h)]

theorem toFloat_int {n : Int} (hn : 0 ≤ n) : (Num.int n).toFloat =
    if (n : ℚ) < beyond then .ok (nearest false n) else .error .tooLarge := by
  rw [Num.toFloat, ofInt?_eq hn]
  by_cases h : (n : ℚ) < beyond
  · rw [if_pos h, if_pos h]
  · rw [if_neg h, if_neg h]

/-- A whole number of 401 digits is beyond the range of doubles. -/
theorem ofInt?_vast : ofInt? (10 ^ 400) = none := by
  have hbeyond : beyond ≤ ((10 ^ 400 : Int) : ℚ) := by
    calc beyond
      _ ≤ (2 : ℚ) ^ 1024 := sub_le_self _ (by positivity)
      _ = (2 ^ 256) ^ 4 := by rw [← pow_mul]
      _ ≤ (10 ^ 100) ^ 4 := pow_le_pow_left₀ (by positivity) (by norm_num) 4
      _ = ((10 ^ 400 : Int) : ℚ) := by rw [← pow_mul, Int.cast_pow, Int.cast_ofNat]
  rw [ofInt?_eq (by positivity), if_neg (not_lt_of_ge hbeyond)]

/-! ### Powers -/

theorem stripTwos_value (fuel m : Nat) (e : Int) :
    ((stripTwos fuel m e).1 * 2 ^ (stripTwos fuel m e).2 : ℚ) = m * 2 ^ e := by
  induction fuel generalizing m e with
  | zero => rfl
  | succ fuel ih =>
    unfold stripTwos
    split_ifs with heven
    · have hhalf : (m : ℚ) = (m / 2 : Nat) * 2 := by
        rw [beq_iff_eq] at heven
        exact_mod_cast (Nat.div_mul_cancel (Nat.dvd_of_mod_eq_zero heven)).symm
      rw [ih, zpow_add_one₀ two_ne_zero, hhalf]
      ring
    · rfl

/-- Sixty-four times the binary logarithm of a scaled number, within one. -/
theorem scaled_pow_bounds (hm : 0 < m) (e : Int) :
    (2 : ℚ) ^ (((m ^ 64).log2 : Int) + 64 * e) ≤ (m * 2 ^ e) ^ 64 ∧
      (m * 2 ^ e : ℚ) ^ 64 < 2 ^ (((m ^ 64).log2 : Int) + 64 * e + 1) := by
  have hpow : (0 : ℚ) < 2 ^ (64 * e) := zpow_pos two_pos _
  have hsplit : (m * 2 ^ e : ℚ) ^ 64 = (m ^ 64 : Nat) * 2 ^ (64 * e) := by
    rw [mul_pow, Nat.cast_pow, mul_comm (64 : Int) e, zpow_mul]
    rfl
  rw [hsplit]
  constructor
  · rw [zpow_add₀ two_ne_zero, zpow_natCast]
    exact mul_le_mul_of_nonneg_right (by exact_mod_cast Nat.log2_self_le (Nat.pow_pos hm).ne') hpow.le
  · rw [add_right_comm, zpow_add₀ two_ne_zero, ← Nat.cast_succ, zpow_natCast]
    exact mul_lt_mul_of_pos_right (by exact_mod_cast Nat.lt_log2_self) hpow

/-- A power is above all doubles if the logarithm of its base says so. -/
theorem two_pow_le_pow {v : ℚ} {size : Int} (hv : 0 < v) (hlow : 2 ^ size ≤ v ^ 64) (hn : 64 * 1100 < n * size) :
    2 ^ 1024 ≤ v ^ n := by
  refine le_of_pow_le_pow_left₀ (by decide : 64 ≠ 0) (by positivity) ?_
  calc ((2 : ℚ) ^ 1024) ^ 64 = 2 ^ ((1024 * 64 : Nat) : Int) := by rw [← pow_mul, zpow_natCast]
    _ ≤ 2 ^ (size * n) := zpow_le_zpow_right₀ one_le_two (by rw [mul_comm size]; omega)
    _ = (2 ^ size) ^ n := by rw [zpow_mul, zpow_natCast]
    _ ≤ (v ^ 64) ^ n := pow_le_pow_left₀ (by positivity) hlow n
    _ = (v ^ n) ^ 64 := pow_right_comm v 64 n

/-- A power is below all doubles if the logarithm of its base says so. -/
theorem pow_lt_two_pow {v : ℚ} {size : Int} (hv : 0 < v) (hhigh : v ^ 64 < 2 ^ (size + 1))
    (hn : n * (size + 1) < -(64 * 1200)) : v ^ n < 2 ^ (-1075 : Int) := by
  refine lt_of_pow_lt_pow_left₀ 64 (by positivity) ?_
  calc (v ^ n) ^ 64 = (v ^ 64) ^ n := pow_right_comm v n 64
    _ ≤ (2 ^ (size + 1)) ^ n := pow_le_pow_left₀ (by positivity) hhigh.le n
    _ = 2 ^ ((size + 1) * n) := by rw [zpow_mul, zpow_natCast]
    _ < 2 ^ ((-1075 : Int) * (64 : Nat)) :=
        zpow_lt_zpow_right₀ one_lt_two (by rw [mul_comm (size + 1)]; omega)
    _ = (2 ^ (-1075 : Int)) ^ 64 := by rw [zpow_mul, zpow_natCast]

theorem powerOfScaled_eq_nearest (hm : 0 < m) (e : Int) (n : Nat) :
    powerOfScaled false m e n = nearest false ((m * 2 ^ e) ^ n) := by
  have hvalue := stripTwos_value 53 m e
  unfold powerOfScaled
  generalize stripTwos 53 m e = stripped at hvalue ⊢
  obtain ⟨k, f⟩ := stripped
  have hpos : (0 : ℚ) < k * 2 ^ f := by
    rw [hvalue]
    positivity
  have hk : 0 < k := by exact_mod_cast (mul_pos_iff_of_pos_right (zpow_pos two_pos f)).1 hpos
  obtain ⟨hlow, hhigh⟩ := scaled_pow_bounds hk f
  have hpow : Nat.pow k 64 = k ^ 64 := rfl
  have hpow' : Nat.pow k n = k ^ n := rfl
  have hscaled : (k * 2 ^ f : ℚ) ^ n = (k ^ n : Nat) * 2 ^ (f * n) := by
    rw [mul_pow, Nat.cast_pow, zpow_mul, zpow_natCast]
  dsimp only at hvalue ⊢
  rw [← hvalue, hpow, hpow']
  -- Far out of range the power is not computed, and a number on the same side of all doubles stands for it.
  split_ifs with hlarge hsmall
  · have hstand : (2 : ℚ) ^ 1024 ≤ (1 : Nat) * 2 ^ (1100 : Int) := by
      rw [Nat.cast_one, one_mul]
      exact pow_le_pow_right₀ one_le_two (by decide)
    rw [ofScaled_eq_nearest]
    refine nearest_of_bits ?_ false
    rw [nearestBits_large (two_pow_le_pow hpos hlow hlarge), nearestBits_large hstand]
  · rw [ofScaled_eq_nearest, Nat.cast_zero, zero_mul]
    refine nearest_of_bits ?_ false
    rw [nearestBits_small (by positivity) (pow_lt_two_pow hpos hhigh hsmall)]
    exact if_pos rfl
  · rw [ofScaled_eq_nearest, hscaled]

/-- **Powers.** A power of a positive double is the double nearest to the power of its value, also where it is out of
range and not computed. -/
theorem power_eq_nearest {x : Float} (h : Reading.ofFloat x = .finite false m e) (hm : 0 < m) (n : Nat) :
    power x n = nearest false ((m * 2 ^ e) ^ n) := by
  unfold power
  rw [h]
  dsimp only
  rcases n.eq_zero_or_pos with rfl | hn
  · have hone : Reading.ofFloat 1.0 = .finite false (2 ^ 52) (-52) := by decide
    have hvalue : ((2 ^ 52 : Nat) * 2 ^ (-52 : Int) : ℚ) = 1 := by norm_num
    rw [pow_zero, ← hvalue, nearest_reading hone]
    rfl
  · rw [if_neg (by simpa using hn.ne'), if_neg (by simpa using hm.ne')]
    exact powerOfScaled_eq_nearest hm e n

end Number

namespace Num

open Number

variable {a base factor p e : Num} {v w : WithTop ℚ} {b f : ℚ} {n : Nat}

/-! ### Doubles of numbers -/

theorem exists_toFloat_iff (h : a.value? = some (b : WithTop ℚ)) (hb : 0 ≤ b) :
    (∃ x, a.toFloat = .ok x) ↔ b < beyond := by
  cases a with
  | int k =>
    obtain rfl : (k : ℚ) = b := WithTop.coe_injective (Option.some.inj h)
    rw [toFloat_int (by exact_mod_cast hb)]
    split_ifs with hless
    · exact iff_of_true ⟨_, rfl⟩ hless
    · exact iff_of_false nofun hless
  | float x => exact iff_of_true ⟨x, rfl⟩ (rounding_of_value h hb).2

/-- A number that becomes a double has the value of the double nearest to it. -/
theorem value?_toFloat {x : Float} (h : a.value? = some (b : WithTop ℚ)) (hb : 0 ≤ b) (hx : a.toFloat = .ok x) :
    (float x).value? = some (rounding b : WithTop ℚ) := by
  have hless := (exists_toFloat_iff h hb).1 ⟨x, hx⟩
  cases a with
  | int k =>
    obtain rfl : (k : ℚ) = b := WithTop.coe_injective (Option.some.inj h)
    rw [toFloat_int (by exact_mod_cast hb), if_pos hless] at hx
    rw [← Except.ok.inj hx, value?_nearest hb, approximate_of_lt hless]
  | float y =>
    obtain rfl : y = x := Except.ok.inj hx
    rw [(rounding_of_value h hb).1, h]

/-! ### The smaller of two numbers -/

theorem value?_min (ha : a.value? = some v) (hp : p.value? = some w) : (a.min p).value? = some (v ⊓ w) := by
  have hlt := lt_iff_value hp ha
  unfold Num.min
  split_ifs with h
  · rw [inf_eq_right.2 (hlt.1 h).le, hp]
  · rw [inf_eq_left.2 (not_lt.1 (mt hlt.2 h)), ha]

/-! ### Powers of both kinds -/

theorem power_of_value {x : Float} (h : (float x).value? = some (f : WithTop ℚ)) (hf : 0 < f) (n : Nat) :
    power x n = nearest false (f ^ n) := by
  rcases reading_of_value h with ⟨-, htop⟩ | ⟨negative, m, e, hreading, hvalue⟩
  · exact absurd htop WithTop.coe_ne_top
  obtain rfl := WithTop.coe_injective hvalue
  have hpos : (0 : Int) < if negative then -(m : Int) else m := by
    exact_mod_cast (mul_pos_iff_of_pos_right (zpow_pos two_pos e)).1 hf
  cases negative with
  | true => exact absurd hpos (not_lt.2 (neg_nonpos.2 (Int.natCast_nonneg m)))
  | false => exact power_eq_nearest hreading (Int.natCast_pos.1 hpos) n

/-- A power of a double is a fault where the double nearest to it would be infinite. -/
theorem floatPow_eq {x : Float} (h : (float x).value? = some (f : WithTop ℚ)) (hf : 0 < f) (n : Nat) :
    floatPow x n = if f ^ n < beyond then .ok (float (nearest false (f ^ n))) else .error .overflow := by
  have hfinite : isFinite x = true := isFinite_iff.2 ⟨f, h⟩
  rw [floatPow, if_neg (Int.not_lt.2 n.cast_nonneg), Int.natAbs_natCast, power_of_value h hf, hfinite]
  dsimp only
  rw [Bool.true_and]
  by_cases hless : f ^ n < beyond
  · rw [(isFinite_nearest (pow_pos hf n).le).2 hless, if_pos hless]
    rfl
  · rw [Bool.eq_false_iff.2 (mt (isFinite_nearest (pow_pos hf n).le).1 hless), if_neg hless]
    rfl

theorem pow_int (k : Int) (n : Nat) : (int k).pow n = .ok (int (k ^ n)) := by
  rw [pow, if_neg (Int.not_lt.2 n.cast_nonneg)]
  rfl

theorem value?_int_pow (k : Int) (n : Nat) : (int (k ^ n)).value? = some (((k : ℚ) ^ n : ℚ) : WithTop ℚ) := by
  rw [value?, Int.cast_pow]

theorem exists_pow_toFloat_iff (h : factor.value? = some (f : WithTop ℚ)) (hf : 0 < f) :
    (∃ p y, factor.pow n = .ok p ∧ p.toFloat = .ok y) ↔ f ^ n < beyond := by
  cases factor with
  | int k =>
    obtain rfl : (k : ℚ) = f := WithTop.coe_injective (Option.some.inj h)
    rw [pow_int, ← exists_toFloat_iff (value?_int_pow k n) (pow_pos hf n).le]
    constructor
    · rintro ⟨_, y, ⟨⟩, hy⟩
      exact ⟨y, hy⟩
    · rintro ⟨y, hy⟩
      exact ⟨_, y, rfl, hy⟩
  | float x =>
    show (∃ p y, floatPow x n = .ok p ∧ p.toFloat = .ok y) ↔ _
    rw [floatPow_eq h hf]
    split_ifs with hless
    · exact iff_of_true ⟨_, _, rfl, rfl⟩ hless
    · exact iff_of_false (by simp) hless

/-- A power that becomes a double has the value of the double nearest to it. -/
theorem value?_pow_toFloat {y : Float} (h : factor.value? = some (f : WithTop ℚ)) (hf : 0 < f)
    (hp : factor.pow n = .ok p) (hy : p.toFloat = .ok y) :
    (float y).value? = some (rounding (f ^ n) : WithTop ℚ) := by
  have hless := (exists_pow_toFloat_iff h hf).1 ⟨p, y, hp, hy⟩
  cases factor with
  | int k =>
    obtain rfl : (k : ℚ) = f := WithTop.coe_injective (Option.some.inj h)
    rw [pow_int] at hp
    obtain rfl := Except.ok.inj hp
    exact value?_toFloat (value?_int_pow k n) (pow_pos hf n).le hy
  | float x =>
    have hpower : floatPow x n = .ok p := hp
    rw [floatPow_eq h hf, if_pos hless] at hpower
    obtain rfl := Except.ok.inj hpower
    obtain rfl := Except.ok.inj hy
    rw [value?_nearest (pow_pos hf n).le, approximate_of_lt hless]

/-! ### Multiples of powers -/

/-- A number times a power of another one. -/
def scaledPow (base factor : Num) (n : Int) : Except Fault Num := do
  let power ← factor.pow n
  base.mul power

/-- Whether a number is an integer as it was written. -/
def isInt : Num → Bool
  | int _ => true
  | float _ => false

/-- The value of a multiple of a power: exact, or rounded after each step. -/
def growth (exact : Bool) (b f : ℚ) (n : Nat) : WithTop ℚ :=
  if exact then ((b * f ^ n : ℚ) : WithTop ℚ) else approximate (rounding b * rounding (f ^ n))

theorem growth_nonneg (exact : Bool) (hb : 0 ≤ b) (hf : 0 ≤ f) (n : Nat) : 0 ≤ growth exact b f n := by
  unfold growth
  split_ifs
  · exact_mod_cast mul_nonneg hb (pow_nonneg hf n)
  · exact approximate_nonneg _

/-- **Growth.** Powers of a number that is at least one do not decrease, rounded or not. -/
theorem growth_mono (exact : Bool) (hb : 0 ≤ b) (hf : 1 ≤ f) : Monotone (growth exact b f) := by
  intro i j h
  have hpow : f ^ i ≤ f ^ j := pow_le_pow_right₀ hf h
  have hpos : 0 ≤ f ^ i := pow_nonneg (zero_le_one.trans hf) i
  unfold growth
  split_ifs
  · exact_mod_cast mul_le_mul_of_nonneg_left hpow hb
  · have hnonneg : 0 ≤ rounding b * rounding (f ^ i) := mul_nonneg (rounding_nonneg b) (rounding_nonneg _)
    exact approximate_mono hnonneg (mul_le_mul_of_nonneg_left (rounding_mono hpos hpow) (rounding_nonneg b))

/-- Two integers are multiplied exactly, and all other numbers as doubles. -/
theorem mul_ok_iff (h : (a.isInt && p.isInt) = false) :
    a.mul p = .ok e ↔ ∃ x y, a.toFloat = .ok x ∧ p.toFloat = .ok y ∧ e = float (x * y) := by
  have hmul : a.mul p = do
      let x ← a.toFloat
      let y ← p.toFloat
      return float (x * y) := by
    cases a with
    | int k =>
      cases p with
      | int l => exact nomatch h
      | float y => rfl
    | float x => cases p <;> rfl
  rw [hmul]
  constructor
  · intro hproduct
    obtain ⟨x, hx, hproduct⟩ := exists_of_bind_ok hproduct
    obtain ⟨y, hy, hproduct⟩ := exists_of_bind_ok hproduct
    exact ⟨x, y, hx, hy, (Except.ok.inj hproduct).symm⟩
  · rintro ⟨x, y, hx, hy, rfl⟩
    rw [hx, hy]
    rfl

theorem isInt_pow (hp : factor.pow n = .ok p) : p.isInt = factor.isInt := by
  cases factor with
  | int k =>
    rw [pow_int] at hp
    obtain rfl := Except.ok.inj hp
    rfl
  | float x =>
    have hpower : floatPow x n = .ok p := hp
    rw [floatPow, if_neg (Int.not_lt.2 n.cast_nonneg)] at hpower
    dsimp only at hpower
    split_ifs at hpower
    rw [← Except.ok.inj hpower]
    rfl

theorem scaledPow_ok_iff (h : (base.isInt && factor.isInt) = false) : base.scaledPow factor n = .ok e ↔
    ∃ p x y, factor.pow n = .ok p ∧ base.toFloat = .ok x ∧ p.toFloat = .ok y ∧ e = float (x * y) := by
  unfold scaledPow
  constructor
  · intro hscaled
    obtain ⟨p, hp, hproduct⟩ := exists_of_bind_ok hscaled
    rw [← isInt_pow hp] at h
    obtain ⟨x, y, hx, hy, he⟩ := (mul_ok_iff h).1 hproduct
    exact ⟨p, x, y, hp, hx, hy, he⟩
  · rintro ⟨p, x, y, hp, hx, hy, he⟩
    rw [← isInt_pow hp] at h
    rw [hp]
    exact (mul_ok_iff h).2 ⟨x, y, hx, hy, he⟩

/-- Both numbers are integers, or all numbers on the way to a multiple of a power are in the range of doubles. -/
def InRange (base factor : Num) (b f : ℚ) (n : Nat) : Prop :=
  (base.isInt && factor.isInt) = true ∨ b < beyond ∧ f ^ n < beyond

theorem InRange.of_le {m : Nat} (h : InRange base factor b f n) (hf : 1 ≤ f) (hle : m ≤ n) :
    InRange base factor b f m :=
  h.imp_right fun hless => ⟨hless.1, (pow_le_pow_right₀ hf hle).trans_lt hless.2⟩

theorem scaledPow_int (k l : Int) (n : Nat) : (int k).scaledPow (int l) n = .ok (int (k * l ^ n)) := by
  rw [scaledPow, pow_int]
  rfl

/-- **The range of powers.** -/
theorem exists_scaledPow_iff (hbase : base.value? = some (b : WithTop ℚ))
    (hfactor : factor.value? = some (f : WithTop ℚ)) (hb : 0 ≤ b) (hf : 0 < f) :
    (∃ e, base.scaledPow factor n = .ok e) ↔ InRange base factor b f n := by
  cases h : base.isInt && factor.isInt with
  | true =>
    refine iff_of_true ?_ (.inl h)
    cases base with
    | float x => exact nomatch h
    | int k =>
      cases factor with
      | float x => exact nomatch h
      | int l => exact ⟨_, scaledPow_int k l n⟩
  | false =>
    rw [InRange, h, ← exists_toFloat_iff hbase hb, ← exists_pow_toFloat_iff hfactor hf]
    simp only [scaledPow_ok_iff h]
    constructor
    · rintro ⟨e, p, x, y, hp, hx, hy, -⟩
      exact .inr ⟨⟨x, hx⟩, p, y, hp, hy⟩
    · rintro (hint | ⟨⟨x, hx⟩, p, y, hp, hy⟩)
      · exact nomatch hint
      · exact ⟨_, p, x, y, hp, hx, hy, rfl⟩

/-- **The value of a multiple of a power.** -/
theorem value?_scaledPow (hbase : base.value? = some (b : WithTop ℚ))
    (hfactor : factor.value? = some (f : WithTop ℚ)) (hb : 0 ≤ b) (hf : 0 < f)
    (he : base.scaledPow factor n = .ok e) :
    e.value? = some (growth (base.isInt && factor.isInt) b f n) := by
  cases h : base.isInt && factor.isInt with
  | true =>
    cases base with
    | float x => exact nomatch h
    | int k =>
      cases factor with
      | float x => exact nomatch h
      | int l =>
        obtain rfl : (k : ℚ) = b := WithTop.coe_injective (Option.some.inj hbase)
        obtain rfl : (l : ℚ) = f := WithTop.coe_injective (Option.some.inj hfactor)
        rw [scaledPow_int] at he
        obtain rfl := Except.ok.inj he
        rw [growth, if_pos rfl, value?, Int.cast_mul, Int.cast_pow]
  | false =>
    obtain ⟨p, x, y, hp, hx, hy, rfl⟩ := (scaledPow_ok_iff h).1 he
    exact value?_mul (value?_toFloat hbase hb hx) (value?_pow_toFloat hfactor hf hp hy) (rounding_nonneg b)
      (rounding_nonneg _)

end Num

end Colloquy
