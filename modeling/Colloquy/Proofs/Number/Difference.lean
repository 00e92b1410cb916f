import Colloquy.Proofs.Number.Rounding

/-!
# Differences and sums of doubles

The rank of a difference is a function of the ranks (`rank_sub`): where both are finite, the exact difference is
rounded, and infinite where it is out of range.  So a difference never increases when its first part decreases,
and what has passed since a later time is no more than what has passed since an earlier one
(`sub_lt_of_le`).  A sum is the difference to the opposite (`rank_add`).
-/

namespace Colloquy.Number

open Float.Model (UnpackedFloat Format)
open Float.Model.UnpackedFloat (Sign)

/-! ### Packing -/

theorem ofBitVec_unpackSign (s : Sign) (field : BitVec 11) (mantissa : BitVec 52) :
    Sign.ofBitVec (UnpackedFloat.unpackSign
      (UnpackedFloat.packComponents Format.binary64 s field mantissa)) = s := by
  have hsign : UnpackedFloat.unpackSign
      (UnpackedFloat.packComponents Format.binary64 s field mantissa) = s.toBitVec := by
    refine BitVec.eq_of_getLsbD_eq fun i hi => ?_
    obtain rfl : i = 0 := by omega
    delta UnpackedFloat.unpackSign
    simp only [UnpackedFloat.packComponents, BitVec.getLsbD_cast, BitVec.getLsbD_extractLsb]
    rw [BitVec.getLsbD_append, BitVec.getLsbD_append]
    simp
  rw [hsign]
  cases s <;> rfl

/-- A double whose exponent field is neither zero nor full has the implicit bit. -/
theorem unpack_normal (s : Sign) {field m : Nat} (hfield : 0 < field) (hlt : field < 2047)
    (hm : 2 ^ 52 ≤ m) (hm' : m < 2 ^ 53) (hpos : 0 < m) :
    UnpackedFloat.unpack Format.binary64 (UnpackedFloat.packComponents Format.binary64 s
      (BitVec.ofNat 11 field) (BitVec.ofNat 52 m)) = .finite s m (field - 1075) hpos := by
  have hvalue : (BitVec.ofNat 11 field).toNat = field := by
    rw [BitVec.toNat_ofNat, Nat.mod_eq_of_lt (by omega)]
  have hmantissa : (1#1 ++ BitVec.ofNat 52 m).toNat = m := by
    rw [toNat_implicit_append, BitVec.toNat_ofNat]
    omega
  have hfull : BitVec.ofNat 11 field ≠ -1#11 := fun h => by
    have hnat := congrArg BitVec.toNat h
    rw [hvalue] at hnat
    exact absurd hnat hlt.ne
  have hzero : BitVec.ofNat 11 field ≠ 0#11 := fun h => by
    have hnat := congrArg BitVec.toNat h
    rw [hvalue] at hnat
    exact absurd hnat hfield.ne'
  have hexponent : UnpackedFloat.unpackExponent (UnpackedFloat.packComponents Format.binary64 s
      (BitVec.ofNat 11 field) (BitVec.ofNat 52 m)) = BitVec.ofNat 11 field :=
    UnpackedFloat.unpackExponent_packComponents
  have hfraction : UnpackedFloat.unpackMantissa (UnpackedFloat.packComponents Format.binary64 s
      (BitVec.ofNat 11 field) (BitVec.ofNat 52 m)) = BitVec.ofNat 52 m :=
    UnpackedFloat.unpackMantissa_packComponents
  unfold UnpackedFloat.unpack
  rw [if_neg (hexponent.trans_ne hfull), if_neg (hexponent.trans_ne hzero),
    UnpackedFloat.finite.injEq, ofBitVec_unpackSign, hexponent, hfraction]
  exact ⟨rfl, hmantissa, by rw [hvalue]; rfl⟩

theorem unpack_subnormal (s : Sign) {m : Nat} (hm : m < 2 ^ 52) (hpos : 0 < m) :
    UnpackedFloat.unpack Format.binary64 (UnpackedFloat.packComponents Format.binary64 s 0#11
      (BitVec.ofNat 52 m)) = .finite s m (-1074) hpos := by
  have hvalue : (BitVec.ofNat 52 m).toNat = m := by
    rw [BitVec.toNat_ofNat, Nat.mod_eq_of_lt hm]
  have hne : BitVec.ofNat 52 m ≠ 0#52 := fun h => by
    have hnat := congrArg BitVec.toNat h
    rw [hvalue] at hnat
    exact absurd hnat hpos.ne'
  have hfull : 0#11 ≠ -1#11 := by decide
  have hexponent : UnpackedFloat.unpackExponent (UnpackedFloat.packComponents Format.binary64 s
      0#11 (BitVec.ofNat 52 m)) = 0#11 := UnpackedFloat.unpackExponent_packComponents
  have hfraction : UnpackedFloat.unpackMantissa (UnpackedFloat.packComponents Format.binary64 s
      0#11 (BitVec.ofNat 52 m)) = BitVec.ofNat 52 m := UnpackedFloat.unpackMantissa_packComponents
  unfold UnpackedFloat.unpack
  rw [if_neg (hexponent.trans_ne hfull), if_pos hexponent, dif_neg (hfraction.trans_ne hne),
    UnpackedFloat.finite.injEq, ofBitVec_unpackSign, hexponent, hfraction]
  exact ⟨rfl, hvalue, rfl⟩

theorem unpack_infinity (s : Sign) : UnpackedFloat.unpack Format.binary64
    (UnpackedFloat.packComponents Format.binary64 s (-1#11) 0#52) = .infinity s := by
  have hexponent : UnpackedFloat.unpackExponent (UnpackedFloat.packComponents Format.binary64 s
      (-1#11) 0#52) = -1#11 := UnpackedFloat.unpackExponent_packComponents
  have hfraction : UnpackedFloat.unpackMantissa (UnpackedFloat.packComponents Format.binary64 s
      (-1#11) 0#52) = 0#52 := UnpackedFloat.unpackMantissa_packComponents
  unfold UnpackedFloat.unpack
  rw [if_pos hexponent, if_pos hfraction, ofBitVec_unpackSign]

/-- A packed double has its units, up to those of infinity. -/
theorem units_pack {m : Nat} {e : Int} (s : Sign) (hpos : 0 < m) (h : Normalized m e) :
    units (Float.Model.pack (.finite s m e hpos)).unpack =
      some (s.apply (min (magnitude m e) limit : Nat)) := by
  have hleast := h.least
  have hbias : e + (Format.binary64.exponentBias : Int) + (52 : Nat) = e + 1075 := by
    have hvalue : Format.binary64.exponentBias = 1023 := by decide
    omega
  have hpack : UnpackedFloat.pack Format.binary64 (.finite s m e hpos) =
      if 2 ^ 11 ≤ (e + 1075).toNat + 1 then
        UnpackedFloat.packComponents Format.binary64 s (-1#11) 0#52
      else if m.log2 + 1 = 53 then
        UnpackedFloat.packComponents Format.binary64 s (BitVec.ofNat 11 (e + 1075).toNat)
          (BitVec.ofNat 52 m)
      else UnpackedFloat.packComponents Format.binary64 s 0#11 (BitVec.ofNat 52 m) := by
    rw [← hbias]
    rfl
  show units (UnpackedFloat.unpack Format.binary64
    (UnpackedFloat.pack Format.binary64 (.finite s m e hpos))) = _
  rw [hpack]
  by_cases hlarge : 971 < e
  · have hlimit := limit_le_magnitude (h.full.resolve_right (by omega)) hlarge
    rw [if_pos (by omega), unpack_infinity, Nat.min_eq_right hlimit]
    rfl
  · have hless := magnitude_lt_limit h.lt (Int.not_lt.1 hlarge)
    rw [if_neg (by omega), Nat.min_eq_left hless.le]
    by_cases hnormal : 2 ^ 52 ≤ m
    · have hbits : m.log2 + 1 = 53 := by
        have hlow := (Nat.le_log2 hpos.ne').2 hnormal
        have hhigh := (Nat.log2_lt hpos.ne').2 h.lt
        omega
      have hfield : ((e + 1075).toNat : Int) - 1075 = e := by omega
      rw [if_pos hbits, unpack_normal s (by omega) (by omega) hnormal h.lt hpos, hfield]
      rfl
    · have hbits : m.log2 + 1 ≠ 53 := by
        have hhigh := (Nat.log2_lt hpos.ne').2 (Nat.lt_of_not_le hnormal)
        omega
      obtain rfl : e = -1074 := h.full.resolve_left hnormal
      rw [if_neg hbits, unpack_subnormal s (Nat.lt_of_not_le hnormal) hpos]
      rfl

theorem units_pack_infinity (s : Sign) :
    units (Float.Model.pack (.infinity s)).unpack = some (s.apply limit) :=
  congrArg units (unpack_infinity s)

theorem units_pack_zero (s : Sign) : units (Float.Model.pack (.zero s)).unpack = some 0 := by
  cases s <;> rfl

theorem units_pack_notANumber : units (Float.Model.pack .notANumber).unpack = none := rfl

/-! ### Rounding differences -/

/-- The units of the double nearest to some units, infinite where that is out of range. -/
def clamped (d : Int) : Int :=
  if d < 0 then -(min (rounded (-d).toNat) limit : Nat) else (min (rounded d.toNat) limit : Nat)

theorem clamped_mono {c d : Int} (h : c ≤ d) : clamped c ≤ clamped d := by
  unfold clamped
  split_ifs with hc hd
  · have hrounded := rounded_mono (Int.toNat_le_toNat (Int.neg_le_neg h))
    omega
  · omega
  · omega
  · have hrounded := rounded_mono (Int.toNat_le_toNat h)
    omega

theorem neg_limit_le_clamped (d : Int) : -limit ≤ clamped d := by
  unfold clamped
  split_ifs <;> omega

theorem clamped_apply (s : Sign) {n : Nat} (hn : 0 < n) :
    clamped (s.apply n) = s.apply (min (rounded n) limit : Nat) := by
  cases s with
  | negative =>
    show clamped (-(n : Int)) = _
    rw [clamped, if_pos (by omega), neg_neg, Int.toNat_natCast]
    rfl
  | positive => exact if_neg (Int.not_lt.2 (Int.natCast_nonneg n))

theorem clamped_zero : clamped 0 = 0 := by
  have hzero : rounded 0 = 0 := rfl
  rw [clamped, if_neg (lt_irrefl 0), Int.toNat_zero, hzero, Nat.zero_min]
  rfl

/-- What is the units of a double already is left as it is. -/
theorem clamped_magnitude (s : Sign) {m : Nat} {e : Int} (hpos : 0 < m) (h : Normalized m e)
    (he : e ≤ 971) : clamped (s.apply (magnitude m e)) = s.apply (magnitude m e) := by
  have hrounded : rounded (magnitude m e) = magnitude m e := rounded_eq_self h.lt _
  rw [clamped_apply s (magnitude_pos hpos e), hrounded,
    Nat.min_eq_left (magnitude_lt_limit h.lt he).le]

theorem units_round {m : Nat} {e : Int} (s : Sign) (hm : 0 < m) (he : -1074 ≤ e) :
    units (Float.Model.pack (UnpackedFloat.round Format.binary64 s m e)).unpack =
      some (clamped (s.apply (magnitude m e))) := by
  obtain ⟨n, f, hn, hround, hmagnitude, hnormalized⟩ := exists_round s hm he
  rw [hround, units_pack s hn hnormalized, hmagnitude, clamped_apply s (magnitude_pos hm e)]

/-- A signed mantissa at an exponent is rounded to a double. -/
theorem units_normalize (d : Int) {e : Int} (he : -1074 ≤ e) (s : Sign) :
    units (Float.Model.pack (UnpackedFloat.normalize Format.binary64 d e s)).unpack =
      some (clamped (d * (2 ^ (e + 1074).toNat : Nat))) := by
  unfold UnpackedFloat.normalize
  rcases lt_trichotomy d 0 with hd | rfl | hd
  · obtain ⟨n, rfl⟩ : ∃ n : Nat, d = -(n : Int) := ⟨(-d).toNat, by omega⟩
    rw [compare_lt_iff_lt.2 hd, neg_neg, Int.toNat_natCast, Int.neg_mul, ← Int.natCast_mul]
    exact units_round .negative (by omega) he
  · rw [compare_eq_iff_eq.2 rfl, Int.zero_mul, clamped_zero]
    exact units_pack_zero s
  · obtain ⟨n, rfl⟩ : ∃ n : Nat, d = n := ⟨d.toNat, by omega⟩
    rw [compare_gt_iff_gt.2 hd, Int.toNat_natCast, ← Int.natCast_mul]
    exact units_round .positive (by omega) he

/-! ### Ranks of differences -/

/-- The units of the difference of two doubles, unless it is undefined. -/
def difference (i j : Int) : Option Int :=
  if i.natAbs = limit then if j = i then none else some i
  else if j.natAbs = limit then some (-j)
  else some (clamped (i - j))

theorem natAbs_apply (s : Sign) (n : Nat) : (s.apply n).natAbs = n := by
  cases s with
  | negative => exact Int.natAbs_neg n
  | positive => rfl

theorem apply_neg (s : Sign) (n : Int) : (-s).apply n = -s.apply n := by
  cases s with
  | negative => exact (neg_neg n).symm
  | positive => rfl

theorem difference_infinite (s : Sign) {j : Int} (hj : j ≠ s.apply limit) :
    difference (s.apply limit) j = some (s.apply limit) := by
  rw [difference, if_pos (natAbs_apply s limit), if_neg hj]

theorem difference_self (s : Sign) : difference (s.apply limit) (s.apply limit) = none := by
  rw [difference, if_pos (natAbs_apply s limit), if_pos rfl]

theorem difference_finite_infinite {i : Int} (hi : i.natAbs < limit) (s : Sign) :
    difference i (s.apply limit) = some (-s.apply limit) := by
  rw [difference, if_neg hi.ne, if_pos (natAbs_apply s limit)]

theorem difference_finite {i j : Int} (hi : i.natAbs < limit) (hj : j.natAbs < limit) :
    difference i j = some (clamped (i - j)) := by
  rw [difference, if_neg hi.ne, if_neg hj.ne]

/-- Two infinities differ by an infinity if their signs are different, and by nothing defined otherwise. -/
theorem units_sub_infinity (s t : Sign) :
    units (Float.Model.pack (UnpackedFloat.sub Format.binary64 (.infinity s) (.infinity t))).unpack =
      difference (s.apply limit) (t.apply limit) := by
  have hpos := limit_pos
  cases s with
  | negative =>
    cases t with
    | negative =>
      rw [difference_self]
      exact units_pack_notANumber
    | positive =>
      have hne : Sign.positive.apply limit ≠ Sign.negative.apply limit :=
        show (limit : Int) ≠ -limit by omega
      rw [difference_infinite .negative hne]
      exact units_pack_infinity .negative
  | positive =>
    cases t with
    | negative =>
      have hne : Sign.negative.apply limit ≠ Sign.positive.apply limit :=
        show -(limit : Int) ≠ limit by omega
      rw [difference_infinite .positive hne]
      exact units_pack_infinity .positive
    | positive =>
      rw [difference_self]
      exact units_pack_notANumber

theorem apply_mul (s : Sign) (a b : Int) : s.apply a * b = s.apply (a * b) := by
  cases s with
  | negative => exact Int.neg_mul a b
  | positive => rfl

/-- Two finite doubles are brought to one exponent, at which their mantissas are subtracted exactly. -/
theorem units_sub_finite (s t : Sign) {m n : Nat} {e f : Int} (hm : 0 < m) (hn : 0 < n)
    (he : -1074 ≤ e) (hf : -1074 ≤ f) :
    units (Float.Model.pack
      (UnpackedFloat.sub Format.binary64 (.finite s m e hm) (.finite t n f hn))).unpack =
      some (clamped (s.apply (magnitude m e) - t.apply (magnitude n f))) := by
  obtain ⟨g, hg⟩ : ∃ g, g = min e f := ⟨_, rfl⟩
  have hunits : ∀ (u : Sign) (k : Nat) (h : Int), g ≤ h →
      u.apply ((k <<< (h - g).toNat : Nat) : Int) * (2 ^ (g + 1074).toNat : Nat) =
        u.apply (magnitude k h) := by
    intro u k h hh
    have hexponent : h - (h - g).toNat = g := by omega
    have hshift := magnitude_shiftLeft k (e := h) (i := (h - g).toNat) (by omega)
    rw [hexponent] at hshift
    rw [apply_mul, ← hshift, ← Int.natCast_mul]
    rfl
  show units (Float.Model.pack (UnpackedFloat.normalize Format.binary64
    (s.apply (m <<< (e - min e f).toNat : Nat) - t.apply (n <<< (f - min e f).toNat : Nat))
    (min e f) .positive)).unpack = _
  rw [← hg, units_normalize _ (by omega), Int.sub_mul, hunits s m e (by omega),
    hunits t n f (by omega)]

/-- The units of a difference of canonical doubles. -/
theorem units_sub {x y : UnpackedFloat} (hx : Canonical x) (hy : Canonical y) :
    units (Float.Model.pack (UnpackedFloat.sub Format.binary64 x y)).unpack =
      (units x).bind fun i => (units y).bind fun j => difference i j := by
  cases x with
  | notANumber =>
    have hsub : UnpackedFloat.sub Format.binary64 .notANumber y = .notANumber := by cases y <;> rfl
    rw [hsub, units_pack_notANumber]
    rfl
  | infinity s =>
    cases y with
    | notANumber => exact units_pack_notANumber
    | infinity t => exact units_sub_infinity s t
    | zero t =>
      have hne : (0 : Int) ≠ s.apply limit := fun h => by
        have habs := natAbs_apply s limit
        rw [← h] at habs
        exact limit_pos.ne habs
      show units (Float.Model.pack (.infinity s)).unpack = difference (s.apply limit) 0
      rw [difference_infinite s hne, units_pack_infinity]
    | finite t n f hn =>
      have hne : t.apply (magnitude n f) ≠ s.apply limit := fun h => by
        have habs := natAbs_apply s limit
        rw [← h, natAbs_apply] at habs
        exact (magnitude_lt_limit hy.1.lt hy.2).ne habs
      show units (Float.Model.pack (.infinity s)).unpack =
        difference (s.apply limit) (t.apply (magnitude n f))
      rw [difference_infinite s hne, units_pack_infinity]
  | zero s =>
    have hzero : (0 : Int).natAbs < limit := limit_pos
    cases y with
    | notANumber => exact units_pack_notANumber
    | infinity t =>
      show units (Float.Model.pack (.infinity (-t))).unpack = difference 0 (t.apply limit)
      rw [difference_finite_infinite hzero, units_pack_infinity, apply_neg]
    | zero t =>
      have hsub : ∃ u, UnpackedFloat.sub Format.binary64 (.zero s) (.zero t) = .zero u := by
        cases s <;> cases t <;> exact ⟨_, rfl⟩
      obtain ⟨u, hu⟩ := hsub
      show _ = difference 0 0
      rw [hu, difference_finite hzero hzero, sub_zero, clamped_zero, units_pack_zero]
    | finite t n f hn =>
      have hfinite : (t.apply (magnitude n f)).natAbs < limit := by
        rw [natAbs_apply]
        exact magnitude_lt_limit hy.1.lt hy.2
      show units (Float.Model.pack (.finite (-t) n f hn)).unpack =
        difference 0 (t.apply (magnitude n f))
      rw [difference_finite hzero hfinite, zero_sub, ← apply_neg, clamped_magnitude _ hn hy.1 hy.2,
        units_pack _ hn hy.1, Nat.min_eq_left (magnitude_lt_limit hy.1.lt hy.2).le]
  | finite s m e hm =>
    have hfinite : (s.apply (magnitude m e)).natAbs < limit := by
      rw [natAbs_apply]
      exact magnitude_lt_limit hx.1.lt hx.2
    cases y with
    | notANumber => exact units_pack_notANumber
    | infinity t =>
      show units (Float.Model.pack (.infinity (-t))).unpack = difference _ (t.apply limit)
      rw [difference_finite_infinite hfinite, units_pack_infinity, apply_neg]
    | zero t =>
      show units (Float.Model.pack (.finite s m e hm)).unpack = difference _ 0
      rw [difference_finite hfinite (show (0 : Int).natAbs < limit from limit_pos), sub_zero,
        clamped_magnitude s hm hx.1 hx.2, units_pack s hm hx.1,
        Nat.min_eq_left (magnitude_lt_limit hx.1.lt hx.2).le]
    | finite t n f hn =>
      have hfinite' : (t.apply (magnitude n f)).natAbs < limit := by
        rw [natAbs_apply]
        exact magnitude_lt_limit hy.1.lt hy.2
      show _ = difference (s.apply (magnitude m e)) (t.apply (magnitude n f))
      rw [difference_finite hfinite hfinite',
        units_sub_finite s t hm hn hx.1.least hy.1.least]

/-- **Differences.** The rank of a difference is the difference of the ranks, rounded. -/
theorem rank_sub (x y : Float) :
    rank (x - y) = (rank x).bind fun i => (rank y).bind fun j => difference i j :=
  units_sub (canonical_unpack _) (canonical_unpack _)

theorem natAbs_rank_le {x : Float} {i : Int} (h : rank x = some i) : i.natAbs ≤ limit := by
  have hcanonical := canonical_unpack x.toModel
  unfold rank at h
  cases hx : x.toModel.unpack with
  | notANumber =>
    rw [hx] at h
    exact nomatch h
  | infinity s =>
    rw [hx] at h
    obtain rfl := Option.some.inj h
    exact (natAbs_apply s limit).le
  | zero s =>
    rw [hx] at h
    obtain rfl := Option.some.inj h
    exact Nat.zero_le limit
  | finite s m e hm =>
    rw [hx] at h hcanonical
    obtain rfl := Option.some.inj h
    rw [natAbs_apply]
    exact (magnitude_lt_limit hcanonical.1.lt hcanonical.2).le

/-- A difference that is not infinite does not increase when its first part decreases. -/
theorem difference_mono {i j t d : Int} (hi : i.natAbs ≤ limit) (hj : j.natAbs ≤ limit)
    (hij : i ≤ j) (hd : difference j t = some d) (hless : d < limit) :
    ∃ c, difference i t = some c ∧ c ≤ d := by
  unfold difference at hd ⊢
  by_cases hjlimit : j.natAbs = limit
  · -- The later time is then the least one, so the earlier time is the same.
    rw [if_pos hjlimit] at hd
    have hsame : i = j := by
      split at hd
      · exact nomatch hd
      · obtain rfl := Option.some.inj hd
        omega
    rw [hsame, if_pos hjlimit, hd]
    exact ⟨d, rfl, le_rfl⟩
  · rw [if_neg hjlimit] at hd
    by_cases hilimit : i.natAbs = limit
    · -- The earlier time is the least one, and so is its difference.
      have hleast : i = -limit := by omega
      have hle : -(limit : Int) ≤ d := by
        split at hd
        · obtain rfl := Option.some.inj hd
          omega
        · obtain rfl := Option.some.inj hd
          exact neg_limit_le_clamped _
      have hne : t ≠ i := by
        rintro rfl
        rw [if_pos hilimit] at hd
        have hvalue := Option.some.inj hd
        omega
      rw [if_pos hilimit, if_neg hne]
      exact ⟨i, rfl, by omega⟩
    · rw [if_neg hilimit]
      split at hd
      · rename_i htlimit
        rw [if_pos htlimit]
        exact ⟨d, hd, le_rfl⟩
      · rename_i htlimit
        obtain rfl := Option.some.inj hd
        rw [if_neg htlimit]
        exact ⟨_, rfl, clamped_mono (Int.sub_le_sub_right hij t)⟩

/-- **Ages.** An age that is below a bound at some time was so at every earlier time. -/
theorem sub_lt_of_le {x y t bound : Float} (h : x ≤ y) (hy : y - t < bound) : x - t < bound := by
  obtain ⟨i, j, hi, hj, hij⟩ := le_iff_rank.1 h
  obtain ⟨d, b, hd, hb, hless⟩ := lt_iff_rank.1 hy
  obtain ⟨k, ht, hdifference⟩ : ∃ k, rank t = some k ∧ difference j k = some d := by
    rw [rank_sub, hj] at hd
    exact Option.bind_eq_some_iff.1 hd
  have hbound := natAbs_rank_le hb
  obtain ⟨c, hc, hle⟩ := difference_mono (natAbs_rank_le hi) (natAbs_rank_le hj) hij hdifference
    (by omega)
  refine lt_iff_rank.2 ⟨c, b, ?_, hb, by omega⟩
  rw [rank_sub, hi, ht]
  exact hc

/-! ### Sums -/

theorem Canonical.neg {x : UnpackedFloat} (h : Canonical x) : Canonical x.neg := by
  cases x <;> exact h

theorem units_neg (x : UnpackedFloat) : units x.neg = (units x).map (- ·) := by
  cases x with
  | notANumber => rfl
  | infinity s => exact congrArg some (apply_neg s limit)
  | zero s => rfl
  | finite s m e hm => exact congrArg some (apply_neg s (magnitude m e))

/-- A sum is the difference to the opposite. -/
theorem add_eq_sub_neg (x y : UnpackedFloat) :
    UnpackedFloat.add Format.binary64 x y = UnpackedFloat.sub Format.binary64 x y.neg := by
  have hneg : ∀ s : Sign, - -s = s := by
    intro s
    cases s <;> rfl
  cases x with
  | notANumber => cases y <;> rfl
  | infinity s =>
    cases y with
    | infinity t =>
      show (if (s == t) = true then _ else _) = if (s == - -t) = true then _ else _
      rw [hneg]
    | notANumber => rfl
    | zero t => rfl
    | finite t n f hn => rfl
  | zero s =>
    cases y with
    | notANumber => rfl
    | infinity t => exact congrArg UnpackedFloat.infinity (hneg t).symm
    | zero t =>
      show (if (s == t) = true then _ else _) = if (s == - -t) = true then _ else _
      rw [hneg]
    | finite t n f hn =>
      show UnpackedFloat.finite t n f hn = .finite (- -t) n f hn
      rw [hneg]
  | finite s m e hm =>
    cases y with
    | notANumber => rfl
    | infinity t => exact congrArg UnpackedFloat.infinity (hneg t).symm
    | zero t => rfl
    | finite t n f hn =>
      show UnpackedFloat.normalize _ (s.apply _ + t.apply _) _ _ =
        UnpackedFloat.normalize _ (s.apply _ - (-t).apply _) _ _
      rw [apply_neg, sub_neg_eq_add]

/-- **Sums.** The rank of a sum is the sum of the ranks, rounded. -/
theorem rank_add (x y : Float) :
    rank (x + y) = (rank x).bind fun i => (rank y).bind fun j => difference i (-j) := by
  have hsub := units_sub (canonical_unpack x.toModel) (canonical_unpack y.toModel).neg
  rw [units_neg, ← add_eq_sub_neg] at hsub
  simp only [Option.bind_map] at hsub
  exact hsub

end Colloquy.Number
