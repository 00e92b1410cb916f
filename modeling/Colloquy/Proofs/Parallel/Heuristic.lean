import Colloquy.Aggregation.Heuristic
import Colloquy.Proofs.Number.Difference
import Colloquy.Proofs.Number.Product

/-!
# Heuristic scores are defined

Each part of a heuristic score is a share between zero and one, whatever the lengths of texts (`share_saturation`,
`share_diversity`), and the score is a sum of products of shares.  So it is always defined, and never negative
(`nonnegative_heuristicScore`): outcomes can be compared by their scores.
-/

namespace Colloquy

namespace Number

variable {x y : Float} {v : WithTop ℚ} {num den : Nat}

/-! ### Shares -/

/-- A double with a value between zero and one. -/
def Share (x : Float) : Prop := ∃ q : ℚ, (Num.float x).value? = some (q : WithTop ℚ) ∧ 0 ≤ q ∧ q ≤ 1

theorem share_of_reading {m : Nat} {e : Int} (h : Reading.ofFloat x = .finite false m e) (hle : (m * 2 ^ e : ℚ) ≤ 1) :
    Share x :=
  ⟨m * 2 ^ e, Num.value?_of_reading h, by positivity, hle⟩

theorem share_of_value (h : (Num.float x).value? = some v) (hv : 0 ≤ v) (hle : v ≤ 1) : Share x := by
  obtain ⟨q, rfl⟩ := WithTop.ne_top_iff_exists.1 (hle.trans_lt (WithTop.coe_lt_top 1)).ne
  exact ⟨q, h, by exact_mod_cast hv, by exact_mod_cast hle⟩

theorem value?_one : (Num.float 1.0).value? = some ((1 : ℚ) : WithTop ℚ) := by
  have hreading : Reading.ofFloat 1.0 = .finite false (2 ^ 52) (-52) := by decide +kernel
  rw [Num.value?_of_reading hreading]
  norm_num

theorem share_one : Share 1.0 := ⟨1, value?_one, zero_le_one, le_rfl⟩

theorem share_zero : Share 0.0 := share_of_reading (m := 0) (e := -1074) (by decide +kernel) (by norm_num)

theorem approximate_one : approximate 1 = 1 := by
  obtain ⟨hrounding, hless⟩ := rounding_of_value value?_one zero_le_one
  rw [approximate_of_lt hless, hrounding]
  rfl

theorem value?_ofRatio (num : Nat) (hden : 0 < den) :
    (Num.float (ofRatio false num den)).value? = some (approximate (num / den)) := by
  rw [ofRatio_eq_nearest false num hden]
  exact value?_nearest (by positivity)

/-- A part of a count is a share of it. -/
theorem share_ofRatio (hden : 0 < den) (hle : num ≤ den) : Share (ofRatio false num den) := by
  have hden' : (0 : ℚ) < den := by exact_mod_cast hden
  have hratio : (num / den : ℚ) ≤ 1 := (div_le_one hden').2 (by exact_mod_cast hle)
  refine share_of_value (value?_ofRatio num hden) (approximate_nonneg _) ?_
  rw [← approximate_one]
  exact approximate_mono (by positivity) hratio

/-! ### Sums of products of shares -/

/-- A double that is defined and not negative; it may be infinite. -/
def Nonnegative (x : Float) : Prop := ∃ n : Nat, rank x = some (n : Int)

theorem nonnegative_of_value (h : (Num.float x).value? = some v) (hv : 0 ≤ v) : Nonnegative x := by
  rcases Num.value?_float_iff.1 h with ⟨hrank, -⟩ | ⟨r, hrank, -, rfl⟩
  · exact ⟨limit, hrank⟩
  · have hr : 0 ≤ r := by
      have hnonneg : (0 : ℚ) ≤ r * least := by exact_mod_cast hv
      exact_mod_cast nonneg_of_mul_nonneg_left hnonneg least_pos
    exact ⟨r.toNat, by rw [hrank, Int.toNat_of_nonneg hr]⟩

theorem Share.nonnegative (h : Share x) : Nonnegative x := by
  obtain ⟨q, hq, hpos, -⟩ := h
  exact nonnegative_of_value hq (by exact_mod_cast hpos)

theorem Share.nonnegative_mul (hx : Share x) (hy : Share y) : Nonnegative (x * y) := by
  obtain ⟨p, hp, hpos, -⟩ := hx
  obtain ⟨q, hq, hpos', -⟩ := hy
  exact nonnegative_of_value (value?_mul hp hq hpos hpos') (approximate_nonneg _)

theorem Nonnegative.add (hx : Nonnegative x) (hy : Nonnegative y) : Nonnegative (x + y) := by
  obtain ⟨m, hm⟩ := hx
  obtain ⟨n, hn⟩ := hy
  have hlimit := limit_pos
  obtain ⟨d, hd, hnonneg⟩ : ∃ d : Int, difference m (-n) = some d ∧ 0 ≤ d := by
    unfold difference
    rw [Int.natAbs_natCast, Int.natAbs_neg, Int.natAbs_natCast]
    split_ifs with hlarge hsame hlarge'
    · omega
    · exact ⟨m, rfl, Int.natCast_nonneg m⟩
    · exact ⟨_, rfl, by omega⟩
    · refine ⟨_, rfl, ?_⟩
      rw [← clamped_zero]
      exact clamped_mono (by omega)
  refine ⟨d.toNat, ?_⟩
  rw [rank_add, hm, hn, Int.toNat_of_nonneg hnonneg]
  exact hd

theorem Nonnegative.not_isNaN (h : Nonnegative x) : ¬ x.isNaN := by
  obtain ⟨n, hn⟩ := h
  rw [← rank_eq_none_iff, hn]
  exact nofun

end Number

open Number

/-! ### Parts of a score -/

theorem share_saturation (count : Nat) {full : Nat} (hfull : 0 < full) : Share (saturation count full) := by
  unfold saturation
  dsimp only
  have hvalue := value?_ofRatio count hfull
  split
  · exact share_one
  · rename_i hless
    have hle : approximate (count / full) ≤ 1 := by
      refine not_lt.1 fun hmore => hless ?_
      exact of_decide_eq_true ((Num.lt_iff_value value?_one hvalue).2 hmore)
    exact share_of_value hvalue (approximate_nonneg _) hle

theorem length_eraseDups_le {α : Type} [BEq α] (l : List α) : l.eraseDups.length ≤ l.length := by
  -- The rest of a list is gone through without what equals its head.
  induction hn : l.length using Nat.strong_induction_on generalizing l with
  | _ n ih =>
    cases l with
    | nil => exact Nat.zero_le _
    | cons a rest =>
      have hfilter := List.length_filter_le (fun b => !b == a) rest
      rw [List.length_cons] at hn
      have hrest := ih _ (by omega) (rest.filter fun b => !b == a) rfl
      rw [List.eraseDups_cons, List.length_cons]
      omega

theorem share_diversity (words : List (List Char)) : Share (diversity words) := by
  unfold diversity
  split
  · exact share_zero
  · rename_i hne
    rw [Bool.not_eq_true, List.isEmpty_eq_false_iff, ← List.length_pos_iff] at hne
    exact share_ofRatio hne (length_eraseDups_le words)

/-! ### Scores -/

/-- **Scores are defined.** The score of a session is a number, and it is not negative. -/
theorem nonnegative_heuristicScore (s : Session) : Nonnegative (heuristicScore s) := by
  have hfour : Share 0.4 := share_of_reading (m := 7205759403792794) (e := -54) (by decide +kernel) (by norm_num)
  have hthree : Share 0.3 := share_of_reading (m := 5404319552844595) (e := -54) (by decide +kernel) (by norm_num)
  have hsaturated : 0 < saturatedLength ∧ 0 < saturatedSentences := by decide
  unfold heuristicScore textScore
  split
  · exact share_zero.nonnegative
  · have hlength := hfour.nonnegative_mul (share_saturation s.lastText.length hsaturated.1)
    have hwords := hthree.nonnegative_mul (share_diversity (wordsOf (Text.lower s.lastText)))
    have hsentences := hthree.nonnegative_mul (share_saturation (sentencesOf s.lastText).length hsaturated.2)
    exact (hlength.add hwords).add hsentences

end Colloquy
