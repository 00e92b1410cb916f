import Colloquy.Json.Printer
import Colloquy.Json.Reader
import Colloquy.Proofs.Number.Decimal

/-!
# Numbers read back from JSON

A `Numeral` is the text of a number in its parts: whole digits, a fraction, and an exponent.  The reader takes a
well-formed one to its value, wherever no digit, point or exponent follows (`readNumber_text`).  Integers and finite
doubles are written as numerals that have them for values (`exists_numeral_natAbs`, `exists_numeral_display`), the
doubles because the shortest decimal of a double has this double as the nearest one.
-/

namespace Colloquy.Json

open Number (Decimal Layout Reading)

variable {ds rest : List Char} {negative : Bool}

/-! ### Digits -/

/-- No digit comes first. -/
def NoDigit (cs : List Char) : Prop := ∀ c ∈ cs.head?, c.isDigit = false

theorem spanDigits_append (hds : ∀ d ∈ ds, d.isDigit = true) (hrest : NoDigit rest) :
    spanDigits (ds ++ rest) = (ds, rest) := by
  have hnone : rest.takeWhile Char.isDigit = [] ∧ rest.dropWhile Char.isDigit = rest := by
    cases rest with
    | nil => exact ⟨rfl, rfl⟩
    | cons c cs =>
      have hc := hrest c rfl
      exact ⟨List.takeWhile_cons_of_neg (by rw [hc]; decide), List.dropWhile_cons_of_neg (by rw [hc]; decide)⟩
  rw [spanDigits, List.takeWhile_append_of_pos hds, List.dropWhile_append_of_pos hds, hnone.1, hnone.2,
    List.append_nil]

theorem natOf_eq (ds : List Char) : natOf ds = Nat.ofDigitChars 10 ds 0 := rfl

theorem natOf_toDigits (n : Nat) : natOf (Nat.toDigits 10 n) = n := Nat.ofDigitChars_ten_toDigits

theorem natOf_append (ds es : List Char) : natOf (ds ++ es) = natOf ds * 10 ^ es.length + natOf es := by
  rw [natOf_eq, Nat.ofDigitChars_append, Nat.ofDigitChars_eq_ofDigitChars_zero, Nat.mul_comm, natOf_eq, natOf_eq]

theorem natOf_zeros (n : Nat) : natOf (List.replicate n '0') = 0 := by
  rw [natOf_eq, Nat.ofDigitChars_replicate_zero, Nat.mul_zero]

theorem natOf_lt (hds : ∀ d ∈ ds, d.isDigit = true) : natOf ds < 10 ^ ds.length := by
  induction ds with
  | nil => decide
  | cons d ds ih =>
    have hd : natOf [d] ≤ 9 := by
      have hle : d.toNat ≤ 57 := (Char.isDigit_iff_toNat.1 (hds d (List.mem_cons_self ..))).2
      show 10 * 0 + (d.toNat - 48) ≤ 9
      omega
    have hrest := ih fun c hc => hds c (List.mem_cons_of_mem d hc)
    calc natOf (d :: ds) = natOf [d] * 10 ^ ds.length + natOf ds := natOf_append [d] ds
      _ < natOf [d] * 10 ^ ds.length + 10 ^ ds.length := Nat.add_lt_add_left hrest _
      _ = (natOf [d] + 1) * 10 ^ ds.length := (Nat.succ_mul ..).symm
      _ ≤ 10 * 10 ^ ds.length := Nat.mul_le_mul_right _ (Nat.succ_le_succ hd)
      _ = 10 ^ (ds.length + 1) := Nat.pow_succ'.symm

theorem isDigit_toDigits (n : Nat) : ∀ d ∈ Nat.toDigits 10 n, d.isDigit = true :=
  fun _ hd => Nat.isDigit_of_mem_toDigits (by decide) (by decide) hd

theorem isDigit_zeros (n : Nat) : ∀ d ∈ List.replicate n '0', d.isDigit = true := by
  intro d hd
  rw [List.eq_of_mem_replicate hd]
  rfl

/-- Only zero is written with a zero in front. -/
theorem head_toDigits_ne {n : Nat} (hn : 0 < n) : (Nat.toDigits 10 n).head? ≠ some '0' := by
  induction n using Nat.base_induction 10 (by decide) with
  | single m hm =>
    have hdigits : ∀ m < 10, 0 < m → [Nat.digitChar m].head? ≠ some '0' := by decide
    rw [Nat.toDigits_of_lt_base hm]
    exact hdigits m hm hn
  | digit m k hk hm ih =>
    rw [← Nat.toDigits_append_toDigits (by decide) hm hk, List.head?_append_of_ne_nil _ Nat.toDigits_ne_nil]
    exact ih hm

/-! ### Numerals -/

/-- The text of a number in its parts. -/
structure Numeral where
  whole : List Char
  fraction : List Char := []
  /-- Whether the exponent is negative, and its digits. -/
  exponent : Option (Bool × List Char) := none

namespace Numeral

/-- The fraction behind its point, if there is one. -/
def fractionText (n : Numeral) : List Char :=
  if n.fraction.isEmpty then [] else '.' :: n.fraction

/-- The exponent behind its mark and sign, if there is one. -/
def exponentText (n : Numeral) : List Char :=
  match n.exponent with
  | none => []
  | some (below, ds) => 'e' :: (if below then '-' else '+') :: ds

/-- A numeral as it is written. -/
def text (n : Numeral) : List Char := n.whole ++ (n.fractionText ++ n.exponentText)

/-- The value of the exponent, if there is one. -/
def exponentValue (n : Numeral) : Option Int :=
  n.exponent.map fun (below, ds) => if below then -(natOf ds : Int) else natOf ds

/-- What a numeral with a sign reads as. -/
def value (negative : Bool) (n : Numeral) : Value :=
  if n.fraction.isEmpty && n.exponentValue.isNone then
    .int (if negative then -(natOf n.whole : Int) else natOf n.whole)
  else
    .float (Number.ofDecimalBounded negative (natOf (n.whole ++ n.fraction)) (n.whole ++ n.fraction).length
      (n.exponentValue.getD 0 - n.fraction.length))

/-- A numeral that the grammar has: all parts are digits, and only a lone zero has a zero in front. -/
structure WellFormed (n : Numeral) : Prop where
  nonempty : n.whole ≠ []
  whole : ∀ d ∈ n.whole, d.isDigit = true
  lead : n.whole = ['0'] ∨ n.whole.head? ≠ some '0'
  fraction : ∀ d ∈ n.fraction, d.isDigit = true
  exponent : ∀ below ds, n.exponent = some (below, ds) → ds ≠ [] ∧ ∀ d ∈ ds, d.isDigit = true

end Numeral

/-- What may follow a number: none of the characters that would go on with it. -/
structure EndsNumber (rest : List Char) : Prop where
  noDigit : NoDigit rest
  noPoint : rest.head? ≠ some '.'
  noMark : rest.head? ≠ some 'e' ∧ rest.head? ≠ some 'E'

theorem readFraction_of_noPoint (h : rest.head? ≠ some '.') : readFraction rest = .ok ([], rest) := by
  unfold readFraction
  split
  · exact absurd rfl h
  · rfl

theorem readFraction_point (hne : ds ≠ []) (hds : ∀ d ∈ ds, d.isDigit = true) (hrest : NoDigit rest) :
    readFraction ('.' :: ds ++ rest) = .ok (ds, rest) := by
  rw [List.cons_append, readFraction, spanDigits_append hds hrest]
  obtain ⟨d, ds, rfl⟩ := List.exists_cons_of_ne_nil hne
  rfl

theorem readExponent_of_noMark (h : rest.head? ≠ some 'e' ∧ rest.head? ≠ some 'E') :
    readExponent rest = .ok (none, rest) := by
  cases rest with
  | nil => rfl
  | cons c cs => exact if_neg (not_or.2 ⟨fun hc => h.1 (congrArg some hc), fun hc => h.2 (congrArg some hc)⟩)

theorem readExponent_mark (below : Bool) (hne : ds ≠ []) (hds : ∀ d ∈ ds, d.isDigit = true)
    (hrest : NoDigit rest) : readExponent ('e' :: (if below then '-' else '+') :: ds ++ rest) =
      .ok (some (if below then -(natOf ds : Int) else natOf ds), rest) := by
  have hspan := spanDigits_append hds hrest
  obtain ⟨d, ds, rfl⟩ := List.exists_cons_of_ne_nil hne
  rw [List.cons_append] at hspan
  cases below with
  | false => simp [readExponent, hspan]
  | true => simp [readExponent, hspan]

theorem readFraction_text {n : Numeral} (hn : n.WellFormed) (hdigit : NoDigit rest)
    (hpoint : rest.head? ≠ some '.') : readFraction (n.fractionText ++ rest) = .ok (n.fraction, rest) := by
  unfold Numeral.fractionText
  split_ifs with h
  · rw [List.isEmpty_iff.1 h]
    exact readFraction_of_noPoint hpoint
  · exact readFraction_point (mt List.isEmpty_iff.2 h) hn.fraction hdigit

theorem readExponent_text {n : Numeral} (hn : n.WellFormed) (hrest : EndsNumber rest) :
    readExponent (n.exponentText ++ rest) = .ok (n.exponentValue, rest) := by
  unfold Numeral.exponentText Numeral.exponentValue
  cases h : n.exponent with
  | none => exact readExponent_of_noMark hrest.noMark
  | some parts =>
    obtain ⟨hne, hds⟩ := hn.exponent parts.1 parts.2 h
    exact readExponent_mark parts.1 hne hds hrest.noDigit

/-- No digit and no point stands in front of an exponent, or in its place. -/
theorem exponentText_head (n : Numeral) (hrest : EndsNumber rest) :
    NoDigit (n.exponentText ++ rest) ∧ (n.exponentText ++ rest).head? ≠ some '.' := by
  unfold Numeral.exponentText
  cases n.exponent with
  | none => exact ⟨hrest.noDigit, hrest.noPoint⟩
  | some parts =>
    refine ⟨fun c hc => ?_, fun h => absurd (Option.some.inj h) (by decide)⟩
    rw [← Option.some.inj hc]
    rfl

/-- No digit stands in front of a fraction, or in its place. -/
theorem fractionText_head (n : Numeral) (hrest : NoDigit rest) : NoDigit (n.fractionText ++ rest) := by
  unfold Numeral.fractionText
  split_ifs
  · exact hrest
  · exact fun c hc => by rw [← Option.some.inj hc]; rfl

theorem readWhole_append {n : Numeral} (hn : n.WellFormed) (hrest : NoDigit rest) :
    readWhole (n.whole ++ rest) = (n.whole, rest) := by
  rcases hn.lead with hzero | hlead
  · rw [hzero]
    rfl
  · have hspan := spanDigits_append hn.whole hrest
    obtain ⟨d, ds, hcons⟩ := List.exists_cons_of_ne_nil hn.nonempty
    rw [hcons] at hlead hspan ⊢
    unfold readWhole
    split
    · rename_i heq
      exact absurd (congrArg some (List.cons.inj heq).1) hlead
    · exact hspan

/-- **Numerals read back.** -/
theorem readNumber_text (place : Place) (negative : Bool) (index : Nat) {n : Numeral} (hn : n.WellFormed)
    (hrest : EndsNumber rest) :
    ∃ index', readNumber place negative ⟨n.text ++ rest, index⟩ =
      .ok (n.value negative, ⟨rest, index'⟩) := by
  obtain ⟨hdigit, hpoint⟩ := exponentText_head n hrest
  have htail := fractionText_head n hdigit
  have hsplit : n.text ++ rest = n.whole ++ (n.fractionText ++ (n.exponentText ++ rest)) := by
    rw [Numeral.text, List.append_assoc, List.append_assoc]
  have hdigits : Option.any Char.isDigit (n.fractionText ++ (n.exponentText ++ rest)).head? = false := by
    rw [Option.any_eq_false]
    exact fun c hc => by rw [htail c hc]
  unfold readNumber
  dsimp only
  rw [hsplit, readWhole_append hn htail]
  dsimp only
  rw [hdigits, Bool.and_false, if_neg Bool.false_ne_true, readFraction_text hn hdigit hpoint]
  dsimp only
  rw [readExponent_text hn hrest]
  dsimp only
  exact ⟨_, rfl⟩

/-! ### Written integers -/

/-- The digits of a natural number are a numeral. -/
theorem exists_numeral_natAbs (k : Nat) :
    ∃ n : Numeral, n.WellFormed ∧ n.text = Nat.toDigits 10 k ∧
      ∀ negative, n.value negative = .int (if negative then -(k : Int) else k) := by
  refine ⟨{ whole := Nat.toDigits 10 k }, ?_, List.append_nil _, fun negative => ?_⟩
  · refine ⟨Nat.toDigits_ne_nil, isDigit_toDigits k, ?_, fun _ h => (List.not_mem_nil h).elim,
      fun _ _ h => nomatch h⟩
    rcases k.eq_zero_or_pos with rfl | hk
    · exact .inl (Nat.toDigits_zero 10)
    · exact .inr (head_toDigits_ne hk)
  · show Value.int (if negative then -(natOf (Nat.toDigits 10 k) : Int) else natOf (Nat.toDigits 10 k)) = _
    rw [natOf_toDigits]

/-! ### Written doubles -/

/-- The number that a numeral writes. -/
def Numeral.amount (n : Numeral) : ℚ :=
  natOf (n.whole ++ n.fraction) * 10 ^ (n.exponentValue.getD 0 - n.fraction.length)

/-- A numeral with a fraction or an exponent reads as the double nearest to what it writes. -/
theorem Numeral.value_eq_nearest {n : Numeral} (hn : n.WellFormed)
    (hfloat : n.fraction ≠ [] ∨ n.exponentValue ≠ none) :
    n.value negative = .float (Number.nearest negative n.amount) := by
  have hkind : (n.fraction.isEmpty && n.exponentValue.isNone) = false := by
    rw [Bool.and_eq_false_iff, List.isEmpty_eq_false_iff, Option.isNone_eq_false_iff, Option.isSome_iff_ne_none]
    exact hfloat
  have hdigits : ∀ d ∈ n.whole ++ n.fraction, d.isDigit = true := by
    intro d hd
    exact (List.mem_append.1 hd).elim (hn.whole d) (hn.fraction d)
  rw [Numeral.value, hkind, if_neg Bool.false_ne_true,
    Number.ofDecimalBounded_eq_nearest negative (natOf_lt hdigits)]
  rfl

/-- The numeral as which digits are arranged with their point at a place. -/
def numeralOf (layout : Layout) (ds : List Char) (point : Int) : Numeral :=
  if layout.leastPoint ≤ point ∧ point ≤ layout.greatestPoint then
    if point ≤ 0 then { whole := ['0'], fraction := List.replicate (-point).toNat '0' ++ ds }
    else if (ds.length : Int) ≤ point then
      { whole := ds ++ List.replicate (point - ds.length).toNat '0', fraction := ['0'] }
    else { whole := ds.take point.toNat, fraction := ds.drop point.toNat }
  else
    let size := Nat.toDigits 10 (point - 1).natAbs
    { whole := ds.take 1, fraction := ds.drop 1, exponent := some (decide (point - 1 < 0),
        List.replicate (layout.exponentWidth - size.length) '0' ++ size) }

theorem toList_padLeft (width n : Nat) : (Number.padLeft width (toString n)).toList =
    List.replicate (width - (Nat.toDigits 10 n).length) '0' ++ Nat.toDigits 10 n := by
  rw [Number.padLeft, String.toList_append, String.toList_ofList, Nat.toString_eq_repr, ← String.length_toList,
    Nat.toList_repr]

theorem text_point (whole : List Char) {fraction : List Char} (h : fraction ≠ []) :
    ({ whole, fraction } : Numeral).text = whole ++ '.' :: fraction := by
  rw [Numeral.text, Numeral.fractionText, if_neg (mt List.isEmpty_iff.1 h)]
  exact congrArg (whole ++ ·) (List.append_nil _)

theorem arrange_toList (layout : Layout) (hne : ds ≠ []) (point : Int) :
    (layout.arrange ds point).toList = (numeralOf layout ds point).text := by
  unfold Layout.arrange numeralOf
  dsimp only
  by_cases hplain : layout.leastPoint ≤ point ∧ point ≤ layout.greatestPoint
  · rw [if_pos hplain, if_pos hplain]
    split_ifs with hbelow hbeyond
    · rw [text_point _ (List.append_ne_nil_of_right_ne_nil _ hne)]
      simp only [String.toList_append, String.toList_ofList, List.append_assoc]
      rfl
    · rw [text_point _ (List.cons_ne_nil _ _)]
      simp only [String.toList_append, String.toList_ofList]
      rfl
    · have hdrop : ds.drop point.toNat ≠ [] := by
        rw [Ne, List.drop_eq_nil_iff]
        omega
      rw [text_point _ hdrop]
      simp only [String.toList_append, String.toList_ofList, List.append_assoc]
      rfl
  · rw [if_neg hplain, if_neg hplain]
    have hfraction : ∀ fraction : List Char,
        (if fraction.isEmpty then "" else "." ++ String.ofList fraction).toList =
          if fraction.isEmpty then [] else '.' :: fraction := by
      intro fraction
      split_ifs
      · rfl
      · rw [String.toList_append]
        exact congrArg ('.' :: ·) String.toList_ofList
    have hsign : (if point - 1 < 0 then "-" else "+").toList =
        [if decide (point - 1 < 0) = true then '-' else '+'] := by
      simp only [decide_eq_true_eq]
      split_ifs <;> rfl
    simp only [String.toList_append, String.toList_ofList, toList_padLeft, hfraction, hsign, List.append_assoc]
    rfl

theorem numeralOf_wellFormed (layout : Layout) (hne : ds ≠ []) (hds : ∀ d ∈ ds, d.isDigit = true)
    (hlead : ds.head? ≠ some '0') (point : Int) : (numeralOf layout ds point).WellFormed := by
  have hpos : 0 < ds.length := List.length_pos_iff.2 hne
  have hboth : ∀ {as bs : List Char}, (∀ d ∈ as, d.isDigit = true) → (∀ d ∈ bs, d.isDigit = true) →
      ∀ d ∈ as ++ bs, d.isDigit = true :=
    fun has hbs d hd => (List.mem_append.1 hd).elim (has d) (hbs d)
  have htake : ∀ k, ∀ d ∈ ds.take k, d.isDigit = true := fun k d hd => hds d (List.mem_of_mem_take hd)
  have hdrop : ∀ k, ∀ d ∈ ds.drop k, d.isDigit = true := fun k d hd => hds d (List.mem_of_mem_drop hd)
  have hzero : ∀ d ∈ ['0'], d.isDigit = true := isDigit_zeros 1
  unfold numeralOf
  split_ifs with hplain hbelow hbeyond
  · exact ⟨List.cons_ne_nil _ _, hzero, .inl rfl, hboth (isDigit_zeros _) hds, fun _ _ h => nomatch h⟩
  · refine ⟨List.append_ne_nil_of_left_ne_nil hne _, hboth hds (isDigit_zeros _), .inr ?_, hzero,
      fun _ _ h => nomatch h⟩
    rwa [List.head?_append_of_ne_nil _ hne]
  · refine ⟨?_, htake _, .inr ?_, hdrop _, fun _ _ h => nomatch h⟩
    · exact fun h => by simp [hne] at h; omega
    · rwa [List.head?_take, if_neg (by omega)]
  · refine ⟨?_, htake _, .inr ?_, hdrop _, ?_⟩
    · exact fun h => by simp [hne] at h
    · rwa [List.head?_take, if_neg (by omega)]
    · rintro _ _ ⟨⟩
      exact ⟨List.append_ne_nil_of_right_ne_nil _ Nat.toDigits_ne_nil,
        hboth (isDigit_zeros _) (isDigit_toDigits _)⟩

/-- The exponent of an arrangement is one less than the place of its point. -/
theorem exponent_padded (width : Nat) (k : Int) :
    (if decide (k < 0) then
      -(natOf (List.replicate width '0' ++ Nat.toDigits 10 k.natAbs) : Int)
      else natOf (List.replicate width '0' ++ Nat.toDigits 10 k.natAbs)) = k := by
  rw [natOf_append, natOf_zeros, Nat.zero_mul, Nat.zero_add, natOf_toDigits]
  split_ifs with h
  · rw [decide_eq_true_eq] at h
    omega
  · rw [decide_eq_true_eq] at h
    omega

theorem numeralOf_amount (layout : Layout) (hne : ds ≠ []) (point : Int) :
    (numeralOf layout ds point).amount = natOf ds * 10 ^ (point - ds.length) := by
  have hpos : 0 < ds.length := List.length_pos_iff.2 hne
  unfold numeralOf Numeral.amount
  split_ifs with hplain hbelow hbeyond
  · have hdigits : natOf (['0'] ++ (List.replicate (-point).toNat '0' ++ ds)) = natOf ds := by
      rw [natOf_append, natOf_append, natOf_zeros, Nat.zero_mul, Nat.zero_add]
      exact (congrArg (· + natOf ds) (Nat.zero_mul _)).trans (Nat.zero_add _)
    have hexponent : (0 : Int) - (List.replicate (-point).toNat '0' ++ ds).length = point - ds.length := by
      rw [List.length_append, List.length_replicate]
      omega
    show (natOf _ : ℚ) * 10 ^ ((0 : Int) - _) = _
    rw [hdigits, hexponent]
  · obtain ⟨k, hk⟩ := Int.eq_ofNat_of_zero_le (Int.sub_nonneg_of_le hbeyond)
    have hdigits : natOf (ds ++ List.replicate k '0' ++ ['0']) = natOf ds * 10 ^ (k + 1) := by
      rw [List.append_assoc, ← List.replicate_succ', natOf_append, natOf_zeros, List.length_replicate,
        Nat.add_zero]
    have hvalue : ((natOf ds * 10 ^ (k + 1) : Nat) : ℚ) = natOf ds * 10 ^ (k + 1) := by push_cast; rfl
    show (natOf (_ ++ _) : ℚ) * 10 ^ ((0 : Int) - (1 : Nat)) = _
    rw [hk, Int.toNat_natCast, hdigits, hvalue, Nat.cast_one, zero_sub, zpow_neg_one, pow_succ, ← mul_assoc,
      mul_inv_cancel_right₀ (by norm_num), zpow_natCast]
  · have hexponent : (0 : Int) - (ds.drop point.toNat).length = point - ds.length := by
      rw [List.length_drop]
      omega
    show (natOf (ds.take _ ++ ds.drop _) : ℚ) * 10 ^ ((0 : Int) - _) = _
    rw [List.take_append_drop, hexponent]
  · have hexponent : point - 1 - (ds.drop 1).length = point - ds.length := by
      rw [List.length_drop]
      omega
    have hvalue := exponent_padded
      (layout.exponentWidth - (Nat.toDigits 10 (point - 1).natAbs).length) (point - 1)
    show (natOf (ds.take _ ++ ds.drop _) : ℚ) * 10 ^ ((if _ then _ else _) - _ : Int) = _
    rw [List.take_append_drop, hvalue, hexponent]

theorem numeralOf_isFloat (layout : Layout) (hne : ds ≠ []) (point : Int) :
    (numeralOf layout ds point).fraction ≠ [] ∨ (numeralOf layout ds point).exponentValue ≠ none := by
  unfold numeralOf
  split_ifs with hplain hbelow hbeyond
  · exact .inl (List.append_ne_nil_of_right_ne_nil _ hne)
  · exact .inl (List.cons_ne_nil _ _)
  · refine .inl ?_
    rw [Ne, List.drop_eq_nil_iff]
    omega
  · exact .inr (Option.some_ne_none _)

/-- **Finite doubles** are written as numerals that read as them. -/
theorem exists_numeral_display (layout : Layout) {x : Float} {m : Nat} {e : Int}
    (h : Reading.ofFloat x = .finite negative m e) :
    ∃ n : Numeral, n.WellFormed ∧
      (layout.display x).toList = (if negative then ['-'] else []) ++ n.text ∧ n.value negative = .float x := by
  have hsign : (if negative then "-" else "").toList = if negative then ['-'] else [] := by
    cases negative <;> rfl
  unfold Layout.display
  rw [h]
  dsimp only
  rcases m.eq_zero_or_pos with rfl | hm
  · have hzero : ({ whole := ['0'], fraction := ['0'] } : Numeral).WellFormed :=
      ⟨List.cons_ne_nil _ _, isDigit_zeros 1, .inl rfl, isDigit_zeros 1, fun _ _ h => nomatch h⟩
    refine ⟨_, hzero, ?_, ?_⟩
    · rw [if_pos (beq_self_eq_true 0), String.toList_append, hsign]
      rfl
    · have hnone : (natOf ['0', '0'] : ℚ) = (0 : Nat) := congrArg _ (natOf_zeros 2)
      rw [Numeral.value_eq_nearest hzero (.inl (List.cons_ne_nil _ _)), ← Number.nearest_reading h,
        Numeral.amount, List.singleton_append, hnone, Nat.cast_zero, zero_mul, zero_mul]
  · obtain ⟨-, hnormalized, -⟩ := Number.packBits_reading h
    have hdigits := Number.shortest_digits_pos hnormalized hm
    generalize hd : Number.shortest m e = d at hdigits ⊢
    have hwell := numeralOf_wellFormed layout Nat.toDigits_ne_nil (isDigit_toDigits d.digits)
      (head_toDigits_ne hdigits) ((Nat.toDigits 10 d.digits).length + d.exponent)
    refine ⟨_, hwell, ?_, ?_⟩
    · rw [if_neg (by rw [beq_iff_eq]; exact hm.ne'), String.toList_append, hsign,
        arrange_toList layout Nat.toDigits_ne_nil]
    · rw [Numeral.value_eq_nearest hwell (numeralOf_isFloat layout Nat.toDigits_ne_nil _),
        numeralOf_amount layout Nat.toDigits_ne_nil, natOf_toDigits, add_sub_cancel_left,
        ← Number.nearest_shortest h, hd]
      rfl

end Colloquy.Json
