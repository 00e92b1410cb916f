import Colloquy.Json.Printer
import Colloquy.Json.Reader
import Mathlib.Tactic.Ring

/-!
# Texts read back from JSON

Each character is written as itself or as one of the escapes, and the reader takes each of these back to the character
(`readText_writeChar`): a letter after a backslash, the escape of one UTF-16 unit, or the escapes of two surrogates.  So
a written text reads back up to its closing quote (`readText_text`).
-/

namespace Colloquy.Json

variable {strict : Bool} {start fuel index : Nat} {tail rest : List Char}

/-! ### Units -/

theorem length_hexDigits (width n : Nat) : (Text.hexDigits width n).length = width := by
  induction width generalizing n with
  | zero => rfl
  | succ width ih => rw [Text.hexDigits, List.length_append, ih, List.length_singleton]

theorem hexValue?_digitChar : ∀ k < 16, hexValue? (Nat.digitChar k) = some k := by decide

/-- Hexadecimal digits go on with a number as the last digits of theirs say. -/
theorem foldl_hexDigits (width n a : Nat) :
    (Text.hexDigits width n).foldl (fun n? c => do return 16 * (← n?) + (← hexValue? c)) (some a) =
      some (a * 16 ^ width + n % 16 ^ width) := by
  induction width generalizing n with
  | zero => rw [Text.hexDigits, List.foldl_nil, pow_zero, mul_one, Nat.mod_one, add_zero]
  | succ width ih =>
    have hlast := hexValue?_digitChar (n % 16) (Nat.mod_lt n (by decide))
    have hmod : n % 16 ^ (width + 1) = n % 16 + 16 * (n / 16 % 16 ^ width) := by
      rw [Nat.pow_succ', Nat.mod_mul]
    rw [Text.hexDigits, List.foldl_append, ih, List.foldl_cons, List.foldl_nil, hlast, hmod]
    show some (16 * (a * 16 ^ width + n / 16 % 16 ^ width) + n % 16) = _
    congr 1
    ring

theorem unitValue?_hexDigits {n : Nat} (h : n < 0x10000) : unitValue? (Text.hexDigits 4 n) = some n := by
  have hmod : n % 16 ^ 4 = n := Nat.mod_eq_of_lt h
  rw [unitValue?, if_pos (length_hexDigits 4 n), foldl_hexDigits, Nat.zero_mul, Nat.zero_add, hmod]

/-- Behind four digits there is more than the digits. -/
theorem length_unit (n : Nat) (htail : tail ≠ []) : ¬(Text.hexDigits 4 n ++ tail).length ≤ 4 := by
  have hpos := List.length_pos_iff.2 htail
  rw [List.length_append, length_hexDigits]
  omega

theorem take_unit (n : Nat) (tail : List Char) : (Text.hexDigits 4 n ++ tail).take 4 = Text.hexDigits 4 n :=
  List.take_left' (length_hexDigits 4 n)

theorem drop_unit (n : Nat) (tail : List Char) : (Text.hexDigits 4 n ++ tail).drop 4 = tail :=
  List.drop_left' (length_hexDigits 4 n)

theorem nextUnit?_unitEscape {n : Nat} (h : n < 0x10000) (htail : tail ≠ []) :
    nextUnit? (unitEscape n ++ tail) = some n := by
  show (if (Text.hexDigits 4 n ++ tail).length ≤ 4 then none
    else unitValue? ((Text.hexDigits 4 n ++ tail).take 4)) = some n
  rw [if_neg (length_unit n htail), take_unit, unitValue?_hexDigits h]

/-- The escape of a character that is no surrogate. -/
theorem readUnit_single {n : Nat} (h : n < 0x10000) (hhigh : isHigh n = false) (hlow : isLow n = false)
    (htail : tail ≠ []) :
    readUnit strict start index (Text.hexDigits 4 n ++ tail) = .ok (Char.ofNat n, 4) := by
  unfold readUnit
  dsimp only
  rw [if_neg (length_unit n htail), take_unit, unitValue?_hexDigits h]
  dsimp only
  rw [hhigh, hlow]
  rfl

theorem lt_of_isHigh {n : Nat} (h : isHigh n = true) : n < 0x10000 := by
  rw [isHigh, Bool.and_eq_true, decide_eq_true_eq, decide_eq_true_eq] at h
  omega

theorem lt_of_isLow {n : Nat} (h : isLow n = true) : n < 0x10000 := by
  rw [isLow, Bool.and_eq_true, decide_eq_true_eq, decide_eq_true_eq] at h
  omega

/-- The escapes of two surrogates. -/
theorem readUnit_pair {high low : Nat} (hhigh : isHigh high = true) (hlow : isLow low = true)
    (htail : tail ≠ []) :
    readUnit strict start index (Text.hexDigits 4 high ++ (unitEscape low ++ tail)) =
      .ok (joinUnits high low, 10) := by
  unfold readUnit
  dsimp only
  rw [if_neg (length_unit high (List.append_ne_nil_of_right_ne_nil _ htail)), take_unit, drop_unit,
    unitValue?_hexDigits (lt_of_isHigh hhigh), nextUnit?_unitEscape (lt_of_isLow hlow) htail]
  dsimp only
  rw [hhigh, hlow]
  rfl

/-! ### Characters -/

/-- Reads the rest of a text behind a character that has been read. -/
def readOn (strict : Bool) (start fuel : Nat) (c : Char) (cursor : Cursor) : Except Fault (List Char × Cursor) := do
  let (ds, after) ← readText strict start fuel cursor
  return (c :: ds, after)

theorem readText_plain {c : Char} (hquote : c ≠ '"') (hslash : c ≠ '\\') (hc : 32 ≤ c.toNat) :
    readText strict start (fuel + 1) ⟨c :: tail, index⟩ = readOn strict start fuel c ⟨tail, index + 1⟩ := by
  rw [readText]
  split
  · rename_i h
    exact nomatch h
  · rename_i h
    exact absurd (List.cons.inj h).1 hquote
  · rename_i h
    exact absurd (List.cons.inj h).1 hslash
  · rename_i h
    exact absurd (List.cons.inj h).1 hslash
  · rename_i h
    exact absurd (List.cons.inj h).1 hslash
  · rename_i h
    obtain ⟨rfl, rfl⟩ := List.cons.inj h
    rw [if_neg (by omega)]
    rfl

theorem readText_letter {c e : Char} (h : escapeChar? e = some c) :
    readText strict start (fuel + 1) ⟨'\\' :: e :: tail, index⟩ =
      readOn strict start fuel c ⟨tail, index + 2⟩ := by
  have hunit : e ≠ 'u' := by
    rintro rfl
    exact nomatch h
  rw [readText]
  split
  · rename_i heq
    exact nomatch heq
  · rename_i heq
    exact absurd (List.cons.inj heq).1 (by decide)
  · rename_i heq
    exact nomatch (List.cons.inj heq).2
  · rename_i heq
    exact absurd (List.cons.inj (List.cons.inj heq).2).1 hunit
  · rename_i heq
    obtain ⟨rfl, rfl⟩ := List.cons.inj (List.cons.inj heq).2
    rw [h]
    rfl
  · rename_i hslash heq
    obtain ⟨rfl, rfl⟩ := List.cons.inj heq
    exact (hslash e tail rfl rfl).elim

theorem readText_unit {c : Char} {n : Nat} {cs : List Char}
    (h : readUnit strict start (index + 2) cs = .ok (c, n)) :
    readText strict start (fuel + 1) ⟨'\\' :: 'u' :: cs, index⟩ =
      readOn strict start fuel c ⟨('\\' :: 'u' :: cs).drop (2 + n), index + (2 + n)⟩ := by
  rw [readText]
  show (readUnit strict start (index + 2) cs >>= _) = _
  rw [h]
  rfl

theorem readText_single {c : Char} (h : c.toNat < 0x10000) (htail : tail ≠ []) :
    readText strict start (fuel + 1) ⟨unitEscape c.toNat ++ tail, index⟩ =
      readOn strict start fuel c ⟨tail, index + 6⟩ := by
  have hvalid : c.toNat < 0xd800 ∨ 0xdfff < c.toNat ∧ c.toNat < 0x110000 := c.valid
  have hhigh : isHigh c.toNat = false := by
    rw [isHigh, Bool.and_eq_false_iff, decide_eq_false_iff_not, decide_eq_false_iff_not]
    omega
  have hlow : isLow c.toNat = false := by
    rw [isLow, Bool.and_eq_false_iff, decide_eq_false_iff_not, decide_eq_false_iff_not]
    omega
  have hunit : readUnit strict start (index + 2) (Text.hexDigits 4 c.toNat ++ tail) =
      .ok (Char.ofNat c.toNat, 4) := readUnit_single h hhigh hlow htail
  rw [Char.ofNat_toNat] at hunit
  refine (readText_unit hunit).trans ?_
  show readOn strict start fuel c ⟨(Text.hexDigits 4 c.toNat ++ tail).drop 4, index + 6⟩ = _
  rw [drop_unit]

/-- The two surrogates of a character. -/
theorem surrogates {n : Nat} (h : 0x10000 ≤ n) (h' : n < 0x110000) :
    isHigh (0xd800 + (n - 0x10000) / 0x400) = true ∧ isLow (0xdc00 + (n - 0x10000) % 0x400) = true ∧
      joinUnits (0xd800 + (n - 0x10000) / 0x400) (0xdc00 + (n - 0x10000) % 0x400) = Char.ofNat n := by
  refine ⟨?_, ?_, ?_⟩
  · rw [isHigh, Bool.and_eq_true, decide_eq_true_eq, decide_eq_true_eq]
    omega
  · rw [isLow, Bool.and_eq_true, decide_eq_true_eq, decide_eq_true_eq]
    omega
  · have hsum : 0x10000 + (0xd800 + (n - 0x10000) / 0x400 - 0xd800) * 0x400 +
        (0xdc00 + (n - 0x10000) % 0x400 - 0xdc00) = n := by omega
    rw [joinUnits, hsum]

theorem readText_pair {high low : Nat} (hhigh : isHigh high = true) (hlow : isLow low = true)
    (htail : tail ≠ []) :
    readText strict start (fuel + 1) ⟨unitEscape high ++ (unitEscape low ++ tail), index⟩ =
      readOn strict start fuel (joinUnits high low) ⟨tail, index + 12⟩ := by
  have hdrop : (Text.hexDigits 4 high ++ (unitEscape low ++ tail)).drop 10 = tail := by
    rw [show 10 = 4 + 6 from rfl, ← List.drop_drop, drop_unit]
    exact drop_unit low tail
  refine (readText_unit (readUnit_pair hhigh hlow htail)).trans ?_
  show readOn strict start fuel _ ⟨(Text.hexDigits 4 high ++ (unitEscape low ++ tail)).drop 10, index + 12⟩ = _
  rw [hdrop]

/-- A written character reads back. -/
theorem readText_writeChar (c : Char) (htail : tail ≠ []) :
    ∃ index', readText strict start (fuel + 1) ⟨writeChar c ++ tail, index⟩ =
      readOn strict start fuel c ⟨tail, index'⟩ := by
  unfold writeChar
  dsimp only
  split_ifs with hquote hslash hline hreturn htab hback hform hplain hsingle
  · exact ⟨_, readText_letter (by rw [hquote]; rfl)⟩
  · exact ⟨_, readText_letter (by rw [hslash]; rfl)⟩
  · exact ⟨_, readText_letter (by rw [hline]; rfl)⟩
  · exact ⟨_, readText_letter (by rw [hreturn]; rfl)⟩
  · exact ⟨_, readText_letter (by rw [htab]; rfl)⟩
  · exact ⟨_, readText_letter (by rw [← Char.ofNat_toNat c, hback]; rfl)⟩
  · exact ⟨_, readText_letter (by rw [← Char.ofNat_toNat c, hform]; rfl)⟩
  · exact ⟨_, readText_plain hquote hslash hplain.1⟩
  · exact ⟨_, readText_single hsingle htail⟩
  · have hvalid : c.toNat < 0xd800 ∨ 0xdfff < c.toNat ∧ c.toNat < 0x110000 := c.valid
    obtain ⟨hhigh, hlow, hjoin⟩ := surrogates (Nat.le_of_not_lt hsingle) (by omega)
    rw [Char.ofNat_toNat] at hjoin
    refine ⟨index + 12, ?_⟩
    rw [List.append_assoc, readText_pair hhigh hlow htail, hjoin]

/-! ### Texts -/

/-- **Written texts read back** up to the closing quote. -/
theorem readText_text (cs : List Char) {fuel : Nat} (hfuel : cs.length < fuel) (index : Nat) :
    ∃ index', readText strict start fuel ⟨cs.flatMap writeChar ++ '"' :: rest, index⟩ =
      .ok (cs, ⟨rest, index'⟩) := by
  induction cs generalizing fuel index with
  | nil =>
    obtain ⟨fuel, rfl⟩ := Nat.exists_eq_succ_of_ne_zero hfuel.ne_bot
    exact ⟨index + 1, by rw [List.flatMap_nil, List.nil_append, readText]; rfl⟩
  | cons c cs ih =>
    obtain ⟨fuel, rfl⟩ := Nat.exists_eq_succ_of_ne_zero (Nat.ne_zero_of_lt hfuel)
    have htail : cs.flatMap writeChar ++ '"' :: rest ≠ [] :=
      List.append_ne_nil_of_right_ne_nil _ (List.cons_ne_nil _ _)
    obtain ⟨index₁, hchar⟩ := readText_writeChar c htail
    obtain ⟨index₂, hrest⟩ := ih (Nat.lt_of_succ_lt_succ hfuel) index₁
    refine ⟨index₂, ?_⟩
    rw [List.flatMap_cons, List.append_assoc, hchar, readOn, hrest]
    rfl

end Colloquy.Json
