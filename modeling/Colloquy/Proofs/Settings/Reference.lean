import Colloquy.Proofs.Text.Cutting
import Colloquy.Settings.Environment
import Colloquy.Yaml.Document
import Mathlib.Data.List.Basic

/-!
# References to variables

A reference that stands for a whole scalar is read as a text, whether it is quoted or not: no text that starts with a
dollar sign has the form of anything else (`Tag.ofPlain_dollar`).  Later the value of the variable takes its place
(`Environment.expand_reference`), and as this value has not been read as a scalar, it is a text in its turn, whatever
its form is.  Where an integer is read from this text, it is the one of the scalar if both are digits that do not start
with zero (`Tag.read_digits`).
-/

namespace Colloquy

/-! ### Texts that start with a dollar sign -/

namespace Yaml.Tag

/-- The first piece of a text starts like the text. -/
theorem splitOn_cons {sep c : Char} (h : c ≠ sep) (cs : List Char) :
    ∃ piece pieces, Text.splitOn sep (c :: cs) = (c :: piece) :: pieces := by
  rw [Text.splitOn, if_neg h]
  split
  · exact ⟨[], [], rfl⟩
  · exact ⟨_, _, rfl⟩

theorem isInt_dollar (cs : List Char) : isInt ('$' :: cs) = false := by
  obtain ⟨piece, pieces, hsplit⟩ := splitOn_cons (show '$' ≠ ':' by decide) cs
  have hsign : unsigned ('$' :: cs) = '$' :: cs := rfl
  have hzero : ∀ ds, '$' :: cs ≠ '0' :: ds := fun ds hds => absurd (List.cons.inj hds).1 (by decide)
  rw [isInt, hsign]
  split
  · exact absurd ‹_› (hzero _)
  · exact absurd ‹_› (hzero _)
  · exact absurd ‹_› (hzero _)
  · rw [hsplit]
    rfl

theorem isFloat_dollar (cs : List Char) : isFloat ('$' :: cs) = false := by
  have hwhole : (unsigned ('$' :: cs)).takeWhile (· ≠ '.') = '$' :: cs.takeWhile (· ≠ '.') :=
    List.takeWhile_cons_of_pos (by decide)
  rw [isFloat, hwhole]
  split
  · rfl
  · obtain ⟨piece, pieces, hsplit⟩ := splitOn_cons (show '$' ≠ ':' by decide) (cs.takeWhile (· ≠ '.'))
    rw [hsplit]
    cases pieces <;> rfl

/-- No word starts with a dollar sign. -/
theorem not_contains_dollar (words : List String) (h : ∀ word ∈ words, word.toList.head? ≠ some '$')
    (cs : List Char) : words.contains (String.ofList ('$' :: cs)) = false := by
  rw [Bool.eq_false_iff]
  intro hword
  refine h _ (List.contains_iff_mem.1 hword) ?_
  rw [String.toList_ofList]
  rfl

/-- A text that starts with a dollar sign is nothing but a text. -/
theorem ofPlain_dollar (cs : List Char) : ofPlain (String.ofList ('$' :: cs)) = .text := by
  have hnull := not_contains_dollar (spellings "null") (by decide) cs
  have hbool := not_contains_dollar ((affirmations ++ negations).flatMap spellings) (by decide) cs
  have hmark (word : String) (h : word.toList.head? ≠ some '$') : String.ofList ('$' :: cs) ≠ word := by
    rintro rfl
    rw [String.toList_ofList] at h
    exact h rfl
  have hempty : ¬(String.ofList ('$' :: cs) = "" ∨ String.ofList ('$' :: cs) = "~" ∨
      (spellings "null").contains (String.ofList ('$' :: cs)) = true) := by
    rintro (h | h | h)
    · exact hmark "" (by decide) h
    · exact hmark "~" (by decide) h
    · exact absurd (hnull.symm.trans h) Bool.false_ne_true
  rw [ofPlain, if_neg (by simpa using hempty), hbool, String.toList_ofList, isInt_dollar, isFloat_dollar,
    if_neg Bool.false_ne_true, if_neg Bool.false_ne_true, if_neg Bool.false_ne_true, if_neg (hmark "<<" (by decide)),
    if_neg (hmark "=" (by decide))]

/-! ### Texts of digits -/

/-- Digits without a zero in front are the same integer in a document as anywhere else. -/
theorem read_digits {t : String} (hfirst : t.toList.head? ≠ some '0') (hdigits : ∀ c ∈ t.toList, c.isDigit = true) :
    Tag.int.read t = .int <$> Number.integerOf t := by
  have hother : ∀ c : Char, c.isDigit = false → c ∉ t.toList := fun c hc hmem =>
    Bool.false_ne_true (hc.symm.trans (hdigits c hmem))
  have hzero : ∀ ds, t.toList ≠ '0' :: ds := by
    intro ds hds
    rw [hds] at hfirst
    exact hfirst rfl
  have hplain : t.toList.filter (· ≠ '_') = t.toList := by
    refine List.filter_eq_self.2 fun c hc => decide_eq_true ?_
    rintro rfl
    exact hother '_' (by decide) hc
  have hpieces : Text.splitOn ':' t.toList = [t.toList] :=
    Text.splitOn_eq_iff.2 ⟨List.cons_ne_nil _ _, by simpa using hother ':' (by decide), by simp⟩
  have hsign : signed t.toList = (1, t.toList) := by
    rw [signed.eq_def]
    split
    · rename_i cs hcs
      exact absurd (hcs ▸ List.mem_cons_self) (hother '+' (by decide))
    · rename_i cs hcs
      exact absurd (hcs ▸ List.mem_cons_self) (hother '-' (by decide))
    · rfl
  have hread : readInt t.toList = Number.integerOf t := by
    rw [readInt, hsign]
    dsimp only
    split
    · exact absurd ‹_› (hzero _)
    · exact absurd ‹_› (hzero _)
    · exact absurd ‹_› (hzero _)
    · exact absurd ‹_› (hzero _)
    · rw [hpieces, List.mapM_cons, List.mapM_nil, String.ofList_toList]
      cases Number.integerOf t with
      | error f => rfl
      | ok n =>
        show Except.ok (1 * (60 * 0 + n)) = Except.ok n
        rw [Int.one_mul, Int.mul_zero, Int.zero_add]
  rw [Tag.read, hplain, hread]

end Yaml.Tag

/-! ### References -/

namespace Environment

variable {env : Environment} {name value : String}

/-- A reference to a variable as it is written. -/
def reference (name : String) : String :=
  String.ofList ('$' :: '\x7b' :: (name.toList ++ ['\x7d']))

/-- A name that references can have. -/
structure IsName (name : String) : Prop where
  ne_nil : name.toList ≠ []
  word : ∀ c ∈ name.toList, Text.isWord c = true

theorem expandFrom_append (env : Environment) (skipped rest : List Char) :
    env.expandFrom skipped.length (skipped ++ rest) = env.expandFrom 0 rest := by
  induction skipped with
  | nil => rfl
  | cons c skipped ih => exact ih

theorem reference?_reference (h : IsName name) :
    reference? ('$' :: '\x7b' :: (name.toList ++ ['\x7d'])) = some name.toList := by
  have hbrace : ¬Text.isWord '\x7d' = true := by decide +kernel
  obtain ⟨c, cs, hname⟩ := List.exists_cons_of_ne_nil h.ne_nil
  have htake : (name.toList ++ ['\x7d']).takeWhile Text.isWord = c :: cs := by
    rw [List.takeWhile_append_of_pos h.word, List.takeWhile_cons_of_neg hbrace, List.append_nil, hname]
  have hdrop : (name.toList ++ ['\x7d']).dropWhile Text.isWord = ['\x7d'] := by
    rw [List.dropWhile_append_of_pos h.word, List.dropWhile_cons_of_neg hbrace]
  rw [reference?, htake, hdrop, hname]
  rfl

/-- The value of a variable takes the place of a reference to it. -/
theorem expand_reference (h : IsName name) (hvalue : env.lookup name = some value) :
    env.expand (reference name) = value := by
  have hfound : env.value? ('$' :: '\x7b' :: (name.toList ++ ['\x7d'])) =
      some (value.toList, name.toList.length + 2) := by
    rw [value?, reference?_reference h]
    show (env.lookup (String.ofList name.toList)).bind _ = _
    rw [String.ofList_toList, hvalue]
    rfl
  have hrest := expandFrom_append env ('\x7b' :: (name.toList ++ ['\x7d'])) []
  rw [List.length_cons, List.length_append, List.length_singleton, List.append_nil] at hrest
  rw [expand, reference, String.toList_ofList, expandFrom, hfound]
  dsimp only
  rw [hrest, expandFrom, List.append_nil, String.ofList_toList]

end Environment

/-- A scalar that refers to a variable is the text of the reference. -/
theorem Yaml.Node.toValue_reference (name : String) (isPlain : Bool) :
    (scalar none (Environment.reference name) isPlain).toValue = .ok (.str (Environment.reference name)) := by
  have htag : scalarTag none (Environment.reference name) isPlain = .text := by
    cases isPlain with
    | true => exact Tag.ofPlain_dollar _
    | false => rfl
  rw [toValue, htag]
  rfl

end Colloquy
