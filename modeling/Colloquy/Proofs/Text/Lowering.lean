import Colloquy.Text.Case
import Colloquy.Text.Find

/-!
# Small forms of a text and of its pieces

The small form of a text is that of its characters one by one, but for the capital sigma, which looks at its
surroundings: so a piece of a text need not have the small form that it has alone.  The texts whose capital sigmas all
see enough of their surroundings within the text itself (`Settled`) are exactly those whose small form stands in the
small form of every text that they stand in (`lower_holds_iff`).
-/

namespace Colloquy.Text

variable {before before' after after' front back rest cs word : List Char} {c : Char}

/-! ### The final sigma -/

/-- The first character that the rule of the final sigma does not look through. -/
def faced? (cs : List Char) : Option Char := cs.find? (!isSkipped ·)

/-- Whether a capital sigma ends a word, given the characters `before` it in reverse order and the `rest`. -/
def isFinal (before rest : List Char) : Bool := (faced? before).any isCased && !(faced? rest).any isCased

theorem facesCased_eq (cs : List Char) : facesCased cs = (faced? cs).any isCased := by
  rw [facesCased]
  induction cs with
  | nil => rfl
  | cons c cs ih =>
    rw [faced?, List.dropWhile_cons, List.find?_cons]
    cases isSkipped c
    · rfl
    · exact ih

/-- What stands nearer is faced first. -/
theorem faced?_append (cs more : List Char) : faced? (cs ++ more) = (faced? cs).or (faced? more) :=
  List.find?_append

/-- A capital sigma is not looked through itself. -/
theorem faced?_sigma (cs : List Char) : faced? ('Σ' :: cs) = some 'Σ' := by
  have hsigma : (!isSkipped 'Σ') = true := by decide +kernel
  exact List.find?_cons_of_pos hsigma

theorem sigma_notMem_of_faced? (h : faced? cs = none) : 'Σ' ∉ cs := by
  intro hmem
  have hsigma : isSkipped 'Σ' = false := by decide +kernel
  have hskipped := List.find?_eq_none.1 h 'Σ' hmem
  rw [hsigma] at hskipped
  exact hskipped rfl

/-! ### Small forms between other texts -/

/-- The small form of a character, given the characters `before` it in reverse order and the `rest`. -/
def smallAt (before : List Char) (c : Char) (rest : List Char) : List Char :=
  if c = 'Σ' then [if isFinal before rest then 'ς' else 'σ']
  else if c = 'İ' then ['i', '\u0307']
  else [simpleLower c]

/-- The small form of a text that stands behind `before`, in reverse order, and in front of `after`. -/
def lowerBetween (before : List Char) : List Char → List Char → List Char
  | [], _ => []
  | c :: rest, after => smallAt before c (rest ++ after) ++ lowerBetween (c :: before) rest after

theorem smallAt_of_ne (h : c ≠ 'Σ') (before rest before' rest' : List Char) :
    smallAt before c rest = smallAt before' c rest' := by
  rw [smallAt, smallAt, if_neg h, if_neg h]

theorem smallAt_congr (h : isFinal before rest = isFinal before' back) :
    smallAt before c rest = smallAt before' c back := by
  rw [smallAt, smallAt, h]

theorem lowerFrom_cons (before : List Char) (c : Char) (rest : List Char) :
    lowerFrom before (c :: rest) = smallAt before c rest ++ lowerFrom (c :: before) rest := by
  rw [lowerFrom, smallAt, isFinal, facesCased_eq, facesCased_eq]

/-- A text is lowered piece by piece, each piece between the others. -/
theorem lowerFrom_append (before cs rest : List Char) :
    lowerFrom before (cs ++ rest) = lowerBetween before cs rest ++ lowerFrom (cs.reverse ++ before) rest := by
  induction cs generalizing before with
  | nil => rfl
  | cons c cs ih =>
    rw [List.cons_append, lowerFrom_cons, ih, lowerBetween, List.reverse_cons, List.append_assoc, List.append_assoc,
      List.singleton_append]

theorem lowerFrom_eq (before cs : List Char) : lowerFrom before cs = lowerBetween before cs [] := by
  have h := lowerFrom_append before cs []
  rwa [List.append_nil, lowerFrom, List.append_nil] at h

theorem lowerBetween_append (before cs rest after : List Char) : lowerBetween before (cs ++ rest) after =
    lowerBetween before cs (rest ++ after) ++ lowerBetween (cs.reverse ++ before) rest after := by
  induction cs generalizing before with
  | nil => rfl
  | cons c cs ih =>
    rw [List.cons_append, lowerBetween, ih, lowerBetween, List.reverse_cons, List.append_assoc, List.append_assoc,
      List.append_assoc, List.singleton_append]

/-- The surroundings matter to capital sigmas only. -/
theorem lowerBetween_congr (h : ∀ front back, cs = front ++ 'Σ' :: back →
    isFinal (front.reverse ++ before) (back ++ after) = isFinal (front.reverse ++ before') (back ++ after')) :
    lowerBetween before cs after = lowerBetween before' cs after' := by
  induction cs generalizing before before' with
  | nil => rfl
  | cons c rest ih =>
    have hsmall : smallAt before c (rest ++ after) = smallAt before' c (rest ++ after') := by
      by_cases hc : c = 'Σ'
      · exact smallAt_congr (h [] rest (by rw [hc]; rfl))
      · exact smallAt_of_ne hc ..
    have hrest : lowerBetween (c :: before) rest after = lowerBetween (c :: before') rest after' := by
      refine ih fun front back hsplit => ?_
      have hcons := h (c :: front) back (by rw [hsplit, List.cons_append])
      rwa [List.reverse_cons, List.append_assoc, List.append_assoc, List.singleton_append] at hcons
    rw [lowerBetween, lowerBetween, hsmall, hrest]

/-- The small form of a piece stands in the small form of the text. -/
theorem lower_split (before cs after : List Char) : lowerBetween before.reverse cs after <:+:
    lowerFrom [] (before ++ cs ++ after) := by
  rw [List.append_assoc, lowerFrom_append, List.append_nil, lowerFrom_append, ← List.append_assoc]
  exact ⟨_, _, rfl⟩

/-! ### Settled texts -/

/-- A capital sigma between two texts whose form does not depend on what is around these: a character with case follows,
one without case stands before it, or there is a character on both sides that is not looked through. -/
def SettledAt (front back : List Char) : Prop :=
  (faced? back).any isCased = true ∨ (faced? front.reverse).any (!isCased ·) = true ∨
    (faced? front.reverse).isSome = true ∧ (faced? back).isSome = true

/-- A text with the same small form wherever it stands: what decides about its capital sigmas is in the text. -/
def Settled (word : List Char) : Prop := ∀ front back, word = front ++ 'Σ' :: back → SettledAt front back

instance (front back : List Char) : Decidable (SettledAt front back) :=
  inferInstanceAs (Decidable (_ ∨ _ ∨ _ ∧ _))

theorem settled_iff : Settled word ↔
    ∀ i < word.length, word[i]? = some 'Σ' → SettledAt (word.take i) (word.drop (i + 1)) := by
  constructor
  · intro h i hi hsigma
    refine h _ _ ?_
    obtain ⟨hlt, hget⟩ := List.getElem?_eq_some_iff.1 hsigma
    rw [← hget, List.getElem_cons_drop, List.take_append_drop]
  · rintro h front back rfl
    have hsettled := h front.length (by simp) (by simp)
    rwa [List.take_left, ← List.drop_drop, List.drop_left, List.drop_one, List.tail_cons] at hsettled

instance : DecidablePred Settled := fun _ => decidable_of_iff _ settled_iff.symm

theorem SettledAt.isFinal (h : SettledAt front back) (before after : List Char) :
    isFinal (front.reverse ++ before) (back ++ after) = isFinal front.reverse back := by
  rw [Text.isFinal, Text.isFinal, faced?_append, faced?_append]
  rw [SettledAt] at h
  generalize faced? front.reverse = nearest at h ⊢
  generalize faced? back = next at h ⊢
  cases nearest <;> cases next <;> simp_all

/-- The small form of a settled text stands in the small form of every text that it stands in. -/
theorem Settled.lower_infix (h : Settled word) (before after : List Char) :
    lowerFrom [] word <:+: lowerFrom [] (before ++ word ++ after) := by
  have hword : lowerBetween before.reverse word after = lowerFrom [] word := by
    rw [lowerFrom_eq]
    refine lowerBetween_congr fun front back hsplit => ?_
    rw [(h front back hsplit).isFinal, List.append_nil, List.append_nil]
  rw [← hword]
  exact lower_split before word after

/-- What stands behind a sigma does not matter to those in front of it, and what stands before it not to those
behind. -/
theorem exists_lowerBetween_sigma (hfront : before = before' ∨ 'Σ' ∉ front) (hback : after = after' ∨ 'Σ' ∉ back) :
    ∃ left right,
      lowerBetween before (front ++ 'Σ' :: back) after =
        left ++ (smallAt (front.reverse ++ before) 'Σ' (back ++ after) ++ right) ∧
      lowerBetween before' (front ++ 'Σ' :: back) after' =
        left ++ (smallAt (front.reverse ++ before') 'Σ' (back ++ after') ++ right) := by
  have hleft : lowerBetween before front ('Σ' :: back ++ after) =
      lowerBetween before' front ('Σ' :: back ++ after') := by
    refine lowerBetween_congr fun front' back' hsplit => ?_
    have hbefore : before = before' := hfront.resolve_right fun h => h (by simp [hsplit])
    rw [hbefore, isFinal, isFinal, faced?_append back', faced?_append back', List.cons_append, List.cons_append,
      faced?_sigma, faced?_sigma]
  have hright : lowerBetween ('Σ' :: (front.reverse ++ before)) back after =
      lowerBetween ('Σ' :: (front.reverse ++ before')) back after' := by
    refine lowerBetween_congr fun front' back' hsplit => ?_
    have hafter : after = after' := hback.resolve_right fun h => h (by simp [hsplit])
    rw [hafter, isFinal, isFinal, faced?_append front'.reverse, faced?_append front'.reverse, faced?_sigma,
      faced?_sigma]
  refine ⟨lowerBetween before front ('Σ' :: back ++ after),
    lowerBetween ('Σ' :: (front.reverse ++ before)) back after, ?_, ?_⟩
  · rw [lowerBetween_append, lowerBetween]
  · rw [lowerBetween_append, lowerBetween, hleft, hright]

theorem count_smallAt (left right before rest : List Char) (d : Char) :
    (left ++ (smallAt before 'Σ' rest ++ right)).count d =
      left.count d + right.count d + if (if isFinal before rest then 'ς' else 'σ') == d then 1 else 0 := by
  rw [smallAt, if_pos rfl, List.count_append, List.count_append, List.count_singleton]
  omega

/-- A text that loses neither form of the sigma keeps the form of each sigma. -/
theorem isFinal_congr (hfront : before = before' ∨ 'Σ' ∉ front) (hback : after = after' ∨ 'Σ' ∉ back)
    (h : ∀ d, d = 'ς' ∨ d = 'σ' → (lowerBetween before (front ++ 'Σ' :: back) after).count d ≤
      (lowerBetween before' (front ++ 'Σ' :: back) after').count d) :
    isFinal (front.reverse ++ before) (back ++ after) = isFinal (front.reverse ++ before') (back ++ after') := by
  obtain ⟨left, right, hhere, hthere⟩ := exists_lowerBetween_sigma hfront hback
  have hcount (d : Char) (hd : d = 'ς' ∨ d = 'σ') := h d hd
  simp only [hhere, hthere, count_smallAt, Nat.add_le_add_iff_left] at hcount
  cases hf : isFinal (front.reverse ++ before) (back ++ after) with
  | true =>
    have hfinal := hcount 'ς' (.inl rfl)
    rw [hf] at hfinal
    cases hg : isFinal (front.reverse ++ before') (back ++ after') with
    | true => rfl
    | false => exact absurd (hg ▸ hfinal) (by decide)
  | false =>
    have hinner := hcount 'σ' (.inr rfl)
    rw [hf] at hinner
    cases hg : isFinal (front.reverse ++ before') (back ++ after') with
    | true => exact absurd (hg ▸ hinner) (by decide)
    | false => rfl

theorem smallAt_letter (before rest : List Char) : smallAt before 'a' rest = ['a'] := by
  have hsmall : simpleLower 'a' = 'a' := by decide +kernel
  rw [smallAt, if_neg (by decide), if_neg (by decide), hsmall]

/-- Where the small form of a text always stands in that of the whole, the text is settled: a letter in front of it or
behind it changes the form of a sigma which is not. -/
theorem settled_of_lower_infix (h : ∀ before after, lowerFrom [] word <:+: lowerFrom [] (before ++ word ++ after)) :
    Settled word := by
  have hfaced : faced? ['a'] = some 'a' := by decide +kernel
  have hletter : isCased 'a' = true := by decide +kernel
  have hother {d : Char} (hd : d = 'ς' ∨ d = 'σ') : ['a'].count d = 0 := by
    rcases hd with rfl | rfl <;> decide
  have hbehind {d : Char} (hd : d = 'ς' ∨ d = 'σ') :
      (lowerBetween [] word []).count d ≤ (lowerBetween ['a'] word []).count d := by
    have hle := (h ['a'] []).sublist.count_le d
    rwa [List.append_nil, List.singleton_append, lowerFrom_cons, smallAt_letter, lowerFrom_eq, lowerFrom_eq,
      List.count_append, hother hd, Nat.zero_add] at hle
  have hbefore {d : Char} (hd : d = 'ς' ∨ d = 'σ') :
      (lowerBetween [] word []).count d ≤ (lowerBetween [] word ['a']).count d := by
    have hle := (h [] ['a']).sublist.count_le d
    rwa [List.nil_append, lowerFrom_append, lowerFrom_cons, smallAt_letter, lowerFrom_eq, lowerFrom,
      List.count_append, List.append_nil, hother hd, Nat.add_zero] at hle
  rintro front back rfl
  cases hnearest : faced? front.reverse with
  | none =>
    cases hnext : (faced? back).any isCased with
    | true => exact .inl hnext
    | false =>
      -- A letter in front of the text makes the sigma a final one.
      have hmem : 'Σ' ∉ front := mt List.mem_reverse.2 (sigma_notMem_of_faced? hnearest)
      have hcongr := isFinal_congr (.inr hmem) (.inl rfl) fun d hd => hbehind hd
      rw [List.append_nil, List.append_nil, isFinal, isFinal, faced?_append, hnearest, Option.none_or, hfaced, hnext,
        Option.any_some, hletter] at hcongr
      exact absurd hcongr (by decide)
  | some c =>
    cases hcased : isCased c with
    | false => exact .inr (.inl (by rw [hnearest, Option.any_some, hcased]; rfl))
    | true =>
      cases hnext : faced? back with
      | some d => exact .inr (.inr ⟨by rw [hnearest]; rfl, by rw [hnext]; rfl⟩)
      | none =>
        -- A letter behind the text makes the sigma an inner one.
        have hcongr := isFinal_congr (.inl rfl) (.inr (sigma_notMem_of_faced? hnext)) fun d hd => hbefore hd
        rw [List.append_nil, List.append_nil, isFinal, isFinal, faced?_append, hnearest, hnext, Option.none_or, hfaced,
          Option.any_some, Option.any_some, hcased, hletter] at hcongr
        exact absurd hcongr (by decide)

/-! ### Texts -/

theorem holds_iff {whole part : String} : holds whole part = true ↔ part.toList <:+: whole.toList := by
  rw [holds, occursIn_iff]
  constructor
  · rintro ⟨front, back, h⟩
    exact ⟨front, back, h.symm⟩
  · rintro ⟨front, back, h⟩
    exact ⟨front, back, h.symm⟩

theorem toList_lower (s : String) : (lower s).toList = lowerFrom [] s.toList := String.toList_ofList

/-- **Small forms of pieces.** The small form of a word stands in the small form of every text that the word stands in
if and only if the word is settled. -/
theorem lower_holds_iff {word : String} :
    (∀ text, holds text word = true → holds (lower text) (lower word) = true) ↔ Settled word.toList := by
  constructor
  · intro h
    refine settled_of_lower_infix fun before after => ?_
    have hfound := h (String.ofList (before ++ word.toList ++ after))
    rw [holds_iff, holds_iff, toList_lower, toList_lower, String.toList_ofList] at hfound
    exact hfound ⟨before, after, rfl⟩
  · intro h text htext
    obtain ⟨before, after, hsplit⟩ := holds_iff.1 htext
    rw [holds_iff, toList_lower, toList_lower, ← hsplit]
    exact h.lower_infix before after

end Colloquy.Text
