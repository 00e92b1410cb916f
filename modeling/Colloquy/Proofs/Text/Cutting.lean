import Colloquy.Text.Chars
import Colloquy.Text.Find
import Mathlib.Data.List.TakeWhile

/-!
# Trimmed and split texts

A text without the blanks at its ends is the only part of it that is bare and has nothing but blanks around it
(`trim_eq_iff`), and the pieces between the occurrences of a character are the only ones without the character that join
to the text (`splitOn_eq_iff`).
-/

namespace Colloquy.Text

variable {cs core front back : List Char} {c : Char}

/-! ### Trimming -/

/-- Nothing but blanks. -/
def AllBlank (cs : List Char) : Prop := ∀ c ∈ cs, isBlank c = true

/-- A text that neither begins nor ends with a blank. -/
structure Bare (cs : List Char) : Prop where
  first : ∀ c ∈ cs.head?, isBlank c = false
  last : ∀ c ∈ cs.getLast?, isBlank c = false

theorem bare_iff : Bare cs ↔ cs.head?.any isBlank = false ∧ cs.getLast?.any isBlank = false := by
  rw [Option.any_eq_false, Option.any_eq_false]
  exact ⟨fun h => ⟨h.first, h.last⟩, fun h => ⟨h.1, h.2⟩⟩

theorem dropWhile_of_head (h : ∀ c ∈ cs.head?, isBlank c = false) : cs.dropWhile isBlank = cs := by
  cases cs with
  | nil => rfl
  | cons c cs => exact List.dropWhile_cons_of_neg (by rw [h c rfl]; decide)

theorem head?_dropWhile (cs : List Char) : ∀ c ∈ (cs.dropWhile isBlank).head?, isBlank c = false := by
  intro c hc
  have h := List.head?_dropWhile_not isBlank cs
  rwa [hc] at h

theorem trimRight_append (hback : AllBlank back) (h : ∀ c ∈ core.getLast?, isBlank c = false) :
    trimRight (core ++ back) = core := by
  have hreverse : ∀ c ∈ back.reverse, isBlank c = true := fun c hc => hback c (List.mem_reverse.1 hc)
  rw [trimRight, List.reverse_append, List.dropWhile_append_of_pos hreverse, dropWhile_of_head, List.reverse_reverse]
  rwa [List.head?_reverse]

/-- What is cut off the end are blanks, and no further blank is left there. -/
theorem exists_trimRight (cs : List Char) : ∃ back, cs = trimRight cs ++ back ∧ AllBlank back ∧
    ∀ c ∈ (trimRight cs).getLast?, isBlank c = false := by
  refine ⟨(cs.reverse.takeWhile isBlank).reverse, ?_, ?_, ?_⟩
  · rw [trimRight, ← List.reverse_append, List.takeWhile_append_dropWhile, List.reverse_reverse]
  · intro c hc
    exact List.mem_takeWhile_imp (List.mem_reverse.1 hc)
  · rw [trimRight, List.getLast?_reverse]
    exact head?_dropWhile cs.reverse

theorem trim_append (hfront : AllBlank front) (hcore : Bare core) (hback : AllBlank back) :
    trim (front ++ core ++ back) = core := by
  rw [trim, List.append_assoc, List.dropWhile_append_of_pos hfront]
  cases core with
  | nil =>
    have hnone : back.dropWhile isBlank = [] := List.dropWhile_eq_nil_iff.2 hback
    rw [List.nil_append, hnone]
    rfl
  | cons c core =>
    have hhead : ∀ d ∈ (c :: core ++ back).head?, isBlank d = false := hcore.first
    rw [dropWhile_of_head hhead, trimRight_append hback hcore.last]

/-- **Trimming** leaves the bare part of a text that has blanks around it. -/
theorem trim_eq_iff : trim cs = core ↔
    Bare core ∧ ∃ front back, cs = front ++ core ++ back ∧ AllBlank front ∧ AllBlank back := by
  constructor
  · rintro rfl
    obtain ⟨back, hsplit, hback, hlast⟩ := exists_trimRight (cs.dropWhile isBlank)
    refine ⟨⟨?_, hlast⟩, cs.takeWhile isBlank, back, ?_, fun c hc => List.mem_takeWhile_imp hc, hback⟩
    · -- What is trimmed on the right begins as before, unless nothing is left of it.
      intro c hc
      refine head?_dropWhile cs c ?_
      rw [hsplit, List.head?_append]
      exact Option.mem_def.2 (by rw [show (trimRight (cs.dropWhile isBlank)).head? = some c from hc]; rfl)
    · rw [trim, List.append_assoc, ← hsplit, List.takeWhile_append_dropWhile]
  · rintro ⟨hcore, front, back, rfl, hfront, hback⟩
    exact trim_append hfront hcore hback

theorem bare_trim (cs : List Char) : Bare (trim cs) := (trim_eq_iff.1 rfl).1

theorem trim_of_bare (h : Bare cs) : trim cs = cs :=
  trim_eq_iff.2 ⟨h, [], [], (List.append_nil _).symm, nofun, nofun⟩

/-- Blanks at the end make no difference. -/
theorem trim_append_right (cs : List Char) (hback : AllBlank back) : trim (cs ++ back) = trim cs := by
  obtain ⟨hbare, front, back', hsplit, hfront, hback'⟩ := trim_eq_iff.1 (rfl : trim cs = trim cs)
  refine trim_eq_iff.2 ⟨hbare, front, back' ++ back, ?_, hfront, ?_⟩
  · rw [← List.append_assoc, ← hsplit]
  · exact fun c hc => (List.mem_append.1 hc).elim (hback' c) (hback c)

/-! ### Splitting -/

/-- What stands in front of the first occurrence of a character, and the rest. -/
theorem takeWhile_until (h : c ∉ front) (rest : List Char) :
    (front ++ c :: rest).takeWhile (· ≠ c) = front ∧ (front ++ c :: rest).dropWhile (· ≠ c) = c :: rest := by
  have hfront : ∀ d ∈ front, decide (d ≠ c) = true := by
    intro d hd
    rw [decide_eq_true_iff]
    rintro rfl
    exact h hd
  rw [List.takeWhile_append_of_pos hfront, List.dropWhile_append_of_pos hfront]
  simp

theorem splitOn_eq (sep : Char) (cs : List Char) : splitOn sep cs = cs.splitOn sep := by
  induction cs with
  | nil => rfl
  | cons c cs ih =>
    rw [splitOn, ih, List.splitOn_cons_eq_if_modifyHead]
    by_cases hc : c = sep
    · rw [if_pos hc, if_pos (beq_iff_eq.2 hc)]
    · rw [if_neg hc, if_neg (mt beq_iff_eq.1 hc)]
      obtain ⟨piece, pieces, hsplit⟩ := List.exists_cons_of_ne_nil (List.splitOn_ne_nil sep cs)
      rw [hsplit]
      rfl

/-- The character is in none of the pieces. -/
theorem notMem_of_mem_splitOn {sep : Char} {piece : List Char} (h : piece ∈ splitOn sep cs) : sep ∉ piece := by
  induction cs generalizing piece with
  | nil =>
    rw [List.mem_singleton.1 h]
    exact List.not_mem_nil
  | cons c cs ih =>
    rw [splitOn] at h
    split_ifs at h with hc
    · rcases List.mem_cons.1 h with rfl | h
      · exact List.not_mem_nil
      · exact ih h
    · obtain ⟨first, pieces, hsplit⟩ := List.exists_cons_of_ne_nil (splitOn_ne_nil sep cs)
      rw [hsplit] at h ih
      rcases List.mem_cons.1 h with rfl | h
      · exact mt List.mem_cons.1 (not_or.2 ⟨Ne.symm hc, ih (List.mem_cons_self ..)⟩)
      · exact ih (List.mem_cons_of_mem _ h)

/-- **Splitting** gives the pieces that have none of the characters and join to the text. -/
theorem splitOn_eq_iff {sep : Char} {pieces : List (List Char)} : splitOn sep cs = pieces ↔
    pieces ≠ [] ∧ (∀ piece ∈ pieces, sep ∉ piece) ∧ [sep].intercalate pieces = cs := by
  constructor
  · rintro rfl
    refine ⟨splitOn_ne_nil sep cs, fun piece => notMem_of_mem_splitOn, ?_⟩
    rw [splitOn_eq, List.intercalate_splitOn]
  · rintro ⟨hne, hnone, rfl⟩
    rw [splitOn_eq, List.splitOn_intercalate sep hnone hne]

end Colloquy.Text
