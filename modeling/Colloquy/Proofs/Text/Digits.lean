import Colloquy.Number.Reader
import Colloquy.Proofs.Text.Cutting

/-!
# Digits of any script

A digit of any script has a value, and it is no blank, no sign and no low line.  So nothing is cut off a text of digits:
it is read as the number that the values of its digits make (`readInteger_digits`).
-/

namespace Colloquy

namespace Text

variable {c : Char}

/-- The ranges in which the runs of digits lie. -/
theorem bounds_digitRuns : ∀ run ∈ digitRuns, 48 ≤ run.first ∧ run.last ≤ 57 ∨ 1632 ≤ run.first ∧ run.last ≤ 5000 ∨
    6000 ≤ run.first ∧ run.last ≤ 8000 ∨ 42528 ≤ run.first := by
  decide

theorem exists_of_isListed {table : List Stride} {n : Nat} (h : isListed table n = true) :
    ∃ s ∈ table, s.contains n = true := by
  induction table with
  | nil => exact absurd h Bool.false_ne_true
  | cons s rest ih =>
    rw [isListed] at h
    split at h
    · exact absurd h Bool.false_ne_true
    · rcases Bool.or_eq_true_iff.1 h with hhere | hbehind
      · exact ⟨s, List.mem_cons_self, hhere⟩
      · obtain ⟨t, ht, hcontains⟩ := ih hbehind
        exact ⟨t, List.mem_cons_of_mem s ht, hcontains⟩

theorem exists_digitValue? (h : isDigit c = true) : ∃ value, digitValue? c = some value := by
  obtain ⟨run, hrun, hcontains⟩ := exists_of_isListed h
  have hfound : (digitRuns.find? (·.contains c.toNat)).isSome = true := List.find?_isSome.2 ⟨run, hrun, hcontains⟩
  obtain ⟨found, hfound⟩ := Option.isSome_iff_exists.1 hfound
  exact ⟨(c.toNat - found.first) % 10, by rw [digitValue?, hfound]; rfl⟩

theorem toNat_of_isDigit (h : isDigit c = true) : 48 ≤ c.toNat ∧ c.toNat ≤ 57 ∨ 1632 ≤ c.toNat ∧ c.toNat ≤ 5000 ∨
    6000 ≤ c.toNat ∧ c.toNat ≤ 8000 ∨ 42528 ≤ c.toNat := by
  obtain ⟨run, hrun, hcontains⟩ := exists_of_isListed h
  have hbounds := bounds_digitRuns run hrun
  simp only [Stride.contains, Bool.and_eq_true, decide_eq_true_eq] at hcontains
  omega

theorem isBlank_of_isDigit (h : isDigit c = true) : isBlank c = false := by
  have hbounds := toNat_of_isDigit h
  simp only [isBlank, Bool.or_eq_false_iff, Bool.and_eq_false_iff, decide_eq_false_iff_not, beq_eq_false_iff_ne]
  omega

theorem ne_of_isDigit (h : isDigit c = true) {mark : Char} (hmark : mark = '_' ∨ mark = '+' ∨ mark = '-') :
    c ≠ mark := by
  have hbounds := toNat_of_isDigit h
  rintro rfl
  rcases hmark with rfl | rfl | rfl <;> revert hbounds <;> decide

end Text

namespace Number

open Text (isDigit digitValue?)

variable {ds : List Char}

/-- The number that digits of any script write. -/
def numeral (ds : List Char) : Nat := ofDigits (ds.filterMap digitValue?)

theorem dropSeparators_digits (hds : ∀ d ∈ ds, isDigit d = true) (afterDigit : Bool) :
    dropSeparators afterDigit ds = ds := by
  induction ds generalizing afterDigit with
  | nil => rfl
  | cons d rest ih =>
    rw [List.forall_mem_cons] at hds
    have hmark : d ≠ '_' := Text.ne_of_isDigit hds.1 (.inl rfl)
    rw [dropSeparators, if_neg fun h => hmark h.1, ih hds.2]

theorem readDigits_digits (hds : ∀ d ∈ ds, isDigit d = true) : readDigits ds = (ds.filterMap digitValue?, []) := by
  induction ds with
  | nil => rfl
  | cons d rest ih =>
    rw [List.forall_mem_cons] at hds
    obtain ⟨value, hvalue⟩ := Text.exists_digitValue? hds.1
    rw [readDigits, hvalue, ih hds.2, List.filterMap_cons_some hvalue]

theorem length_filterMap_digitValue? (hds : ∀ d ∈ ds, isDigit d = true) :
    (ds.filterMap digitValue?).length = ds.length := by
  induction ds with
  | nil => rfl
  | cons d rest ih =>
    rw [List.forall_mem_cons] at hds
    obtain ⟨value, hvalue⟩ := Text.exists_digitValue? hds.1
    rw [List.filterMap_cons_some hvalue, List.length_cons, List.length_cons, ih hds.2]

theorem readSign_digits (hds : ∀ d ∈ ds, isDigit d = true) : readSign ds = (false, ds) := by
  unfold readSign
  split
  · exact absurd rfl (Text.ne_of_isDigit (hds _ List.mem_cons_self) (.inr (.inl rfl)))
  · exact absurd rfl (Text.ne_of_isDigit (hds _ List.mem_cons_self) (.inr (.inr rfl)))
  · rfl

/-- **Reading digits.** A text of digits is read as the number they write, unless there are more than the limit. -/
theorem readInteger_digits (hds : ∀ d ∈ ds, isDigit d = true) (hne : ds ≠ []) (hlimit : ds.length ≤ digitLimit) :
    readInteger (String.ofList ds) = .ok (numeral ds : Int) := by
  have hbare : Text.Bare ds := ⟨fun d hd => Text.isBlank_of_isDigit (hds d (List.mem_of_mem_head? hd)),
    fun d hd => Text.isBlank_of_isDigit (hds d (List.mem_of_mem_getLast? hd))⟩
  have hlength := length_filterMap_digitValue? hds
  have hvalues : ds.filterMap digitValue? ≠ [] := by
    rw [← List.length_pos_iff, hlength]
    exact List.length_pos_iff.2 hne
  rw [readInteger, String.toList_ofList, Text.trim_of_bare hbare, dropSeparators_digits hds, readSign_digits hds]
  dsimp only
  rw [readDigits_digits hds]
  split
  · rename_i hnone
    exact absurd (Prod.mk.inj hnone).1 hvalues
  · rename_i values _ hsome
    obtain rfl := (Prod.mk.inj hsome).1
    rw [if_neg (by omega)]
    rfl
  · rename_i hmore _ hsome
    exact absurd rfl (hsome _)

end Number

end Colloquy
