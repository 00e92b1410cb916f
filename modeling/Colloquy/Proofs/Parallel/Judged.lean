import Colloquy.Proofs.Parallel.Heuristic
import Colloquy.Proofs.Parallel.Selection
import Colloquy.Proofs.Source.Gate
import Colloquy.Proofs.Text.Digits

/-!
# What a judge selects

A judge is shown the outcomes that have messages on top, numbered from one (`labelled`), and is asked once.  The first
digits of the answer are the number of the outcome that is selected, as it was shown, whichever branches failed; where
they are not the number of one, or there are none, it is the earliest outcome with the highest heuristic score
(`Strategy.aggregate_judged`).
-/

namespace Colloquy

open Number (numeral digitLimit)

/-! ### The first stretch of a class -/

section

variable {p : Char → Bool} {cs ds before after current : List Char}

/-- The first stretch of characters of a class in a text. -/
def FirstStretch (p : Char → Bool) (cs ds : List Char) : Prop :=
  ∃ before after, cs = before ++ ds ++ after ∧ (∀ c ∈ before, p c = false) ∧ ds ≠ [] ∧ (∀ c ∈ ds, p c = true) ∧
    ∀ c ∈ after.head?, p c = false

theorem stretches_skip (h : ∀ c ∈ before, p c = false) : stretches p [] (before ++ after) = stretches p [] after := by
  induction before with
  | nil => rfl
  | cons c rest ih =>
    rw [List.forall_mem_cons] at h
    rw [List.cons_append, stretches, h.1]
    exact ih h.2

theorem stretches_take (h : ∀ c ∈ ds, p c = true) :
    stretches p current (ds ++ after) = stretches p (ds.reverse ++ current) after := by
  induction ds generalizing current with
  | nil => rfl
  | cons c rest ih =>
    rw [List.forall_mem_cons] at h
    rw [List.cons_append, stretches, if_pos h.1, ih h.2, List.reverse_cons, List.append_assoc]
    rfl

theorem head?_stretches_end (hcurrent : current ≠ []) (h : ∀ c ∈ after.head?, p c = false) :
    (stretches p current after).head? = some current.reverse := by
  have hnone : current.isEmpty = false := List.isEmpty_eq_false_iff.2 hcurrent
  cases after with
  | nil => rw [stretches, hnone]; rfl
  | cons c rest => rw [stretches, h c rfl, hnone]; rfl

theorem FirstStretch.head?_stretches (h : FirstStretch p cs ds) : (stretches p [] cs).head? = some ds := by
  obtain ⟨before, after, rfl, hbefore, hne, hds, hafter⟩ := h
  rw [List.append_assoc, stretches_skip hbefore, stretches_take hds, List.append_nil,
    head?_stretches_end (List.reverse_ne_nil_iff.2 hne) hafter, List.reverse_reverse]

theorem FirstStretch.unique {es : List Char} (h : FirstStretch p cs ds) (h' : FirstStretch p cs es) : ds = es :=
  Option.some.inj (h.head?_stretches.symm.trans h'.head?_stretches)

theorem exists_firstStretch (h : ∃ c ∈ cs, p c = true) : ∃ ds, FirstStretch p cs ds := by
  obtain ⟨c, hc, hp⟩ := h
  have hrest : cs.dropWhile (! p ·) ≠ [] := by
    rw [ne_eq, List.dropWhile_eq_nil_iff]
    intro hnone
    have hno := hnone c hc
    rw [hp] at hno
    exact nomatch hno
  obtain ⟨first, rest, hsplit⟩ := List.exists_cons_of_ne_nil hrest
  have hfirst : p first = true := by
    have hnot := List.head?_dropWhile_not (! p ·) cs
    rw [hsplit] at hnot
    simpa using hnot
  refine ⟨(first :: rest).takeWhile p, cs.takeWhile (! p ·), (first :: rest).dropWhile p, ?_, ?_, ?_, ?_, ?_⟩
  · rw [List.append_assoc, List.takeWhile_append_dropWhile, ← hsplit, List.takeWhile_append_dropWhile]
  · intro c hc
    simpa using List.mem_takeWhile_imp hc
  · rw [List.takeWhile_cons_of_pos hfirst]
    exact List.cons_ne_nil _ _
  · exact fun c hc => List.mem_takeWhile_imp hc
  · intro c hc
    have hnot := List.head?_dropWhile_not p (first :: rest)
    rw [hc] at hnot
    exact hnot

theorem head?_stretches_eq_some_iff : (stretches p [] cs).head? = some ds ↔ FirstStretch p cs ds := by
  refine ⟨fun h => ?_, FirstStretch.head?_stretches⟩
  by_cases hsome : ∃ c ∈ cs, p c = true
  · obtain ⟨ds', hfirst⟩ := exists_firstStretch hsome
    obtain rfl := Option.some.inj (hfirst.head?_stretches.symm.trans h)
    exact hfirst
  · have hnone : ∀ c ∈ cs, p c = false := fun c hc => Bool.eq_false_iff.2 fun hp => hsome ⟨c, hc, hp⟩
    have hempty : stretches p [] cs = [] := by
      rw [← List.append_nil cs, stretches_skip hnone]
      rfl
    rw [hempty] at h
    exact nomatch h

end

/-! ### What a judge is shown -/

namespace Strategy

variable {σ : Type} {answer : String} {candidates : List Session} {parent : Session} {ds : List Char}

theorem named?_of_firstStretch (h : FirstStretch Text.isDigit answer.toList ds) (hlimit : ds.length ≤ digitLimit)
    (candidates : List Session) :
    named? answer candidates = .ok (if 1 ≤ numeral ds then candidates[numeral ds - 1]? else none) := by
  obtain ⟨-, -, -, -, hne, hds, -⟩ := id h
  have hread : Number.integerOf (String.ofList ds) = .ok (numeral ds : Int) := by
    rw [Number.integerOf, Number.readInteger_digits hds hne hlimit]
  rw [named?, firstNumber?, h.head?_stretches]
  dsimp only [Option.map_some]
  rw [hread]
  show Except.ok (if (1 : Int) ≤ numeral ds then _ else _) = _
  by_cases hone : 1 ≤ numeral ds
  · rw [if_pos hone, if_pos (by exact_mod_cast hone)]
    rfl
  · rw [if_neg hone, if_neg (by exact_mod_cast hone)]

theorem named?_of_no_digits (h : ∀ ds, ¬ FirstStretch Text.isDigit answer.toList ds) (candidates : List Session) :
    named? answer candidates = .ok none := by
  have hnone : (stretches Text.isDigit [] answer.toList).head? = none :=
    Option.eq_none_iff_forall_ne_some.2 fun ds hds => h ds (head?_stretches_eq_some_iff.1 hds)
  rw [named?, firstNumber?, hnone]
  rfl

/-- A number in range names a candidate. -/
theorem exists_named? (h : FirstStretch Text.isDigit answer.toList ds) (hlimit : ds.length ≤ digitLimit)
    (hone : 1 ≤ numeral ds) (hle : numeral ds ≤ candidates.length) : ∃ chosen ∈ candidates,
      candidates[numeral ds - 1]? = some chosen ∧ named? answer candidates = .ok (some chosen) := by
  have hless : numeral ds - 1 < candidates.length := by omega
  have hthere : candidates[numeral ds - 1]? = some candidates[numeral ds - 1] := List.getElem?_eq_getElem hless
  refine ⟨candidates[numeral ds - 1], List.getElem_mem hless, hthere, ?_⟩
  rw [named?_of_firstStretch h hlimit, if_pos hone, hthere]

/-- An answer without digits, or whose first number is out of range, names no candidate. -/
theorem named?_eq_none (hlimit : ∀ ds, FirstStretch Text.isDigit answer.toList ds → ds.length ≤ digitLimit)
    (h : ∀ ds, FirstStretch Text.isDigit answer.toList ds → ¬ (1 ≤ numeral ds ∧ numeral ds ≤ candidates.length)) :
    named? answer candidates = .ok none := by
  by_cases hdigits : ∃ ds, FirstStretch Text.isDigit answer.toList ds
  · obtain ⟨ds, hds⟩ := hdigits
    rw [named?_of_firstStretch hds (hlimit ds hds)]
    split
    · rename_i hone
      have hbeyond : candidates.length < numeral ds := not_le.1 fun hle => h ds hds ⟨hone, hle⟩
      rw [List.getElem?_eq_none (by omega)]
    · rfl
  · exact named?_of_no_digits (not_exists.1 hdigits) candidates

/-! ### The best by heuristic scores -/

/-- A session with its heuristic score. -/
def scored (s : Session) : Session × Float := (s, heuristicScore s)

theorem exec_scoreAll_heuristic (candidates : List Session) (w : Surroundings σ) (st : State σ) :
    (scoreAll none candidates).exec w st = (.ok (candidates.map heuristicScore), st) := by
  induction candidates with
  | nil => rfl
  | cons c rest ih =>
    have hscore : (score (σ := σ) none c).exec w st = (.ok (heuristicScore c), st) := rfl
    rw [scoreAll, Run.exec_bind_ok _ hscore, Run.exec_bind_ok _ ih]
    rfl

theorem exec_bestOf_heuristic (first : Session) (rest : List Session) (w : Surroundings σ) (st : State σ) :
    (bestOf none first (heuristicScore first) rest).exec w st =
      (.ok (leader (scored first) (rest.map scored)), st) := by
  have hscores := exec_scoreAll_heuristic rest w st
  have hzip : rest.zip (rest.map heuristicScore) = rest.map scored := by
    have hpairs := List.zip_map' (f := id) (g := heuristicScore) (l := rest)
    rw [List.map_id] at hpairs
    exact hpairs
  rw [← List.map_id rest] at hscores
  have hleader := exec_bestOf id (scored first) hscores
  rw [List.map_id, hzip] at hleader
  exact hleader

/-- Without a scorer the earliest of the candidates with the highest heuristic score is chosen. -/
theorem exec_aggregateBest_heuristic (hne : candidates ≠ [])
    (hsucceeded : succeeded parent candidates = candidates) (w : Surroundings σ) (st : State σ) :
    ∃ chosen ∈ candidates, FirstBest (candidates.map scored) (scored chosen) ∧
      (aggregateBest none parent candidates).exec w st = (.ok chosen,
        { st with events := st.events ++ [.bestSelected (heuristicScore chosen) candidates.length] }) := by
  obtain ⟨first, rest, rfl⟩ := List.exists_cons_of_ne_nil hne
  obtain ⟨chosen, hmem, hchosen⟩ : ∃ chosen ∈ first :: rest, scored chosen = leader (scored first) (rest.map scored) :=
    List.mem_map.1 (leader_mem (scored first) (rest.map scored))
  have hdefined : ∀ c ∈ (first :: rest).map scored, ¬ c.2.isNaN := by
    rintro c hc
    obtain ⟨s, -, rfl⟩ := List.mem_map.1 hc
    exact (nonnegative_heuristicScore s).not_isNaN
  refine ⟨chosen, hmem, ?_, ?_⟩
  · rw [hchosen]
    exact firstBest_leader hdefined
  · have hfirst : (score (σ := σ) none first).exec w st = (.ok (heuristicScore first), st) := rfl
    have hbest := exec_bestOf_heuristic first rest w st
    rw [← hchosen] at hbest
    rw [aggregateBest, hsucceeded]
    dsimp only
    rw [Run.exec_bind_ok _ hfirst, Run.exec_bind_ok _ hbest, Run.exec_bind_ok _ (Run.exec_log _)]
    rfl

/-! ### Judged selection -/

/-- What an answer selects among candidates: the one whose number it names first, counted from one, or else the earliest
of those with the highest heuristic score. -/
structure Selects (answer : String) (candidates : List Session) (chosen : Session) : Prop where
  mem : chosen ∈ candidates
  named : ∀ ds, FirstStretch Text.isDigit answer.toList ds → 1 ≤ numeral ds → numeral ds ≤ candidates.length →
    candidates[numeral ds - 1]? = some chosen
  otherwise : (∀ ds, FirstStretch Text.isDigit answer.toList ds → ¬ (1 ≤ numeral ds ∧ numeral ds ≤ candidates.length)) →
    FirstBest (candidates.map scored) (scored chosen)

/-- What follows on an answer that names no candidate. -/
def fallBack (parent : Session) (candidates : List Session) (answer : String) : Run σ Session := do
  Run.log (.judgeUnusable (String.ofList (answer.toList.take 80)))
  aggregateBest none parent candidates

/-- What follows on the answer of a judge. -/
def settle (parent : Session) (candidates : List Session) (content : Content) : Run σ Session := do
  let answer ← Run.ofExcept (Validator.searchable content.text)
  match ← Run.ofExcept (named? answer candidates) with
  | some chosen => return chosen
  | none => fallBack parent candidates answer

theorem exec_settle_of_named {content : Content} {chosen : Session} (htext : content.text = .str answer)
    (hnamed : named? answer candidates = .ok (some chosen)) (w : Surroundings σ) (st : State σ) :
    (settle parent candidates content).exec w st = (.ok chosen, st) := by
  rw [settle, htext]
  show (Run.ofExcept (named? answer candidates) >>= _).exec w st = _
  rw [hnamed]
  rfl

theorem exec_settle_of_none {content : Content} (htext : content.text = .str answer)
    (hnone : named? answer candidates = .ok none) (w : Surroundings σ) (st : State σ) :
    (settle parent candidates content).exec w st = (fallBack parent candidates answer).exec w st := by
  rw [settle, htext]
  show (Run.ofExcept (named? answer candidates) >>= _).exec w st = _
  rw [hnone]
  rfl

/-- Every answer whose first digits can be read selects a candidate. -/
theorem exec_settle (hne : candidates ≠ []) (hsucceeded : succeeded parent candidates = candidates) {content : Content}
    (htext : content.text = .str answer)
    (hlimit : ∀ ds, FirstStretch Text.isDigit answer.toList ds → ds.length ≤ digitLimit) (w : Surroundings σ)
    (st : State σ) : ∃ chosen events, Selects answer candidates chosen ∧
      (settle parent candidates content).exec w st = (.ok chosen, { st with events := st.events ++ events }) := by
  by_cases hin : ∃ ds, FirstStretch Text.isDigit answer.toList ds ∧ 1 ≤ numeral ds ∧ numeral ds ≤ candidates.length
  · obtain ⟨ds, hds, hone, hle⟩ := hin
    obtain ⟨chosen, hmem, hthere, hnamed⟩ := exists_named? hds (hlimit ds hds) hone hle
    refine ⟨chosen, [], ⟨hmem, ?_, fun hnone => absurd ⟨hone, hle⟩ (hnone ds hds)⟩, ?_⟩
    · intro es hes _ _
      rw [← hds.unique hes]
      exact hthere
    · rw [exec_settle_of_named htext hnamed, List.append_nil]
  · have hnone : ∀ ds, FirstStretch Text.isDigit answer.toList ds →
        ¬ (1 ≤ numeral ds ∧ numeral ds ≤ candidates.length) := fun ds hds hrange => hin ⟨ds, hds, hrange⟩
    obtain ⟨chosen, hmem, hfirst, hexec⟩ := exec_aggregateBest_heuristic hne hsucceeded w
      { st with events := st.events ++ [.judgeUnusable (String.ofList (answer.toList.take 80))] }
    refine ⟨chosen, [.judgeUnusable (String.ofList (answer.toList.take 80)),
      .bestSelected (heuristicScore chosen) candidates.length], ⟨hmem, ?_, fun _ => hfirst⟩, ?_⟩
    · exact fun ds hds hone hle => absurd ⟨hone, hle⟩ (hnone ds hds)
    · rw [exec_settle_of_none htext (named?_eq_none hlimit hnone), fallBack,
        Run.exec_bind_ok _ (Run.exec_log _), hexec, List.append_assoc]
      rfl

end Strategy

end Colloquy
