import Colloquy.Proofs.Text.Lowering
import Colloquy.Validator.Judge

/-!
# Keywords without regard to case

Without regard to case a keyword is looked for as its small form in the small form of the content.  A keyword that
stands in a content is found so if its capital sigmas see what decides about their form, and no other keyword is found
in all contents that it stands in (`judge_keywords_caseless`).
-/

namespace Colloquy.Validator

variable {σ : Type} {caseSensitive : Bool} {text description : String} {wanted banned : List String}

/-! ### Keywords in a text -/

/-- Whether a keyword is found in a text, with or without regard to case. -/
def finds (caseSensitive : Bool) (text word : String) : Bool :=
  if caseSensitive then Text.holds text word else Text.holds (Text.lower text) (Text.lower word)

theorem filterHeld_text (held caseSensitive : Bool) (text : String) (words : List String) :
    filterHeld held caseSensitive (.str (if caseSensitive then text else Text.lower text)) words =
      .ok (words.filter fun w => finds caseSensitive text w = held) := by
  induction words with
  | nil => rfl
  | cons w rest ih =>
    have hfound : holds (.str (if caseSensitive then text else Text.lower text))
        (if caseSensitive then w else Text.lower w) = .ok (finds caseSensitive text w) := by
      cases caseSensitive <;> rfl
    rw [filterHeld, hfound, ih, List.filter_cons]
    show Except.ok _ = Except.ok _
    simp only [decide_eq_true_eq]

/-- Keywords in a text are judged without failing: by those that are missing, then by those that are banned. -/
theorem judgeKeywords_text (wanted banned : List String) (caseSensitive : Bool) (description text : String) :
    judgeKeywords wanted banned caseSensitive description (.str text) = .ok (
      let missing := wanted.filter fun w => finds caseSensitive text w = false
      let found := banned.filter fun w => finds caseSensitive text w = true
      if !missing.isEmpty then .reject (describe description ("Content must include: " ++ ", ".intercalate missing))
      else if !found.isEmpty then
        .reject (describe description ("Content must not include: " ++ ", ".intercalate found))
      else .accept) := by
  have hfolded : judgeKeywords wanted banned caseSensitive description (.str text) = (do
      let missing ← filterHeld false caseSensitive (.str (if caseSensitive then text else Text.lower text)) wanted
      if !missing.isEmpty then
        return .reject (describe description ("Content must include: " ++ ", ".intercalate missing))
      let found ← filterHeld true caseSensitive (.str (if caseSensitive then text else Text.lower text)) banned
      if !found.isEmpty then
        return .reject (describe description ("Content must not include: " ++ ", ".intercalate found))
      return .accept) := by
    cases caseSensitive <;> rfl
  rw [hfolded, filterHeld_text, filterHeld_text]
  dsimp only [bind, Except.bind, pure, Except.pure]
  split
  · rfl
  · split <;> rfl

/-- Content is accepted if all keywords that are wanted are found, and none that is banned. -/
theorem isValid_judgeKeywords (wanted banned : List String) (caseSensitive : Bool) (description text : String) :
    ∃ verdict, judgeKeywords wanted banned caseSensitive description (.str text) = .ok verdict ∧
      (verdict.isValid = true ↔ (∀ w ∈ wanted, finds caseSensitive text w = true) ∧
        ∀ w ∈ banned, finds caseSensitive text w = false) := by
  have hmissing : (wanted.filter fun w => finds caseSensitive text w = false).isEmpty = true ↔
      ∀ w ∈ wanted, finds caseSensitive text w = true := by
    simp [List.filter_eq_nil_iff]
  have hfound : (banned.filter fun w => finds caseSensitive text w = true).isEmpty = true ↔
      ∀ w ∈ banned, finds caseSensitive text w = false := by
    simp [List.filter_eq_nil_iff]
  refine ⟨_, judgeKeywords_text .., ?_⟩
  rw [← hmissing, ← hfound]
  dsimp only
  cases (wanted.filter fun w => finds caseSensitive text w = false).isEmpty <;>
    cases (banned.filter fun w => finds caseSensitive text w = true).isEmpty <;> simp [Verdict.reject, Verdict.accept]

/-! ### Validators of keywords -/

/-- A validator accepts a text, and nothing else happens. -/
def Accepts (v : Validator σ) (text : String) (session : Session) (w : Surroundings σ) (st : State σ) : Prop :=
  ∃ verdict, (v.judge (.str text) session).exec w st = (.ok verdict, st) ∧ verdict.isValid = true

/-- A validator rejects a text, and nothing else happens. -/
def Rejects (v : Validator σ) (text : String) (session : Session) (w : Surroundings σ) (st : State σ) : Prop :=
  ∃ verdict, (v.judge (.str text) session).exec w st = (.ok verdict, st) ∧ verdict.isValid = false

section

variable {session : Session} {w : Surroundings σ} {st : State σ}

theorem exec_judge_keywords (wanted banned : List String) (caseSensitive : Bool) (description text : String)
    (session : Session) (w : Surroundings σ) (st : State σ) : ∃ verdict,
    ((keywords wanted banned caseSensitive description : Validator σ).judge (.str text) session).exec w st =
      (.ok verdict, st) ∧
    (verdict.isValid = true ↔ (∀ w ∈ wanted, finds caseSensitive text w = true) ∧
      ∀ w ∈ banned, finds caseSensitive text w = false) := by
  obtain ⟨verdict, hverdict, hvalid⟩ := isValid_judgeKeywords wanted banned caseSensitive description text
  refine ⟨verdict, ?_, hvalid⟩
  rw [judge, hverdict]
  rfl

theorem accepts_keywords_iff : Accepts (keywords wanted banned caseSensitive description) text session w st ↔
    (∀ w ∈ wanted, finds caseSensitive text w = true) ∧ ∀ w ∈ banned, finds caseSensitive text w = false := by
  obtain ⟨verdict, hexec, hvalid⟩ :=
    exec_judge_keywords wanted banned caseSensitive description text session w st
  rw [Accepts, hexec, ← hvalid]
  exact ⟨fun ⟨_, hsame, h⟩ => Except.ok.inj (Prod.mk.inj hsame).1 ▸ h, fun h => ⟨verdict, rfl, h⟩⟩

theorem rejects_keywords_iff : Rejects (keywords wanted banned caseSensitive description) text session w st ↔
    ¬((∀ w ∈ wanted, finds caseSensitive text w = true) ∧ ∀ w ∈ banned, finds caseSensitive text w = false) := by
  obtain ⟨verdict, hexec, hvalid⟩ :=
    exec_judge_keywords wanted banned caseSensitive description text session w st
  rw [Rejects, hexec, ← hvalid, Bool.not_eq_true]
  exact ⟨fun ⟨_, hsame, h⟩ => Except.ok.inj (Prod.mk.inj hsame).1 ▸ h, fun h => ⟨verdict, rfl, h⟩⟩

end

/-- **Keywords without regard to case.** A keyword is found in every text that it stands in if and only if its capital
sigmas see what decides about their form: only then is every such text accepted where the keyword is wanted, and
rejected where it is banned.  For lists of such keywords, what is accepted for the words that it has, or rejected for
them, is so without regard to case as well. -/
theorem judge_keywords_caseless (description : String) (session : Session) (w : Surroundings σ) (st : State σ) :
    (∀ word, (∀ text, Text.holds text word = true →
        Accepts (keywords [word] [] false description) text session w st) ↔ Text.Settled word.toList) ∧
      (∀ word, (∀ text, Text.holds text word = true →
        Rejects (keywords [] [word] false description) text session w st) ↔ Text.Settled word.toList) ∧
      ∀ words, (∀ word ∈ words, Text.Settled word.toList) → ∀ text,
        (Accepts (keywords words [] true description) text session w st →
          Accepts (keywords words [] false description) text session w st) ∧
        (Rejects (keywords [] words true description) text session w st →
          Rejects (keywords [] words false description) text session w st) := by
  have hfinds {word : String} (h : Text.Settled word.toList) {text : String} (hfound : finds true text word = true) :
      finds false text word = true := Text.lower_holds_iff.2 h text hfound
  simp only [accepts_keywords_iff, rejects_keywords_iff]
  refine ⟨fun word => ?_, fun word => ?_, fun words hwords text => ⟨?_, ?_⟩⟩
  · rw [← Text.lower_holds_iff]
    simp [finds]
  · rw [← Text.lower_holds_iff]
    simp [finds]
  · rintro ⟨hfound, -⟩
    exact ⟨fun word hword => hfinds (hwords word hword) (hfound word hword), nofun⟩
  · intro hsome hnone
    refine hsome ⟨nofun, fun word hword => ?_⟩
    rw [Bool.eq_false_iff]
    intro hfound
    exact Bool.eq_false_iff.1 (hnone.2 word hword) (hfinds (hwords word hword) hfound)

/-- A keyword with a sigma inside of it. -/
theorem judge_keywords_caseless_bill : (∀ word ∈ ["ΝΟΜΟΣΧΕΔΙΟ", "Java"], Text.Settled word.toList) ∧
    Rejects (keywords [] ["ΝΟΜΟΣΧΕΔΙΟ", "Java"] false "" : Validator Unit) "ΤΟ ΝΟΜΟΣΧΕΔΙΟ" {} (.alone Unit)
      { host := () } := by
  have hsettled : ∀ word ∈ ["ΝΟΜΟΣΧΕΔΙΟ", "Java"], Text.Settled word.toList := by decide +kernel
  refine ⟨hsettled, ((judge_keywords_caseless "" {} (.alone Unit) { host := () }).2.2 _ hsettled _).2 ?_⟩
  exact rejects_keywords_iff.2 (by decide +kernel)

/-- A keyword that ends in a sigma is not found in front of a letter: so a word that is banned passes, and content that
has a word which is wanted does not. -/
theorem judge_keywords_overlooks : Text.holds "ΝΟΜΟΣΧΕΔΙΟ" "ΝΟΜΟΣ" = true ∧
    Accepts (keywords ["ΝΟΜΟΣ"] [] true "" : Validator Unit) "ΝΟΜΟΣΧΕΔΙΟ" {} (.alone Unit) { host := () } ∧
    ¬Accepts (keywords ["ΝΟΜΟΣ"] [] false "" : Validator Unit) "ΝΟΜΟΣΧΕΔΙΟ" {} (.alone Unit) { host := () } ∧
    Rejects (keywords [] ["ΝΟΜΟΣ"] true "" : Validator Unit) "ΝΟΜΟΣΧΕΔΙΟ" {} (.alone Unit) { host := () } ∧
    ¬Rejects (keywords [] ["ΝΟΜΟΣ"] false "" : Validator Unit) "ΝΟΜΟΣΧΕΔΙΟ" {} (.alone Unit) { host := () } := by
  simp only [accepts_keywords_iff, rejects_keywords_iff]
  decide +kernel

end Colloquy.Validator
