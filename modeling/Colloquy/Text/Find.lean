/-!
# Finding and cutting texts

`occursIn` looks for a text inside another, `stripFront?` takes a text off the front of another, and
`splitOn` cuts at a character.  `occursIn_iff` says that the search finds exactly the texts that stand
somewhere inside.
-/

namespace Colloquy.Text

/-! ### Searching -/

/-- The rest of a text after `front`, if it starts so. -/
def stripFront? : List Char → List Char → Option (List Char)
  | [], rest => some rest
  | _ :: _, [] => none
  | f :: front, c :: rest => if f = c then stripFront? front rest else none

theorem stripFront?_eq_some_iff {front cs rest : List Char} :
    stripFront? front cs = some rest ↔ cs = front ++ rest := by
  induction front generalizing cs with
  | nil => simp [stripFront?, eq_comm]
  | cons f front ih =>
    cases cs with
    | nil => simp [stripFront?]
    | cons c cs =>
      by_cases h : f = c
      · simp [stripFront?, h, ih]
      · simp [stripFront?, h, Ne.symm h]

/-- Whether a text starts with `front`. -/
def startsWith (front cs : List Char) : Bool :=
  (stripFront? front cs).isSome

/-- Whether `part` stands somewhere in `cs`. -/
def occursIn (part : List Char) : List Char → Bool
  | [] => part.isEmpty
  | c :: cs => startsWith part (c :: cs) || occursIn part cs

/-- Whether `part` stands somewhere in `whole`. -/
def holds (whole part : String) : Bool :=
  occursIn part.toList whole.toList

theorem occursIn_iff {part cs : List Char} :
    occursIn part cs = true ↔ ∃ before after, cs = before ++ part ++ after := by
  induction cs with
  | nil =>
    simp only [occursIn, List.isEmpty_iff]
    constructor
    · rintro rfl
      exact ⟨[], [], rfl⟩
    · rintro ⟨b, a, h⟩
      simp_all
  | cons c cs ih =>
    simp only [occursIn, Bool.or_eq_true, startsWith, Option.isSome_iff_exists,
      stripFront?_eq_some_iff, ih]
    constructor
    · rintro (⟨r, h⟩ | ⟨b, a, h⟩)
      · exact ⟨[], r, by simp [h]⟩
      · exact ⟨c :: b, a, by simp [h]⟩
    · rintro ⟨b, a, h⟩
      cases b with
      | nil => exact Or.inl ⟨a, by simpa using h⟩
      | cons d b =>
        simp only [List.cons_append, List.cons.injEq] at h
        exact Or.inr ⟨b, a, h.2⟩

/-! ### Cutting -/

/-- The pieces of a text between the occurrences of a character. -/
def splitOn (sep : Char) : List Char → List (List Char)
  | [] => [[]]
  | c :: cs =>
    if c = sep then [] :: splitOn sep cs
    else
      match splitOn sep cs with
      | [] => [[c]]
      | piece :: pieces => (c :: piece) :: pieces

theorem splitOn_ne_nil (sep : Char) (cs : List Char) : splitOn sep cs ≠ [] := by
  cases cs with
  | nil => simp [splitOn]
  | cons c cs =>
    by_cases h : c = sep
    · simp [splitOn, h]
    · simp only [splitOn, h, ↓reduceIte]
      split <;> simp

end Colloquy.Text
