import Colloquy.Extraction.Pattern
import Colloquy.Text.Find

/-!
# Extracting from marked-up text

`sections` cuts a text into sections, each a heading of two hash marks with the lines below it, and
`fences` lists its labelled code blocks.  A section ends before the next heading or code block, or where
nothing but blanks is left; a code block ends at the next fence.  `extractMarkdown` stores the sections and
blocks that are asked for in vars.
-/

namespace Colloquy.Markup

/-! ### Sections -/

/-- The rest of the line, if it is not empty and has an end, and the text below. -/
def titleLine? (cs : List Char) : Option (List Char × List Char) :=
  match cs.takeWhile (· ≠ '\n'), cs.dropWhile (· ≠ '\n') with
  | c :: title, '\n' :: rest => some (c :: title, rest)
  | _, _ => none

/-- The title behind one or more blanks, as many as can be, and the text below. -/
def title? : List Char → Option (List Char × List Char)
  | [] => none
  | c :: cs => if Text.isBlank c then (title? cs).or (titleLine? cs) else none

/-- Whether a section ends here. -/
def sectionEnds (cs : List Char) : Bool :=
  (match Text.stripFront? "\n##".toList cs with
    | some (c :: _) => Text.isBlank c
    | _ => false) ||
  Text.startsWith "\n```".toList cs || cs.all Text.isBlank

/-- The text up to the end of the section, and the rest. -/
def sectionBody : List Char → List Char × List Char
  | [] => ([], [])
  | c :: cs =>
    if sectionEnds (c :: cs) then ([], c :: cs)
    else
      let (body, rest) := sectionBody cs
      (c :: body, rest)

/-- The section that starts here: its title, its body and the rest. -/
def section? : List Char → Option (List Char × List Char × List Char)
  | '#' :: '#' :: cs =>
    (title? cs).map fun (title, below) => (title, (sectionBody below).1, (sectionBody below).2)
  | _ => none

theorem length_of_titleLine? {cs title rest : List Char} (h : titleLine? cs = some (title, rest)) :
    rest.length < cs.length := by
  unfold titleLine? at h
  split at h
  · rename_i hd
    obtain ⟨-, rfl⟩ := Prod.mk.inj (Option.some.inj h)
    have := (List.dropWhile_sublist (fun d => decide (d ≠ '\n')) (l := cs)).length_le
    rw [hd] at this
    exact this
  · simp at h

theorem length_of_title? {cs title rest : List Char} (h : title? cs = some (title, rest)) :
    rest.length < cs.length := by
  induction cs with
  | nil => simp [title?] at h
  | cons c cs ih =>
    simp only [title?] at h
    split at h
    · rcases Option.or_eq_some_iff.1 h with h | ⟨-, h⟩
      · exact Nat.lt_succ_of_lt (ih h)
      · exact Nat.lt_succ_of_lt (length_of_titleLine? h)
    · simp at h

theorem length_sectionBody (cs : List Char) : (sectionBody cs).2.length ≤ cs.length := by
  induction cs with
  | nil => simp [sectionBody]
  | cons c cs ih =>
    simp only [sectionBody]
    split
    · simp
    · exact Nat.le_succ_of_le ih

theorem length_of_section? {cs title body rest : List Char}
    (h : section? cs = some (title, body, rest)) : rest.length < cs.length := by
  unfold section? at h
  split at h
  · obtain ⟨⟨t, below⟩, ht, he⟩ := Option.map_eq_some_iff.1 h
    have hr : (sectionBody below).2 = rest := congrArg (fun found => found.2.2) he
    have := length_of_title? ht
    have := length_sectionBody below
    rw [hr] at this
    simp only [List.length_cons]
    omega
  · simp at h

/-- The sections of a text, as titles and bodies. -/
def sections (cs : List Char) : List (List Char × List Char) :=
  match h : section? cs with
  | some (title, body, rest) =>
    have := length_of_section? h
    (title, body) :: sections rest
  | none =>
    match cs with
    | [] => []
    | _ :: tail => sections tail
termination_by cs.length
decreasing_by
  · assumption
  · exact Nat.lt_succ_self _

/-! ### Code blocks -/

/-- The fence that opens and closes code blocks. -/
def fence : List Char := "```".toList

/-- The text up to the next fence, and what follows that fence. -/
def untilFence? : List Char → Option (List Char × List Char)
  | [] => none
  | c :: cs =>
    match Text.stripFront? fence (c :: cs) with
    | some rest => some ([], rest)
    | none => (untilFence? cs).map fun (code, rest) => (c :: code, rest)

/-- The labelled code block that starts here: its label, its code and the rest. -/
def block? (cs : List Char) : Option (List Char × List Char × List Char) :=
  match Text.stripFront? fence cs with
  | none => none
  | some cs =>
    match cs.takeWhile Text.isWord, cs.dropWhile Text.isWord with
    | c :: label, '\n' :: below =>
      (untilFence? below).map fun (code, rest) => (c :: label, code, rest)
    | _, _ => none

theorem length_of_stripFront? {front cs rest : List Char} (h : Text.stripFront? front cs = some rest) :
    rest.length ≤ cs.length := by
  rw [Text.stripFront?_eq_some_iff.1 h, List.length_append]
  omega

theorem length_of_untilFence? {cs code rest : List Char}
    (h : untilFence? cs = some (code, rest)) : rest.length ≤ cs.length := by
  induction cs generalizing code with
  | nil => simp [untilFence?] at h
  | cons c cs ih =>
    simp only [untilFence?] at h
    split at h
    · rename_i hs
      obtain ⟨-, rfl⟩ := Prod.mk.inj (Option.some.inj h)
      exact length_of_stripFront? hs
    · obtain ⟨⟨code', rest'⟩, hu, he⟩ := Option.map_eq_some_iff.1 h
      obtain ⟨-, rfl⟩ := by simpa using he
      exact Nat.le_succ_of_le (ih hu)

theorem length_of_block? {cs label code rest : List Char}
    (h : block? cs = some (label, code, rest)) : rest.length < cs.length := by
  unfold block? at h
  split at h
  · simp at h
  · rename_i inner hs
    split at h
    · rename_i hd
      obtain ⟨⟨code', rest'⟩, hu, he⟩ := Option.map_eq_some_iff.1 h
      have hr : rest' = rest := congrArg (fun found => found.2.2) he
      subst hr
      have h1 := length_of_untilFence? hu
      have h2 := (List.dropWhile_sublist Text.isWord (l := inner)).length_le
      rw [hd, List.length_cons] at h2
      have h3 := length_of_stripFront? hs
      omega
    · simp at h

/-- The labelled code blocks of a text, as labels and code. -/
def blocks (cs : List Char) : List (List Char × List Char) :=
  match h : block? cs with
  | some (label, code, rest) =>
    have := length_of_block? h
    (label, code) :: blocks rest
  | none =>
    match cs with
    | [] => []
    | _ :: tail => blocks tail
termination_by cs.length
decreasing_by
  · assumption
  · exact Nat.lt_succ_self _

end Colloquy.Markup

namespace Colloquy

/-! ### Extraction -/

/-- The vars that take the sections and code blocks of messages. -/
structure MarkupRule where
  /-- The var for each title. -/
  headings : Assoc String
  /-- The var for each label. -/
  labels : Assoc String
  roles : List Role
  deriving Repr

namespace MarkupRule

/-- A rule with roles as they are given, for at least one title or label. -/
def make (headings labels : Assoc String) (roles : List Value) : Except Failure MarkupRule := do
  if headings.isEmpty && labels.isEmpty then
    throw (.configuration "extract_markdown needs headings or code_blocks" none)
  return { headings, labels, roles := ← roles.mapM Role.ofValue }

/-- The var and value that a title or label and a body give, if a var is named for it. -/
def assign? (vars : Assoc String) (name body : List Char) : Option (String × Value) :=
  ((vars.lookup (String.ofList name)).filter (· ≠ "")).map fun key =>
    (key, .str (String.ofList (Text.trim body)))

/-- The assignments that a text gives, in order. -/
def assignments (rule : MarkupRule) (text : String) : List (String × Value) :=
  (if rule.headings.isEmpty then []
    else (Markup.sections text.toList).filterMap fun (title, body) =>
      assign? rule.headings (Text.trim title) body) ++
  (if rule.labels.isEmpty then []
    else (Markup.blocks text.toList).filterMap fun (label, code) => assign? rule.labels label code)

/-- The vars that a rule has values for: a later one replaces an earlier one. -/
def findings (rule : MarkupRule) (s : Session) : Entries :=
  .ofPairs ((s.messages.filter (rule.roles.contains ·.role)).flatMap fun m =>
    rule.assignments m.content)

end MarkupRule

/-- Stores the sections and code blocks that a rule asks for in the vars of a session. -/
def extractMarkdown {σ : Type} (rule : MarkupRule) (s : Session) : Run σ Session := do
  let found := rule.findings s
  if found.isEmpty then return s
  Run.log (.markdownExtracted (sortedKeys found))
  return s.withVars found

end Colloquy
