import Colloquy.Proofs.Extraction.Sections

/-!
# Code blocks as they are written

The fences that open and close code blocks look alike.  In a text of prose and labelled blocks, neither of them with a
mark of a fence inside, no closing fence is taken for an opening one: the blocks that are found are those that were
written, one by one (`blocks_text`).  So extraction stores the trimmed code of the last block that asks for a var, over
all messages that are scanned, and leaves the rest of the session as it was (`extractMarkdown_blocks`).
-/

namespace Colloquy

namespace Markup

/-- A piece of a text as it is written: prose, or a code block with its label. -/
inductive Passage where
  | prose (cs : List Char)
  | code (label body : List Char)
  deriving DecidableEq, Repr

/-- A code block that is found, as its label and its code. -/
abbrev Block := List Char × List Char

namespace Passage

/-- A passage as it stands in a text. -/
def text : Passage → List Char
  | prose cs => cs
  | code label body => fence ++ label ++ '\n' :: (body ++ fence)

/-- The block that a passage writes, if it is one. -/
def block? : Passage → Option Block
  | prose _ => none
  | code label body => some (label, body)

/-- Prose and code without the mark that fences are made of, and labels of word characters. -/
def Plain : Passage → Prop
  | prose cs => '`' ∉ cs
  | code label body => label ≠ [] ∧ label.all Text.isWord ∧ '`' ∉ body

instance : DecidablePred Plain
  | prose cs => inferInstanceAs (Decidable ('`' ∉ cs))
  | code label body => inferInstanceAs (Decidable (label ≠ [] ∧ label.all Text.isWord ∧ '`' ∉ body))

end Passage

variable {passages : List Passage} {c : Char} {cs label body rest : List Char}

/-- The text that passages are written as. -/
def textOf (passages : List Passage) : List Char := passages.flatMap Passage.text

/-- The blocks among passages, in order. -/
def blocksOf (passages : List Passage) : List Block := passages.filterMap Passage.block?

/-! ### One passage in front of a text -/

theorem stripFront?_fence_of_ne (h : c ≠ '`') (cs : List Char) : Text.stripFront? fence (c :: cs) = none :=
  if_neg (Ne.symm h)

theorem blocks_of_some (h : block? cs = some (label, body, rest)) : blocks cs = (label, body) :: blocks rest := by
  rw [blocks]
  split
  · rename_i h'
    cases h.symm.trans h'
    rfl
  · rename_i h'
    cases h.symm.trans h'

theorem blocks_of_none (h : block? (c :: cs) = none) : blocks (c :: cs) = blocks cs := by
  rw [blocks]
  split
  · rename_i h'
    cases h.symm.trans h'
  · rfl

/-- No block begins in prose. -/
theorem blocks_prose (h : '`' ∉ cs) (rest : List Char) : blocks (cs ++ rest) = blocks rest := by
  induction cs with
  | nil => rfl
  | cons c cs ih =>
    obtain ⟨hc, hcs⟩ := not_or.1 (mt List.mem_cons.2 h)
    have hnone : block? (c :: (cs ++ rest)) = none := by rw [block?, stripFront?_fence_of_ne (Ne.symm hc)]
    rw [List.cons_append, blocks_of_none hnone, ih hcs]

/-- Code ends at the fence behind it. -/
theorem untilFence?_eq (h : '`' ∉ body) (rest : List Char) :
    untilFence? (body ++ (fence ++ rest)) = some (body, rest) := by
  induction body with
  | nil => rfl
  | cons c body ih =>
    obtain ⟨hc, hbody⟩ := not_or.1 (mt List.mem_cons.2 h)
    rw [List.cons_append, untilFence?, stripFront?_fence_of_ne (Ne.symm hc), ih hbody]
    rfl

/-- The whole label is read: the end of its line is no part of it. -/
theorem span_label (h : ∀ c ∈ label, Text.isWord c = true) (cs : List Char) :
    (label ++ '\n' :: cs).takeWhile Text.isWord = label ∧
      (label ++ '\n' :: cs).dropWhile Text.isWord = '\n' :: cs := by
  have hline : ¬Text.isWord '\n' = true := by decide +kernel
  rw [List.takeWhile_append_of_pos h, List.dropWhile_append_of_pos h, List.takeWhile_cons_of_neg hline,
    List.dropWhile_cons_of_neg hline, List.append_nil]
  exact ⟨rfl, rfl⟩

/-- A fence with a label opens a block, which lasts up to the next fence. -/
theorem block?_label (hlabel : label ≠ []) (hword : ∀ c ∈ label, Text.isWord c = true) (below : List Char) :
    block? (fence ++ (label ++ '\n' :: below)) =
      (untilFence? below).map fun found => (label, found.1, found.2) := by
  have hstrip : Text.stripFront? fence (fence ++ (label ++ '\n' :: below)) = some (label ++ '\n' :: below) :=
    Text.stripFront?_eq_some_iff.2 rfl
  obtain ⟨htake, hdrop⟩ := span_label hword below
  obtain ⟨c, label, rfl⟩ := List.exists_cons_of_ne_nil hlabel
  rw [block?, hstrip]
  dsimp only
  rw [htake, hdrop]
  rfl

/-- A block is found with its label and its code, and the search goes on behind its closing fence. -/
theorem blocks_code (h : (Passage.code label body).Plain) (rest : List Char) :
    blocks ((Passage.code label body).text ++ rest) = (label, body) :: blocks rest := by
  obtain ⟨hlabel, hword, hbody⟩ := h
  have htext : (Passage.code label body).text ++ rest = fence ++ (label ++ '\n' :: (body ++ (fence ++ rest))) := by
    simp only [Passage.text, List.append_assoc, List.cons_append]
  refine blocks_of_some ?_
  rw [htext, block?_label hlabel (List.all_eq_true.1 hword), untilFence?_eq hbody]
  rfl

/-- **The code blocks of a text** are those that it was written with. -/
theorem blocks_text (h : ∀ p ∈ passages, p.Plain) : blocks (textOf passages) = blocksOf passages := by
  induction passages with
  | nil => rw [textOf, List.flatMap_nil, blocks]; rfl
  | cons p passages ih =>
    obtain ⟨hp, hpassages⟩ := List.forall_mem_cons.1 h
    rw [textOf, List.flatMap_cons]
    cases p with
    | prose cs =>
      rw [Passage.text, blocks_prose hp]
      exact ih hpassages
    | code label body =>
      rw [blocks_code hp]
      exact congrArg ((label, body) :: ·) (ih hpassages)

end Markup

/-! ### Vars of a text -/

namespace MarkupRule

open Markup

variable {labels : Assoc String} {roles : List Role} {s : Session} {written : List (List Passage)}

/-- A rule for at least one label can be made, whatever its roles are. -/
theorem make_labels (h : labels ≠ []) (roles : List Role) :
    make [] labels (roles.map fun r => .str r.word) = .ok { headings := [], labels, roles } := by
  have hroles : (roles.map fun r => Value.str r.word).mapM Role.ofValue = .ok roles := by
    induction roles with
    | nil => rfl
    | cons r roles ih =>
      have hr : Role.ofValue (.str r.word) = .ok r := by
        rw [Role.ofValue, Role.ofWord?_word]
      rw [List.map_cons, List.mapM_cons, hr, ih]
      rfl
  rw [make, hroles, List.isEmpty_eq_false_iff.2 h]
  rfl

/-- What a rule for labels assigns, over all messages that are scanned. -/
theorem findings_labels (h : labels ≠ [])
    (htexts : (s.messages.filter (roles.contains ·.role)).map (·.content.toList) = written.map textOf)
    (hplain : ∀ passages ∈ written, ∀ p ∈ passages, p.Plain) :
    findings { headings := [], labels, roles } s =
      .ofPairs ((written.flatMap blocksOf).filterMap fun b => assign? labels b.1 b.2) := by
  have hassign (m : Message) : assignments { headings := [], labels, roles } m.content =
      (blocks m.content.toList).filterMap fun b => assign? labels b.1 b.2 := by
    rw [assignments, if_neg (mt List.isEmpty_iff.1 h)]
    rfl
  refine congrArg Assoc.ofPairs ?_
  calc (s.messages.filter (roles.contains ·.role)).flatMap fun m =>
        assignments { headings := [], labels, roles } m.content
    _ = ((s.messages.filter (roles.contains ·.role)).map (·.content.toList)).flatMap fun cs =>
        (blocks cs).filterMap fun b => assign? labels b.1 b.2 := by
      rw [List.flatMap_map]
      exact List.flatMap_congr fun m _ => hassign m
    _ = written.flatMap fun passages => (blocksOf passages).filterMap fun b => assign? labels b.1 b.2 := by
      rw [htexts, List.flatMap_map]
      exact List.flatMap_congr fun passages hpassages => by rw [blocks_text (hplain passages hpassages)]
    _ = (written.flatMap blocksOf).filterMap fun b => assign? labels b.1 b.2 := by
      rw [List.filterMap_flatMap]

/-- The last block whose label stands for a var gives its value. -/
theorem lookup_labels {key : String} (hkey : key ≠ "") {before after : List Block} {b : Block}
    (hb : labels.lookup (String.ofList b.1) = some key)
    (hafter : ∀ later ∈ after, labels.lookup (String.ofList later.1) ≠ some key) :
    Assoc.lookup key ((before ++ b :: after).filterMap fun b => assign? labels b.1 b.2).reverse =
      some (.str (String.ofList (Text.trim b.2))) := by
  have hnone : after.reverse.find? (fun later => Asks labels key later.1) = none := by
    rw [List.find?_eq_none]
    intro later hlater hasks
    exact hafter later (List.mem_reverse.1 hlater) (of_decide_eq_true hasks).2
  have hasks : Asks labels key b.1 := ⟨hkey, hb⟩
  rw [lookup_assigned, List.reverse_append, List.reverse_cons, List.append_assoc, List.find?_append, hnone,
    Option.none_or, List.singleton_append, List.find?_cons, decide_eq_true hasks]
  rfl

/-- A var that no label stands for is assigned nothing. -/
theorem lookup_labels_eq_none {key : String} {found : List Block}
    (h : ∀ b ∈ found, labels.lookup (String.ofList b.1) ≠ some key) :
    Assoc.lookup key (found.filterMap fun b => assign? labels b.1 b.2).reverse = none := by
  have hnone : found.reverse.find? (fun b => Asks labels key b.1) = none := by
    rw [List.find?_eq_none]
    intro b hb hasks
    exact h b (List.mem_reverse.1 hb) (of_decide_eq_true hasks).2
  rw [lookup_assigned, hnone]
  rfl

end MarkupRule

/-! ### Extraction -/

section

open Markup

variable {σ : Type} {labels : Assoc String} {roles : List Role} {s : Session} {written : List (List Passage)}

/-- **Extraction** from texts of prose and labelled blocks: a var that labels stand for takes the trimmed code of the
last block with such a label, in the order of the messages and of their blocks, and everything else in the session is
left as it is.  If no label stands for a var, nothing at all happens. -/
theorem extractMarkdown_blocks (hlabels : labels ≠ []) (hnamed : ∀ entry ∈ labels, entry.2 ≠ "")
    (htexts : (s.messages.filter (roles.contains ·.role)).map (·.content.toList) = written.map textOf)
    (hplain : ∀ passages ∈ written, ∀ p ∈ passages, p.Plain) (w : Surroundings σ) (st : State σ) :
    ∃ rule s' st', MarkupRule.make [] labels (roles.map fun r => .str r.word) = .ok rule ∧
      (extractMarkdown rule s).exec w st = (.ok s', st') ∧ s' = { s with vars := s'.vars } ∧
      ((∀ b ∈ written.flatMap blocksOf, labels.lookup (String.ofList b.1) = none) → s' = s ∧ st' = st) ∧
      ∀ key,
        (∀ before b after, written.flatMap blocksOf = before ++ b :: after →
          labels.lookup (String.ofList b.1) = some key →
          (∀ later ∈ after, labels.lookup (String.ofList later.1) ≠ some key) →
          s'.vars.lookup key = some (.str (String.ofList (Text.trim b.2)))) ∧
        ((∀ b ∈ written.flatMap blocksOf, labels.lookup (String.ofList b.1) ≠ some key) →
          s'.vars.lookup key = s.vars.lookup key) := by
  have hfindings := MarkupRule.findings_labels hlabels htexts hplain
  obtain ⟨st', hexec⟩ := exec_extractMarkdown { headings := [], labels, roles } s w st
  refine ⟨_, _, st', MarkupRule.make_labels hlabels roles, hexec, rfl, fun hnone => ?_, fun key => ⟨?_, ?_⟩⟩
  · have hempty : MarkupRule.findings { headings := [], labels, roles } s = [] := by
      have hassign : ((written.flatMap blocksOf).filterMap fun b => MarkupRule.assign? labels b.1 b.2) = [] := by
        refine List.filterMap_eq_nil_iff.2 fun b hb => ?_
        rw [MarkupRule.assign?, hnone b hb]
        rfl
      rw [hfindings, hassign]
      rfl
    rw [extractMarkdown, hempty] at hexec
    rw [hempty]
    exact ⟨rfl, (Prod.mk.inj hexec).2.symm⟩
  · intro before b after hblocks hb hafter
    have hkey : key ≠ "" := hnamed _ (Assoc.mem_of_lookup hb)
    rw [Session.withVars, hfindings, Assoc.lookup_overlay_ofPairs, hblocks, MarkupRule.lookup_labels hkey hb hafter]
    rfl
  · intro hnone
    rw [Session.withVars, hfindings, Assoc.lookup_overlay_ofPairs, MarkupRule.lookup_labels_eq_none hnone]
    rfl

/-- Two labels for one var, a block right behind another one, and a message that is not scanned. -/
theorem extractMarkdown_blocks_answers :
    let labels : Assoc String := [("python", "code"), ("py", "code"), ("sql", "query")]
    let s : Session := { messages := [.assistant "Try```python\n a ``````py\nb\n```or```c\nx```",
      .user "```py\nmine```", .assistant "```sql\nselect 1```"], vars := [("goal", .int 1)] }
    ∃ rule s' st', MarkupRule.make [] labels [.str "assistant"] = .ok rule ∧
      (extractMarkdown rule s).exec (.alone Unit) { host := () } = (.ok s', st') ∧
      s'.vars.lookup "code" = some (.str "b") ∧ s'.vars.lookup "query" = some (.str "select 1") ∧
      s'.vars.lookup "goal" = some (.int 1) := by
  intro labels s
  let written : List (List Passage) :=
    [[.prose "Try".toList, .code ['p', 'y', 't', 'h', 'o', 'n'] " a ".toList, .code ['p', 'y'] "b\n".toList,
      .prose "or".toList, .code ['c'] "x".toList], [.code ['s', 'q', 'l'] "select 1".toList]]
  obtain ⟨rule, s', st', hrule, hexec, -, -, hvars⟩ := @extractMarkdown_blocks Unit labels [.assistant] s written
    (by decide) (by decide) (by decide +kernel) (by decide +kernel) (.alone Unit) { host := () }
  refine ⟨rule, s', st', hrule, hexec, ?_, ?_, ?_⟩
  · exact (hvars "code").1 [("python".toList, " a ".toList)] ("py".toList, "b\n".toList)
      [("c".toList, "x".toList), ("sql".toList, "select 1".toList)] (by decide +kernel) rfl (by decide +kernel)
  · exact (hvars "query").1 [("python".toList, " a ".toList), ("py".toList, "b\n".toList),
      ("c".toList, "x".toList)] ("sql".toList, "select 1".toList) [] (by decide +kernel) rfl nofun
  · exact (hvars "goal").2 (by decide +kernel)

end

end Colloquy
