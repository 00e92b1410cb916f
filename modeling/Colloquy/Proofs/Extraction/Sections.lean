import Colloquy.Extraction.Markdown
import Colloquy.Proofs.Text.Cutting
import Mathlib

/-!
# Sections as they are written

A text that is written section by section, each a heading with its lines below, is cut at the headings again as far as
every section has a line (`sections_written`).  A heading with nothing below takes the next heading for its body, or is
lost at the end of the text: what is found are the sections in which this has happened (`Part.absorbed`).  So extraction
stores the trimmed body of the last section that asks for a var, and leaves the rest of the session as it was
(`extractMarkdown_written`).
-/

namespace Colloquy

namespace Markup

/-- A section as it is written: its title and the lines below. -/
structure Part where
  title : List Char
  lines : List (List Char)
  deriving DecidableEq, Repr

/-- The line that a title stands on. -/
def heading (title : List Char) : List Char := '#' :: '#' :: ' ' :: title

namespace Part

/-- All lines of a section. -/
def rows (p : Part) : List (List Char) := heading p.title :: p.lines

/-- The lines below the heading as one text. -/
def body (p : Part) : List Char := ['\n'].intercalate p.lines

/-- A section with a title of one line without blanks around it, and with lines that hold neither two hash marks nor a
fence. -/
structure Plain (p : Part) : Prop where
  titled : p.title ≠ []
  oneLine : '\n' ∉ p.title
  bare : Text.Bare p.title
  lines : ∀ line ∈ p.lines, '\n' ∉ line
  unmarked : ∀ line ∈ p.lines, ¬['#', '#'] <:+: line
  unfenced : ∀ line ∈ p.lines, ¬fence <:+: line

/-- A section that is found as a whole: it has lines, and none but the first begins like a heading or a code block. -/
structure Ended (p : Part) : Prop where
  titled : p.title ≠ []
  oneLine : '\n' ∉ p.title
  bare : Text.Bare p.title
  nonempty : p.lines ≠ []
  lines : ∀ line ∈ p.lines, '\n' ∉ line
  unmarked : ∀ line ∈ p.lines.tail, ¬['#', '#'] <+: line
  unfenced : ∀ line ∈ p.lines.tail, ¬fence <+: line

/-- The sections that are found: one without lines takes the next one, heading and all, for its body, and has none at
the end of the text. -/
def absorbed : List Part → List Part
  | [] => []
  | [p] => if p.lines = [] then [] else [p]
  | p :: q :: rest =>
    if p.lines = [] then { p with lines := q.rows } :: absorbed rest else p :: absorbed (q :: rest)

theorem plain_iff {p : Part} : p.Plain ↔ p.title ≠ [] ∧ '\n' ∉ p.title ∧
    (p.title.head?.any Text.isBlank = false ∧ p.title.getLast?.any Text.isBlank = false) ∧
    ∀ line ∈ p.lines, '\n' ∉ line ∧ ¬['#', '#'] <:+: line ∧ ¬fence <:+: line where
  mp h := ⟨h.titled, h.oneLine, Text.bare_iff.1 h.bare, fun line hline =>
    ⟨h.lines line hline, h.unmarked line hline, h.unfenced line hline⟩⟩
  mpr h := ⟨h.1, h.2.1, Text.bare_iff.2 h.2.2.1, fun line hline => (h.2.2.2 line hline).1,
    fun line hline => (h.2.2.2 line hline).2.1, fun line hline => (h.2.2.2 line hline).2.2⟩

instance (p : Part) : Decidable p.Plain := decidable_of_iff _ plain_iff.symm

theorem Plain.ended {p : Part} (h : p.Plain) (hlines : p.lines ≠ []) : p.Ended where
  titled := h.titled
  oneLine := h.oneLine
  bare := h.bare
  nonempty := hlines
  lines := h.lines
  unmarked line hline := mt List.IsPrefix.isInfix (h.unmarked line (List.mem_of_mem_tail hline))
  unfenced line hline := mt List.IsPrefix.isInfix (h.unfenced line (List.mem_of_mem_tail hline))

theorem notMem_heading {title : List Char} (h : '\n' ∉ title) : '\n' ∉ heading title := by
  simp [heading, h]

/-- A heading below a heading is the first line of a body like any other. -/
theorem Plain.ended_rows {p q : Part} (hp : p.Plain) (hq : q.Plain) : Ended { p with lines := q.rows } where
  titled := hp.titled
  oneLine := hp.oneLine
  bare := hp.bare
  nonempty := List.cons_ne_nil _ _
  lines := List.forall_mem_cons.2 ⟨notMem_heading hq.oneLine, hq.lines⟩
  unmarked line hline := mt List.IsPrefix.isInfix (hq.unmarked line hline)
  unfenced line hline := mt List.IsPrefix.isInfix (hq.unfenced line hline)

variable {parts : List Part}

theorem absorbed_ended (h : ∀ p ∈ parts, p.Plain) : ∀ p ∈ absorbed parts, p.Ended := by
  fun_induction absorbed parts with
  | case1 => exact nofun
  | case2 p hlines => exact nofun
  | case3 p hlines =>
    intro q hq
    rw [List.mem_singleton.1 hq]
    exact (h p List.mem_cons_self).ended hlines
  | case4 p q rest hlines ih =>
    rw [List.forall_mem_cons, List.forall_mem_cons] at h
    exact List.forall_mem_cons.2 ⟨h.1.ended_rows h.2.1, ih h.2.2⟩
  | case5 p q rest hlines ih =>
    rw [List.forall_mem_cons] at h
    exact List.forall_mem_cons.2 ⟨h.1.ended hlines, ih h.2⟩

/-- Nothing is absorbed if every section has lines. -/
theorem absorbed_of_lines (h : ∀ p ∈ parts, p.lines ≠ []) : absorbed parts = parts := by
  fun_induction absorbed parts with
  | case1 => rfl
  | case2 p hlines => exact absurd hlines (h p List.mem_cons_self)
  | case3 p hlines => rfl
  | case4 p q rest hlines ih => exact absurd hlines (h p List.mem_cons_self)
  | case5 p q rest hlines ih => rw [ih (List.forall_mem_cons.1 h).2]

/-- What is found makes up the text, up to a heading at its end. -/
theorem exists_rows_absorbed (h : ∀ p ∈ parts, p.Plain) :
    ∃ left, parts.flatMap rows = (absorbed parts).flatMap rows ++ left ∧
      (left = [] ∨ ∃ title, '\n' ∉ title ∧ left = [heading title]) := by
  fun_induction absorbed parts with
  | case1 => exact ⟨[], rfl, .inl rfl⟩
  | case2 p hlines =>
    exact ⟨[heading p.title], by simp [rows, hlines], .inr ⟨p.title, (h p List.mem_cons_self).oneLine, rfl⟩⟩
  | case3 p hlines => exact ⟨[], (List.append_nil _).symm, .inl rfl⟩
  | case4 p q rest hlines ih =>
    obtain ⟨left, hrows, hleft⟩ := ih fun r hr => h r (List.mem_cons_of_mem _ (List.mem_cons_of_mem _ hr))
    exact ⟨left, by simp [rows, hlines, hrows], hleft⟩
  | case5 p q rest hlines ih =>
    obtain ⟨left, hrows, hleft⟩ := ih fun r hr => h r (List.mem_cons_of_mem _ hr)
    exact ⟨left, by rw [List.flatMap_cons, hrows, List.flatMap_cons, List.append_assoc], hleft⟩

end Part

/-! ### Lines -/

/-- Lines, each behind the end of the line before. -/
def below (rows : List (List Char)) : List Char := rows.flatMap ('\n' :: ·)

/-- The text that sections are written as. -/
def written (parts : List Part) : List Char := ['\n'].intercalate (parts.flatMap Part.rows)

theorem intercalate_cons (row : List Char) (rows : List (List Char)) :
    ['\n'].intercalate (row :: rows) = row ++ below rows := by
  induction rows generalizing row with
  | nil => simp [below]
  | cons next rows ih =>
    rw [List.intercalate_cons_cons, ih, List.append_assoc]
    rfl

theorem below_append (rows more : List (List Char)) : below (rows ++ more) = below rows ++ below more :=
  List.flatMap_append

/-! ### Where a body ends -/

variable {body tail line cs : List Char} {c : Char}

/-- What may follow a section: nothing, or the next heading. -/
def Stop (tail : List Char) : Prop := tail = [] ∨ ∃ title, tail = '\n' :: heading title

/-- A body in front of what follows is found, but for blanks at the end of the text. -/
def Cuts (body tail : List Char) : Prop :=
  ∃ taken back, sectionBody (body ++ tail) = (taken, back ++ tail) ∧ body = taken ++ back ∧ Text.AllBlank back

/-- A section ends at a heading, at a code block, or where nothing but blanks is left. -/
theorem allBlank_of_sectionEnds (h : sectionEnds cs = true) (hmark : ¬['\n', '#', '#'] <+: cs)
    (hfence : ¬ '\n' :: fence <+: cs) : Text.AllBlank cs := by
  have hstrip {front : List Char} (hfront : ¬front <+: cs) : Text.stripFront? front cs = none := by
    rw [Option.eq_none_iff_forall_ne_some]
    intro rest hrest
    exact hfront ⟨rest, (Text.stripFront?_eq_some_iff.1 hrest).symm⟩
  have hmark' : Text.stripFront? "\n##".toList cs = none := hstrip hmark
  have hfence' : Text.stripFront? "\n```".toList cs = none := hstrip hfence
  rw [sectionEnds, Text.startsWith, hmark', hfence'] at h
  exact List.all_eq_true.1 h

theorem sectionEnds_heading (title : List Char) : sectionEnds ('\n' :: heading title) = true := by
  have hstrip : Text.stripFront? "\n##".toList ('\n' :: heading title) = some (' ' :: title) :=
    Text.stripFront?_eq_some_iff.2 rfl
  rw [sectionEnds, hstrip]
  rfl

theorem Cuts.nil (h : Stop tail) : Cuts [] tail := by
  refine ⟨[], [], ?_, rfl, nofun⟩
  rcases h with rfl | ⟨title, rfl⟩
  · rfl
  · rw [List.nil_append, sectionBody, if_pos (sectionEnds_heading title)]

theorem Cuts.cons (h : Cuts body tail) (hmark : ¬['\n', '#', '#'] <+: c :: (body ++ tail))
    (hfence : ¬ '\n' :: fence <+: c :: (body ++ tail)) : Cuts (c :: body) tail := by
  by_cases hends : sectionEnds (c :: (body ++ tail)) = true
  · have hblank := allBlank_of_sectionEnds hends hmark hfence
    refine ⟨[], c :: body, ?_, rfl, fun d hd => hblank d (List.mem_append_left tail hd)⟩
    rw [List.cons_append, sectionBody, if_pos hends]
  · obtain ⟨taken, back, hbody, hsplit, hback⟩ := h
    refine ⟨c :: taken, back, ?_, by rw [hsplit, List.cons_append], hback⟩
    rw [List.cons_append, sectionBody, if_neg hends, hbody]

/-- Nothing ends within a line. -/
theorem Cuts.behind_line (h : Cuts body tail) (hline : '\n' ∉ line) : Cuts (line ++ body) tail := by
  induction line with
  | nil => exact h
  | cons c line ih =>
    obtain ⟨hc, hline⟩ := not_or.1 (mt List.mem_cons.2 hline)
    have hopens (front : List Char) : ¬ '\n' :: front <+: c :: (line ++ body ++ tail) :=
      fun hprefix => hc (List.cons_prefix_cons.1 hprefix).1
    exact (ih hline).cons (hopens _) (hopens _)

/-- What a line and what follows begin with is in the line, if it has no end of a line. -/
theorem isPrefix_line {front more : List Char} (hfront : '\n' ∉ front)
    (hmore : more = [] ∨ ∃ rest, more = '\n' :: rest) (h : front <+: line ++ more) : front <+: line := by
  rcases List.prefix_or_prefix_of_prefix h (List.prefix_append line more) with hprefix | ⟨d, rfl⟩
  · exact hprefix
  · have hd : d = [] := by
      have hd : d <+: more := (List.prefix_append_right_inj line).1 h
      rcases hmore with rfl | ⟨rest, rfl⟩
      · exact List.prefix_nil.1 hd
      · cases d with
        | nil => rfl
        | cons c d =>
          rw [(List.cons_prefix_cons.1 hd).1] at hfront
          exact absurd (List.mem_append_right _ List.mem_cons_self) hfront
    exact ⟨[], by rw [hd, List.append_nil, List.append_nil]⟩

theorem Cuts.lines {rows : List (List Char)} (hrows : ∀ row ∈ rows, '\n' ∉ row)
    (hmark : ∀ row ∈ rows, ¬['#', '#'] <+: row) (hfence : ∀ row ∈ rows, ¬fence <+: row) (htail : Stop tail) :
    Cuts (below rows) tail := by
  induction rows with
  | nil => exact .nil htail
  | cons row rows ih =>
    rw [List.forall_mem_cons] at hrows hmark hfence
    have hmore : below rows ++ tail = [] ∨ ∃ rest, below rows ++ tail = '\n' :: rest := by
      cases rows with
      | nil => exact htail.imp id fun ⟨title, h⟩ => ⟨heading title, h⟩
      | cons next rows => exact .inr ⟨_, rfl⟩
    have hopens {front : List Char} (hfront : '\n' ∉ front) (hrow : ¬front <+: row) :
        ¬ '\n' :: front <+: '\n' :: (row ++ below rows ++ tail) := by
      intro hprefix
      rw [List.append_assoc] at hprefix
      exact hrow (isPrefix_line hfront hmore (List.cons_prefix_cons.1 hprefix).2)
    exact ((ih hrows.2 hmark.2 hfence.2).behind_line hrows.1).cons (hopens (by decide) hmark.1)
      (hopens (by decide) hfence.1)

/-! ### Sections of a text -/

theorem titleLine?_eq {title : List Char} (hne : title ≠ []) (hline : '\n' ∉ title) (cs : List Char) :
    titleLine? (title ++ '\n' :: cs) = some (title, cs) := by
  obtain ⟨c, rest, rfl⟩ := List.exists_cons_of_ne_nil hne
  obtain ⟨htake, hdrop⟩ := Text.takeWhile_until hline cs
  rw [titleLine?, htake, hdrop]
  rfl

theorem title?_eq {title : List Char} (hne : title ≠ []) (hline : '\n' ∉ title) (hbare : Text.Bare title)
    (cs : List Char) : title? (' ' :: (title ++ '\n' :: cs)) = some (title, cs) := by
  have hnone : title? (title ++ '\n' :: cs) = none := by
    obtain ⟨c, rest, rfl⟩ := List.exists_cons_of_ne_nil hne
    rw [List.cons_append, title?, if_neg (by rw [hbare.first c rfl]; decide)]
  rw [title?, if_pos (by decide), hnone, Option.none_or, titleLine?_eq hne hline]

theorem title?_oneLine (h : '\n' ∉ cs) : title? cs = none := by
  induction cs with
  | nil => rfl
  | cons c cs ih =>
    have hcs : '\n' ∉ cs := mt (List.mem_cons_of_mem c) h
    have hnone : titleLine? cs = none := by
      unfold titleLine?
      split
      · rename_i hdrop
        exact absurd ((List.dropWhile_sublist _).mem (hdrop ▸ List.mem_cons_self)) hcs
      · rfl
    rw [title?, ih hcs, hnone]
    exact ite_self none

theorem sections_of_some {title rest : List Char} (h : section? cs = some (title, body, rest)) :
    sections cs = (title, body) :: sections rest := by
  rw [sections]
  split
  · rename_i h'
    cases h.symm.trans h'
    rfl
  · rename_i h'
    cases h.symm.trans h'

theorem sections_of_none (h : section? (c :: cs) = none) : sections (c :: cs) = sections cs := by
  rw [sections]
  split
  · rename_i h'
    cases h.symm.trans h'
  · rfl

theorem sections_cons_of_ne (h : c ≠ '#') : sections (c :: cs) = sections cs := by
  refine sections_of_none ?_
  unfold section?
  split
  · rename_i heq
    exact absurd (List.cons.inj heq).1 h
  · rfl

theorem sections_blank {back : List Char} (h : Text.AllBlank back) : sections (back ++ tail) = sections tail := by
  induction back with
  | nil => rfl
  | cons c back ih =>
    obtain ⟨hc, hback⟩ := List.forall_mem_cons.1 h
    have hne : c ≠ '#' := by
      rintro rfl
      exact absurd hc (by decide)
    rw [List.cons_append, sections_cons_of_ne hne, ih hback]

/-- A heading needs an end of its line. -/
theorem sections_oneLine (h : '\n' ∉ cs) : sections cs = [] := by
  induction cs with
  | nil => rw [sections]; rfl
  | cons c cs ih =>
    have hnone : section? (c :: cs) = none := by
      unfold section?
      split
      · rename_i below heq
        have hbelow : '\n' ∉ below := by
          rw [heq] at h
          exact mt (fun hmem => List.mem_cons_of_mem _ (List.mem_cons_of_mem _ hmem)) h
        rw [title?_oneLine hbelow]
        rfl
      · rfl
    rw [sections_of_none hnone, ih (mt (List.mem_cons_of_mem c) h)]

namespace Part

variable {p : Part}

/-- A section is found with its title and its lines, but for blanks at the end of the text. -/
theorem Ended.sections_rows (h : p.Ended) (htail : Stop tail) :
    ∃ taken back, p.body = taken ++ back ∧ Text.AllBlank back ∧
      sections (below p.rows ++ tail) = (p.title, taken) :: sections tail := by
  obtain ⟨first, others, hlines⟩ := List.exists_cons_of_ne_nil h.nonempty
  obtain ⟨hfirst, hothers⟩ := List.forall_mem_cons.1 (hlines ▸ h.lines)
  have hbody : p.body = first ++ below others := by rw [body, hlines, intercalate_cons]
  have hcuts : Cuts (below others) tail :=
    .lines hothers (by simpa [hlines] using h.unmarked) (by simpa [hlines] using h.unfenced) htail
  obtain ⟨taken, back, htaken, hsplit, hback⟩ := hcuts.behind_line hfirst
  refine ⟨taken, back, hbody.trans hsplit, hback, ?_⟩
  have hrows : below p.rows ++ tail =
      '\n' :: '#' :: '#' :: ' ' :: (p.title ++ '\n' :: (first ++ below others ++ tail)) := by
    simp [rows, heading, hlines, below]
  have hsection : section? ('#' :: '#' :: ' ' :: (p.title ++ '\n' :: (first ++ below others ++ tail))) =
      some (p.title, taken, back ++ tail) := by
    rw [section?, title?_eq h.titled h.oneLine h.bare, Option.map_some]
    show some (p.title, (sectionBody _).1, (sectionBody _).2) = _
    rw [htaken]
  rw [hrows, sections_cons_of_ne (by decide), sections_of_some hsection, sections_blank hback]

/-- Sections with lines are found one by one, whatever heading is left behind them. -/
theorem sections_below {parts : List Part} (h : ∀ p ∈ parts, p.Ended) (htail : Stop tail)
    (hnone : sections tail = []) :
    (sections (below (parts.flatMap rows) ++ tail)).map (fun found => (found.1, Text.trim found.2)) =
      parts.map fun p => (p.title, Text.trim p.body) := by
  induction parts with
  | nil => rw [List.flatMap_nil, below, List.flatMap_nil, List.nil_append, hnone]; rfl
  | cons p parts ih =>
    obtain ⟨hp, hparts⟩ := List.forall_mem_cons.1 h
    have hstop : Stop (below (parts.flatMap rows) ++ tail) := by
      cases parts with
      | nil => exact htail
      | cons q parts => exact .inr ⟨_, rfl⟩
    obtain ⟨taken, back, hbody, hback, hsections⟩ := hp.sections_rows hstop
    rw [List.flatMap_cons, below_append, List.append_assoc, hsections, List.map_cons, List.map_cons, ih hparts,
      hbody, Text.trim_append_right taken hback]

end Part

/-- **The sections of a text** that is written section by section are those that are left when each one without lines
has taken the next for its body. -/
theorem sections_written {parts : List Part} (h : ∀ p ∈ parts, p.Plain) :
    (sections (written parts)).map (fun found => (found.1, Text.trim found.2)) =
      (Part.absorbed parts).map fun p => (p.title, Text.trim p.body) := by
  have hwritten : sections (written parts) = sections (below (parts.flatMap Part.rows)) := by
    cases parts with
    | nil => rfl
    | cons p parts =>
      rw [written, List.flatMap_cons, Part.rows, List.cons_append, intercalate_cons]
      exact (sections_cons_of_ne (by decide)).symm
  obtain ⟨left, hrows, hleft⟩ := Part.exists_rows_absorbed h
  have hstop : Stop (below left) := by
    rcases hleft with rfl | ⟨title, -, rfl⟩
    · exact .inl rfl
    · exact .inr ⟨title, by simp [below]⟩
  have hnone : sections (below left) = [] := by
    rcases hleft with rfl | ⟨title, htitle, rfl⟩
    · exact sections_oneLine List.not_mem_nil
    · rw [below, List.flatMap_singleton, sections_cons_of_ne (by decide), sections_oneLine]
      exact Part.notMem_heading htitle
  rw [hwritten, hrows, below_append, Part.sections_below (Part.absorbed_ended h) hstop hnone]

end Markup

/-! ### Vars of a text -/

namespace MarkupRule

/-- A title or a label asks for a var; the empty name is none. -/
def Asks (vars : Assoc String) (key : String) (name : List Char) : Prop :=
  key ≠ "" ∧ vars.lookup (String.ofList name) = some key

instance (vars : Assoc String) (key : String) : DecidablePred (Asks vars key) :=
  fun _ => inferInstanceAs (Decidable (_ ∧ _))

/-- Of several assignments to a var the last one is found. -/
theorem lookup_assigned {α : Type} (name body : α → List Char) (vars : Assoc String) (items : List α) (key : String) :
    Assoc.lookup key (items.filterMap fun a => assign? vars (name a) (body a)).reverse =
      (items.reverse.find? fun a => Asks vars key (name a)).map fun a =>
        .str (String.ofList (Text.trim (body a))) := by
  rw [← List.filterMap_reverse]
  induction items.reverse with
  | nil => rfl
  | cons a rest ih =>
    rw [List.filterMap_cons, List.find?_cons]
    cases hname : (vars.lookup (String.ofList (name a))).filter (· ≠ "") with
    | none =>
      have hasks : ¬Asks vars key (name a) := by
        rintro ⟨hkey, htitle⟩
        rw [htitle, Option.filter_some, if_pos (decide_eq_true hkey)] at hname
        exact nomatch hname
      rw [assign?, hname, decide_eq_false hasks]
      exact ih
    | some found =>
      obtain ⟨htitle, hne⟩ := Option.filter_eq_some_iff.1 hname
      rw [assign?, hname]
      by_cases hkey : found = key
      · have hasks : Asks vars key (name a) := ⟨hkey ▸ of_decide_eq_true hne, hkey ▸ htitle⟩
        rw [decide_eq_true hasks]
        exact if_pos hkey
      · have hasks : ¬Asks vars key (name a) := fun h => hkey (Option.some.inj (htitle.symm.trans h.2))
        rw [decide_eq_false hasks]
        exact (if_neg hkey).trans ih

end MarkupRule

namespace Markup.Part

/-- The title of a section asks for a var; the empty name is none. -/
def Asks (headings : Assoc String) (key : String) (p : Part) : Prop :=
  key ≠ "" ∧ headings.lookup (String.ofList p.title) = some key

instance (headings : Assoc String) (key : String) : DecidablePred (Asks headings key) :=
  fun _ => inferInstanceAs (Decidable (_ ∧ _))

/-- The text below the heading, trimmed. -/
def value (p : Part) : Value := .str (String.ofList (Text.trim p.body))

/-- The value that the last section has which asks for a var. -/
def found? (headings : Assoc String) (parts : List Part) (key : String) : Option Value :=
  (parts.reverse.find? fun p => p.Asks headings key).map value

theorem lookup_assignments (headings : Assoc String) (parts : List Part) (key : String) :
    Assoc.lookup key (parts.filterMap fun p => MarkupRule.assign? headings p.title p.body).reverse =
      found? headings parts key :=
  MarkupRule.lookup_assigned title body headings parts key

end Markup.Part

/-! ### Extraction -/

namespace MarkupRule

open Markup

/-- What a rule for titles finds in the one message of the assistant. -/
theorem findings_eq {headings : Assoc String} {s : Session} {m : Message} (honly : s.ofRole .assistant = [m]) :
    findings { headings, labels := [], roles := [.assistant] } s =
      .ofPairs ((sections m.content.toList).filterMap fun found => assign? headings (Text.trim found.1) found.2) := by
  have hmessages : (s.messages.filter fun m => [Role.assistant].contains m.role) = [m] := by
    rw [← honly, Session.ofRole]
    congr 1
    funext m
    simp
  rw [findings, hmessages, List.flatMap_singleton, assignments]
  cases headings with
  | nil =>
    have hnone : ((sections m.content.toList).filterMap fun found =>
        assign? [] (Text.trim found.1) found.2) = [] := List.filterMap_eq_nil_iff.2 fun _ _ => rfl
    rw [hnone]
    rfl
  | cons entry rest => exact congrArg Assoc.ofPairs (List.append_nil _)

/-- Trimmed bodies give the same assignments. -/
theorem assign?_trim (vars : Assoc String) (name body : List Char) :
    assign? vars name (Text.trim body) = assign? vars name body := by
  rw [assign?, assign?, Text.trim_of_bare (Text.bare_trim body)]

/-- The assignments that a text gives which is written section by section. -/
theorem filterMap_sections_written (headings : Assoc String) {parts : List Part} (h : ∀ p ∈ parts, p.Plain) :
    ((sections (written parts)).filterMap fun found => assign? headings (Text.trim found.1) found.2) =
      (Part.absorbed parts).filterMap fun p => assign? headings p.title p.body := by
  have htrim : (fun found : List Char × List Char => assign? headings (Text.trim found.1) found.2) =
      (fun found => assign? headings (Text.trim found.1) found.2) ∘
        fun found => (found.1, Text.trim found.2) := by
    funext found
    exact (assign?_trim headings _ _).symm
  rw [htrim, ← List.filterMap_map, sections_written h, List.filterMap_map]
  refine List.filterMap_congr fun p hp => ?_
  show assign? headings (Text.trim p.title) (Text.trim p.body) = _
  rw [assign?_trim, Text.trim_of_bare (Part.absorbed_ended h p hp).bare]

theorem of_make {headings : Assoc String} {rule : MarkupRule}
    (h : make headings [] [.str "assistant"] = .ok rule) :
    rule = { headings, labels := [], roles := [.assistant] } := by
  unfold make at h
  split at h
  · exact nomatch h
  · exact (Except.ok.inj h).symm

end MarkupRule

/-- Extraction stores what it has found, and nothing else happens to the session. -/
theorem exec_extractMarkdown {σ : Type} (rule : MarkupRule) (s : Session) (w : Surroundings σ) (st : State σ) :
    ∃ st', (extractMarkdown rule s).exec w st = (.ok (s.withVars (rule.findings s)), st') := by
  rw [extractMarkdown]
  cases rule.findings s with
  | nil => exact ⟨st, rfl⟩
  | cons entry rest => exact ⟨_, rfl⟩

section

open Markup

variable {σ : Type} {headings : Assoc String} {rule : MarkupRule} {s : Session} {m : Message} {parts : List Part}

/-- Extraction from a text that is written section by section: the sections that are found set the vars that they ask
for, and everything else in the session is left as it is. -/
theorem extractMarkdown_written (hrule : MarkupRule.make headings [] [.str "assistant"] = .ok rule)
    (honly : s.ofRole .assistant = [m]) (htext : m.content.toList = written parts) (hplain : ∀ p ∈ parts, p.Plain)
    (w : Surroundings σ) (st : State σ) :
    ∃ s' st', (extractMarkdown rule s).exec w st = (.ok s', st') ∧ s' = { s with vars := s'.vars } ∧
      ∀ key, s'.vars.lookup key = (Part.found? headings (Part.absorbed parts) key).or (s.vars.lookup key) := by
  obtain ⟨st', hexec⟩ := exec_extractMarkdown rule s w st
  refine ⟨s.withVars (rule.findings s), st', hexec, rfl, fun key => ?_⟩
  rw [MarkupRule.of_make hrule, MarkupRule.findings_eq honly, htext, MarkupRule.filterMap_sections_written _ hplain,
    Session.withVars, Assoc.lookup_overlay_ofPairs, Part.lookup_assignments]

/-- **Extraction** from a text of sections that all have lines: each var that a title asks for takes the trimmed body of
the last such section, and everything else in the session is left as it is. -/
theorem extractMarkdown_sections (hrule : MarkupRule.make headings [] [.str "assistant"] = .ok rule)
    (honly : s.ofRole .assistant = [m]) (htext : m.content.toList = written parts) (hplain : ∀ p ∈ parts, p.Plain)
    (hlines : ∀ p ∈ parts, p.lines ≠ []) (w : Surroundings σ) (st : State σ) :
    ∃ s' st', (extractMarkdown rule s).exec w st = (.ok s', st') ∧ s' = { s with vars := s'.vars } ∧
      ∀ key, s'.vars.lookup key = (Part.found? headings parts key).or (s.vars.lookup key) := by
  have hfound := extractMarkdown_written hrule honly htext hplain w st
  rwa [Part.absorbed_of_lines hlines] at hfound

/-- A title that stands twice, an empty line below another, and a var that nothing asks for. -/
theorem extractMarkdown_sections_plan :
    let s : Session := { messages := [.user "go", .assistant "## Plan\none\n\ntwo\n## Risks\n\n## Plan\n three "],
                         vars := [("goal", .int 1)] }
    ∃ rule s' st', MarkupRule.make [("Plan", "plan"), ("Risks", "risks")] [] [.str "assistant"] = .ok rule ∧
      (extractMarkdown rule s).exec (.alone Unit) { host := () } = (.ok s', st') ∧
      s'.vars.lookup "plan" = some (.str "three") ∧ s'.vars.lookup "risks" = some (.str "") ∧
      s'.vars.lookup "goal" = some (.int 1) := by
  intro s
  obtain ⟨s', st', hexec, -, hvars⟩ := @extractMarkdown_sections Unit [("Plan", "plan"), ("Risks", "risks")] _ s _
    [⟨"Plan".toList, ["one".toList, [], "two".toList]⟩, ⟨"Risks".toList, [[]]⟩, ⟨"Plan".toList, [" three ".toList]⟩]
    rfl rfl (by decide +kernel) (by decide +kernel) (by decide +kernel) (.alone Unit) { host := () }
  exact ⟨_, s', st', rfl, hexec, hvars "plan", hvars "risks", hvars "goal"⟩

/-- A section without lines takes the section after it for its body. -/
theorem extractMarkdown_swallows :
    let parts : List Part := [⟨"A".toList, []⟩, ⟨"B".toList, ["body".toList]⟩]
    let s : Session := { messages := [.assistant "## A\n## B\nbody"] }
    (∀ p ∈ parts, p.Plain) ∧ s.lastText.toList = written parts ∧
      Part.found? [("A", "a"), ("B", "b")] parts "a" = some (.str "") ∧
      Part.found? [("A", "a"), ("B", "b")] parts "b" = some (.str "body") ∧
      ∃ rule s' st', MarkupRule.make [("A", "a"), ("B", "b")] [] [.str "assistant"] = .ok rule ∧
        (extractMarkdown rule s).exec (.alone Unit) { host := () } = (.ok s', st') ∧
        s'.vars.lookup "a" = some (.str "## B\nbody") ∧ s'.vars.lookup "b" = none := by
  intro parts s
  have hplain : ∀ p ∈ parts, p.Plain := by decide +kernel
  have htext : s.lastText.toList = written parts := by decide +kernel
  obtain ⟨s', st', hexec, -, hvars⟩ := @extractMarkdown_written Unit [("A", "a"), ("B", "b")] _ s _ parts
    rfl rfl htext hplain (.alone Unit) { host := () }
  exact ⟨hplain, htext, rfl, rfl, _, s', st', rfl, hexec, hvars "a", hvars "b"⟩

end

end Colloquy
