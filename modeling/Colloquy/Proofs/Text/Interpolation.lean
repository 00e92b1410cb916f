import Colloquy.Interpolation
import Colloquy.Proofs.Text.Cutting
import Mathlib.Data.List.Forall2

/-!
# One pass through a template

A template has just one `Cut` into literal characters and the leftmost placeholders, which is the one that `Piece.scan`
finds (`cut_iff`).  What `Stands` in the place of a piece is the character itself, the text of what the names of a
placeholder lead to, or the placeholder as it is if they lead to nothing.  So interpolation is a single pass over the
template (`interpolate_once`): the pieces keep their order, what values bring along is in none of them, and vars matter
only where a placeholder names them.  All of this is so for whatever things names may lead through.
-/

namespace Colloquy

/-! ### Cuts -/

namespace Piece

variable {cs inner rest : List Char} {pieces : List Piece}

/-- The inner text of a placeholder: one or more characters, none of them a closing brace. -/
def Proper (inner : List Char) : Prop := inner ≠ [] ∧ '\x7d' ∉ inner

/-- A text that begins with a placeholder. -/
def Opens (cs : List Char) : Prop :=
  ∃ inner rest, Proper inner ∧ cs = (placeholder inner).source ++ rest

/-- A text in pieces: what is literal begins no placeholder, so that every placeholder is the leftmost one that there
is behind the one before. -/
structure Cut (cs : List Char) (pieces : List Piece) : Prop where
  whole : pieces.flatMap source = cs
  proper : ∀ inner, placeholder inner ∈ pieces → Proper inner
  leftmost : ∀ before c after, pieces = before ++ literal c :: after →
    ¬Opens ((literal c :: after).flatMap source)

theorem front?_eq_some_iff : front? cs = some (inner, rest) ↔
    Proper inner ∧ cs = (placeholder inner).source ++ rest := by
  constructor
  · intro h
    unfold front? at h
    split at h
    · rename_i tail
      split at h
      · rename_i c inner' rest' htake hdrop
        obtain ⟨rfl, rfl⟩ := Prod.mk.inj (Option.some.inj h)
        refine ⟨⟨List.cons_ne_nil _ _, fun hmem => ?_⟩, ?_⟩
        · have hbrace := List.mem_takeWhile_imp (htake ▸ hmem)
          exact absurd hbrace (by decide)
        · have hsplit := List.takeWhile_append_dropWhile (p := (· ≠ '\x7d')) (l := tail)
          rw [htake, hdrop] at hsplit
          rw [← hsplit]
          simp [source]
      · exact nomatch h
    · exact nomatch h
  · rintro ⟨⟨hne, hbrace⟩, rfl⟩
    obtain ⟨c, inner, rfl⟩ := List.exists_cons_of_ne_nil hne
    obtain ⟨htake, hdrop⟩ := Text.takeWhile_until hbrace ('\x7d' :: rest)
    have hsource : (placeholder (c :: inner)).source ++ rest =
        '\x7b' :: '\x7b' :: (c :: inner ++ '\x7d' :: '\x7d' :: rest) := by simp [source]
    rw [hsource, front?, htake, hdrop]
    rfl

theorem opens_iff : Opens cs ↔ front? cs ≠ none := by
  rw [Option.ne_none_iff_exists']
  constructor
  · rintro ⟨inner, rest, h⟩
    exact ⟨(inner, rest), front?_eq_some_iff.2 h⟩
  · rintro ⟨⟨inner, rest⟩, h⟩
    exact ⟨inner, rest, front?_eq_some_iff.1 h⟩

theorem cut_nil : Cut [] [] where
  whole := rfl
  proper _ h := absurd h List.not_mem_nil
  leftmost before _ _ h := absurd h.symm (List.append_ne_nil_of_right_ne_nil before (List.cons_ne_nil _ _))

theorem Cut.placeholder (hinner : Proper inner) (h : Cut rest pieces) :
    Cut ((placeholder inner).source ++ rest) (placeholder inner :: pieces) where
  whole := by rw [List.flatMap_cons, h.whole]
  proper other hother := by
    rcases List.mem_cons.1 hother with hsame | hother
    · rwa [placeholder.inj hsame]
    · exact h.proper other hother
  leftmost before c after hsplit := by
    cases before with
    | nil => exact nomatch (List.cons.inj hsplit).1
    | cons piece before => exact h.leftmost before c after (List.cons.inj hsplit).2

theorem Cut.literal {c : Char} (hopens : ¬Opens (c :: cs)) (h : Cut cs pieces) :
    Cut (c :: cs) (literal c :: pieces) where
  whole := by rw [List.flatMap_cons, h.whole]; rfl
  proper other hother := by
    rcases List.mem_cons.1 hother with hsame | hother
    · exact nomatch hsame
    · exact h.proper other hother
  leftmost before d after hsplit := by
    cases before with
    | nil =>
      obtain ⟨hd, rfl⟩ := List.cons.inj hsplit
      rw [← hd, List.flatMap_cons, h.whole]
      exact hopens
    | cons piece before => exact h.leftmost before d after (List.cons.inj hsplit).2

/-- What is left of a cut behind its first piece. -/
theorem Cut.tail {piece : Piece} (h : Cut cs (piece :: pieces)) : Cut (pieces.flatMap source) pieces where
  whole := rfl
  proper inner hinner := h.proper inner (List.mem_cons_of_mem _ hinner)
  leftmost before c after hsplit := h.leftmost (piece :: before) c after (by rw [hsplit]; rfl)

theorem scan_of_front? (h : front? cs = some (inner, rest)) : scan cs = placeholder inner :: scan rest := by
  cases cs with
  | nil => cases h
  | cons c cs =>
    rw [scan]
    split
    · rename_i inner' rest' h'
      obtain ⟨rfl, rfl⟩ := Prod.mk.inj (Option.some.inj (h'.symm.trans h))
      rfl
    · rename_i h'
      cases h'.symm.trans h

theorem scan_of_not_opens {c : Char} (h : ¬Opens (c :: cs)) : scan (c :: cs) = literal c :: scan cs := by
  rw [opens_iff, not_not] at h
  rw [scan]
  split
  · rename_i h'
    cases h'.symm.trans h
  · rfl

theorem cut_scan (cs : List Char) : Cut cs (scan cs) := by
  induction cs using scan.induct with
  | case1 =>
    rw [scan]
    exact cut_nil
  | case2 c tail inner rest h _ ih =>
    obtain ⟨hinner, hsplit⟩ := front?_eq_some_iff.1 h
    rw [scan_of_front? h, hsplit]
    exact ih.placeholder hinner
  | case3 c tail h ih =>
    have hopens : ¬Opens (c :: tail) := by rw [opens_iff, not_not, h]
    rw [scan_of_not_opens hopens]
    exact ih.literal hopens

/-- **The only cut** of a text is the one that the scanner finds. -/
theorem cut_iff : Cut cs pieces ↔ pieces = scan cs := by
  refine ⟨fun h => ?_, by rintro rfl; exact cut_scan cs⟩
  induction pieces generalizing cs with
  | nil =>
    rw [← h.whole]
    exact scan.eq_1.symm
  | cons piece pieces ih =>
    have hrest := ih h.tail
    have hwhole := h.whole
    rw [List.flatMap_cons] at hwhole
    rw [← hwhole]
    cases piece with
    | literal c =>
      have hopens := h.leftmost [] c pieces rfl
      rw [List.flatMap_cons] at hopens
      exact (congrArg _ hrest).trans (scan_of_not_opens hopens).symm
    | placeholder inner =>
      have hinner := h.proper inner (List.mem_cons_self ..)
      rw [scan_of_front? (front?_eq_some_iff.2 ⟨hinner, rfl⟩), ← hrest]

end Piece

/-! ### Names and what they lead to -/

/-- The names in an inner text: what stands between the points, once the blanks around all of it are gone. -/
def Names (inner : List Char) (names : List String) : Prop :=
  ∃ front core back, inner = front ++ core ++ back ∧ Text.AllBlank front ∧ Text.AllBlank back ∧ Text.Bare core ∧
    names ≠ [] ∧ (∀ name ∈ names, '.' ∉ name.toList) ∧ ['.'].intercalate (names.map String.toList) = core

theorem names_iff {inner : List Char} {names : List String} :
    Names inner names ↔ names = pathNames (Text.trim inner) := by
  have hpieces : names = pathNames (Text.trim inner) ↔
      Text.splitOn '.' (Text.trim inner) = names.map String.toList := by
    rw [pathNames]
    constructor
    · intro h
      rw [h, List.map_map]
      exact (List.map_id'' (fun _ => String.toList_ofList) _).symm
    · intro h
      rw [h, List.map_map]
      exact (List.map_id'' (fun _ => String.ofList_toList) _).symm
  rw [hpieces, Text.splitOn_eq_iff]
  simp only [ne_eq, List.map_eq_nil_iff, List.forall_mem_map]
  constructor
  · rintro ⟨front, core, back, hsplit, hfront, hback, hcore, hne, hnames, hjoin⟩
    have htrim : Text.trim inner = core := Text.trim_eq_iff.2 ⟨hcore, front, back, hsplit, hfront, hback⟩
    exact ⟨hne, hnames, hjoin.trans htrim.symm⟩
  · rintro ⟨hne, hnames, hjoin⟩
    obtain ⟨hcore, front, back, hsplit, hfront, hback⟩ := Text.trim_eq_iff.1 (rfl : Text.trim inner = _)
    exact ⟨front, _, back, hsplit, hfront, hback, hcore, hne, hnames, hjoin⟩

section Objects

variable {ω : Type} {o : Objects ω} {v w vars : ω}

/-- Names lead from one thing to another: each of them is that of an entry of a mapping, or of an attribute of what is
no mapping. -/
inductive Objects.Reaches (o : Objects ω) : ω → List String → ω → Prop
  | here (v : ω) : Reaches o v [] v
  | entry {v w : ω} {get : String → ω} {name : String} {names : List String} (hmapping : o.mapping? v = some get)
      (hrest : Reaches o (get name) names w) : Reaches o v (name :: names) w
  | ofAttribute {v u w : ω} {name : String} {names : List String} (hmapping : o.mapping? v = none)
      (hattribute : o.attribute? v name = some u) (hrest : Reaches o u names w) : Reaches o v (name :: names) w

theorem reaches_cons_iff {name : String} {names : List String} :
    o.Reaches v (name :: names) w ↔ ∃ u, o.part? v name = some u ∧ o.Reaches u names w := by
  constructor
  · intro h
    cases h with
    | entry hmapping hrest => exact ⟨_, by rw [Objects.part?, hmapping], hrest⟩
    | ofAttribute hmapping hattribute hrest => exact ⟨_, by rw [Objects.part?, hmapping, hattribute], hrest⟩
  · rintro ⟨u, hpart, hrest⟩
    rw [Objects.part?] at hpart
    cases hmapping : o.mapping? v with
    | none =>
      rw [hmapping] at hpart
      exact .ofAttribute hmapping hpart hrest
    | some get =>
      rw [hmapping] at hpart
      obtain rfl := Option.some.inj hpart
      exact .entry hmapping hrest

/-- Names lead to what is found by following them. -/
theorem reaches_iff {names : List String} : o.Reaches v names w ↔ o.follow v names = some w := by
  induction names generalizing v with
  | nil =>
    constructor
    · rintro ⟨⟩
      rfl
    · intro h
      obtain rfl := Option.some.inj h
      exact .here v
  | cons name names ih =>
    have hfollow : o.follow v (name :: names) = (o.part? v name).bind fun u => o.follow u names := rfl
    rw [reaches_cons_iff, hfollow, Option.bind_eq_some_iff]
    exact exists_congr fun u => and_congr_right fun _ => ih

/-! ### What stands for a piece -/

/-- What a piece of a template is replaced by. -/
inductive Stands (o : Objects ω) (vars : ω) : Piece → List Char → Prop
  | literal (c : Char) : Stands o vars (.literal c) [c]
  | value {inner : List Char} {names : List String} {v : ω} (hnames : Names inner names)
      (hreaches : o.Reaches vars names v) (hv : o.isNull v = false) :
      Stands o vars (.placeholder inner) (o.text v).toList
  | verbatim {inner : List Char}
      (hnone : ∀ names v, Names inner names → o.Reaches vars names v → o.isNull v = true) :
      Stands o vars (.placeholder inner) (Piece.placeholder inner).source

theorem fill_of_reaches {inner : List Char} {names : List String} (hnames : Names inner names)
    (hreaches : o.Reaches vars names v) (hv : o.isNull v = false) :
    (Piece.placeholder inner).fill o vars = (o.text v).toList := by
  rw [names_iff.1 hnames, reaches_iff] at hreaches
  simp only [Piece.fill, hreaches, hv, Bool.false_eq_true, if_false]

theorem fill_of_not_reaches {inner : List Char}
    (hnone : ∀ names v, Names inner names → o.Reaches vars names v → o.isNull v = true) :
    (Piece.placeholder inner).fill o vars = (Piece.placeholder inner).source := by
  rw [Piece.fill]
  cases hfollow : o.follow vars (pathNames (Text.trim inner)) with
  | none => rfl
  | some v =>
    have hnull := hnone _ v (names_iff.2 rfl) (reaches_iff.2 hfollow)
    exact if_pos hnull

/-- The names of a placeholder lead to something other than null, or they do not. -/
theorem reaches_or_not (o : Objects ω) (vars : ω) (inner : List Char) :
    (∃ names v, Names inner names ∧ o.Reaches vars names v ∧ o.isNull v = false) ∨
      ∀ names v, Names inner names → o.Reaches vars names v → o.isNull v = true := by
  by_cases h : ∃ names v, Names inner names ∧ o.Reaches vars names v ∧ o.isNull v = false
  · exact .inl h
  · refine .inr fun names v hnames hreaches => ?_
    by_contra hv
    exact h ⟨names, v, hnames, hreaches, Bool.not_eq_true _ ▸ hv⟩

theorem stands_iff {piece : Piece} {text : List Char} : Stands o vars piece text ↔ text = piece.fill o vars := by
  constructor
  · intro h
    cases h with
    | literal c => rfl
    | value hnames hreaches hv => exact (fill_of_reaches hnames hreaches hv).symm
    | verbatim hnone => exact (fill_of_not_reaches hnone).symm
  · rintro rfl
    cases piece with
    | literal c => exact .literal c
    | placeholder inner =>
      rcases reaches_or_not o vars inner with ⟨names, v, hnames, hreaches, hv⟩ | hnone
      · rw [fill_of_reaches hnames hreaches hv]
        exact .value hnames hreaches hv
      · rw [fill_of_not_reaches hnone]
        exact .verbatim hnone

theorem forall₂_stands_iff {pieces : List Piece} {texts : List (List Char)} :
    List.Forall₂ (Stands o vars) pieces texts ↔ texts = pieces.map (Piece.fill o vars) := by
  induction pieces generalizing texts with
  | nil => rw [List.forall₂_nil_left_iff, List.map_nil]
  | cons piece pieces ih =>
    rw [List.forall₂_cons_left_iff, List.map_cons]
    constructor
    · rintro ⟨text, rest, htext, hrest, rfl⟩
      rw [stands_iff.1 htext, ih.1 hrest]
    · rintro rfl
      exact ⟨_, _, stands_iff.2 rfl, ih.2 rfl, rfl⟩

/-- Vars from which the names in a template lead to the same things, as far as these are not null. -/
def AgreeOn (o : Objects ω) (pieces : List Piece) (vars others : ω) : Prop :=
  ∀ inner names, .placeholder inner ∈ pieces → Names inner names → ∀ v, o.isNull v = false →
    (o.Reaches vars names v ↔ o.Reaches others names v)

theorem fill_of_agreeOn {pieces : List Piece} {others : ω} (h : AgreeOn o pieces vars others) {piece : Piece}
    (hpiece : piece ∈ pieces) : piece.fill o others = piece.fill o vars := by
  cases piece with
  | literal c => rfl
  | placeholder inner =>
    rcases reaches_or_not o vars inner with ⟨names, v, hnames, hreaches, hv⟩ | hnone
    · have hother : o.Reaches others names v := (h inner names hpiece hnames v hv).1 hreaches
      rw [fill_of_reaches hnames hreaches hv, fill_of_reaches hnames hother hv]
    · have hother : ∀ names v, Names inner names → o.Reaches others names v → o.isNull v = true := by
        intro names v hnames hreaches
        by_contra hv
        rw [Bool.not_eq_true] at hv
        have hnull := hnone names v hnames ((h inner names hpiece hnames v hv).2 hreaches)
        exact Bool.false_ne_true (hv.symm.trans hnull)
      rw [fill_of_not_reaches hnone, fill_of_not_reaches hother]

/-- **One pass.** Whatever things there are, with whatever attributes: a template has exactly one cut into literal
characters and leftmost placeholders, and exactly one sequence of texts stands for its pieces; interpolation joins
these.  No text that a value brings along is among the pieces, and other vars give the same text if the names in the
template lead to the same things there. -/
theorem interpolate_once (o : Objects ω) (template : String) (vars : ω) :
    ∃ pieces texts, (∀ others, Piece.Cut template.toList others ↔ others = pieces) ∧
      (∀ others, List.Forall₂ (Stands o vars) pieces others ↔ others = texts) ∧
      (interpolateVars o template vars).toList = texts.flatten ∧
      ∀ others : ω, AgreeOn o pieces vars others →
        interpolateVars o template others = interpolateVars o template vars := by
  refine ⟨Piece.scan template.toList, (Piece.scan template.toList).map (Piece.fill o vars),
    fun _ => Piece.cut_iff, fun _ => forall₂_stands_iff, ?_, fun others h => ?_⟩
  · rw [interpolateVars, String.toList_ofList, List.flatMap_def]
  · rw [interpolateVars, interpolateVars, List.flatMap_congr fun piece hpiece => fill_of_agreeOn h hpiece]

end Objects

end Colloquy
