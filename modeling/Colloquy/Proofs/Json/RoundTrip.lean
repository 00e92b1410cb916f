import Colloquy.Proofs.Json.Numeral
import Colloquy.Proofs.Json.Text

/-!
# Values read back from JSON

Every value whose doubles are finite and whose objects have each key once is `Representable`: what is written for it
reads back as the value itself, with its entries in their order (`readWith_render`).  The reader is followed along the
writer, item by item, and has steps enough because it is given more of them than there are characters.
-/

namespace Colloquy.Json

open Number (Layout)

variable {strict : Bool} {place : Place} {negative : Bool} {fuel index : Nat} {cs rest tail : List Char}

/-- A value that JSON has a notation for. -/
inductive Representable : Value → Prop where
  | null : Representable .null
  | bool (b : Bool) : Representable (.bool b)
  | int (n : Int) : Representable (.int n)
  | float {x : Float} (finite : Number.isFinite x = true) : Representable (.float x)
  | str (s : String) : Representable (.str s)
  | list {items : List Value} (parts : ∀ v ∈ items, Representable v) : Representable (.list items)
  | object {entries : Entries} (nodup : entries.keys.Nodup) (parts : ∀ e ∈ entries, Representable e.2) :
    Representable (.object entries)

/-! ### White space -/

/-- A text that begins with a character of its own: neither white space nor a closing bracket or brace. -/
def Opens (cs : List Char) : Prop :=
  ∃ c rest, cs = c :: rest ∧ isSpace c = false ∧ c ≠ ']' ∧ c ≠ '\x7d'

theorem Opens.append (h : Opens cs) (rest : List Char) : Opens (cs ++ rest) := by
  obtain ⟨c, cs, rfl, hc⟩ := h
  exact ⟨c, cs ++ rest, rfl, hc⟩

theorem skip_of_not_isSpace {c : Char} (h : isSpace c = false) : skip ⟨c :: cs, index⟩ = ⟨c :: cs, index⟩ := by
  have hdrop : (c :: cs).dropWhile isSpace = c :: cs := List.dropWhile_cons_of_neg (by rw [h]; decide)
  rw [skip, hdrop, Nat.sub_self, Nat.add_zero]

theorem skip_opens (h : Opens cs) : skip ⟨cs, index⟩ = ⟨cs, index⟩ := by
  obtain ⟨c, cs, rfl, hc, -⟩ := h
  exact skip_of_not_isSpace hc

/-- The blank behind a comma or a colon. -/
theorem skip_blank (h : Opens cs) : skip ⟨' ' :: cs, index⟩ = ⟨cs, index + 1⟩ := by
  obtain ⟨c, cs, rfl, hc, -⟩ := h
  have hdrop : (' ' :: c :: cs).dropWhile isSpace = c :: cs := by
    rw [List.dropWhile_cons_of_pos rfl]
    exact List.dropWhile_cons_of_neg (by rw [hc]; decide)
  rw [skip, hdrop, List.length_cons, List.length_cons, Nat.add_sub_cancel_left]

theorem endsNumber_nil : EndsNumber [] :=
  ⟨nofun, nofun, nofun, nofun⟩

/-- Numbers end at the marks that stand behind values. -/
theorem endsNumber_mark {c : Char} (hc : c ∈ [',', ']', '\x7d']) (cs : List Char) : EndsNumber (c :: cs) := by
  obtain ⟨hdigit, hpoint, hlower, hupper⟩ : c.isDigit = false ∧ c ≠ '.' ∧ c ≠ 'e' ∧ c ≠ 'E' := by
    simp only [List.mem_cons, List.not_mem_nil, or_false] at hc
    rcases hc with rfl | rfl | rfl <;> decide
  refine ⟨fun d hd => ?_, ?_, ?_, ?_⟩
  · rw [← Option.some.inj hd]
    exact hdigit
  · exact fun h => hpoint (Option.some.inj h)
  · exact fun h => hlower (Option.some.inj h)
  · exact fun h => hupper (Option.some.inj h)

/-! ### Values without parts -/

theorem readWord_append (start : Nat) (v : Value) (word : List Char) (index : Nat) :
    readWord start v word ⟨word ++ rest, index⟩ = .ok (v, ⟨rest, index + word.length⟩) := by
  induction word generalizing index with
  | nil => rfl
  | cons w word ih =>
    rw [List.cons_append, readWord, if_pos rfl, ih, List.length_cons, Nat.add_assoc, Nat.add_comm 1]

theorem writeText_append (s : String) (rest : List Char) :
    writeText s ++ rest = '"' :: (s.toList.flatMap writeChar ++ '"' :: rest) := by
  rw [writeText, List.cons_append, List.cons_append, List.append_assoc, List.singleton_append]

theorem length_le_flatMap (cs : List Char) : cs.length ≤ (cs.flatMap writeChar).length := by
  have hchar : ∀ c, 1 ≤ (writeChar c).length := by
    intro c
    unfold writeChar
    dsimp only
    split_ifs <;> exact Nat.succ_le_succ (Nat.zero_le _)
  induction cs with
  | nil => exact Nat.le_refl 0
  | cons c cs ih =>
    have hc := hchar c
    rw [List.flatMap_cons, List.length_append, List.length_cons]
    omega

/-- The reader has steps enough for a text. -/
theorem readText_whole (strict : Bool) (s : String) (rest : List Char) (start index : Nat) : ∃ index',
    readText strict start ((s.toList.flatMap writeChar ++ '"' :: rest).length + 1)
      ⟨s.toList.flatMap writeChar ++ '"' :: rest, index⟩ = .ok (s.toList, ⟨rest, index'⟩) := by
  have hlength := length_le_flatMap s.toList
  refine readText_text s.toList ?_ index
  rw [List.length_append]
  omega

theorem readValue_quote : readValue strict (fuel + 1) place ⟨'"' :: cs, index⟩ =
    (readText strict index (cs.length + 1) ⟨cs, index + 1⟩ >>= fun (ds, after) =>
      return (.str (String.ofList ds), after)) := by
  rw [readValue]
  rfl

theorem readValue_text (s : String) :
    ∃ index', readValue strict (fuel + 1) place ⟨writeText s ++ rest, index⟩ =
      .ok (.str s, ⟨rest, index'⟩) := by
  obtain ⟨index', hread⟩ := readText_whole strict s rest index (index + 1)
  refine ⟨index', ?_⟩
  rw [writeText_append, readValue_quote, hread]
  show Except.ok (Value.str (String.ofList s.toList), _) = _
  rw [String.ofList_toList]

/-- The reader goes on to a number at a digit. -/
theorem readValue_digit {d : Char} (hd : d.isDigit = true) :
    readValue strict (fuel + 1) place ⟨d :: cs, index⟩ = readNumber place false ⟨d :: cs, index⟩ := by
  rw [readValue]
  split
  case h_1 heq => exact nomatch heq
  case h_13 heq =>
    obtain ⟨rfl, rfl⟩ := List.cons.inj heq
    exact if_pos hd
  all_goals
    rename_i heq
    rw [(List.cons.inj heq).1] at hd
    exact absurd hd (by decide)

/-- The reader goes on to a number at a digit behind a sign. -/
theorem readValue_signed {d : Char} (hd : d.isDigit = true) :
    readValue strict (fuel + 1) place ⟨'-' :: d :: cs, index⟩ = readNumber place true ⟨d :: cs, index + 1⟩ := by
  rw [readValue]
  split
  case h_10 heq =>
    rw [(List.cons.inj (List.cons.inj heq).2).1] at hd
    exact absurd hd (by decide)
  case h_12 heq =>
    obtain ⟨rfl, rfl⟩ := List.cons.inj (List.cons.inj heq).2
    exact if_pos hd
  case h_13 hsign heq =>
    obtain ⟨rfl, rfl⟩ := List.cons.inj heq
    exact (hsign d cs rfl rfl).elim
  case h_11 heq => exact nomatch (List.cons.inj heq).2
  case h_1 heq => exact nomatch heq
  all_goals
    rename_i heq
    exact absurd (List.cons.inj heq).1 (by decide)

theorem readValue_numeral {n : Numeral} (hn : n.WellFormed) (hrest : EndsNumber rest) :
    ∃ index', readValue strict (fuel + 1) place ⟨(if negative then ['-'] else []) ++ n.text ++ rest, index⟩ =
      .ok (n.value negative, ⟨rest, index'⟩) := by
  obtain ⟨d, ds, hwhole⟩ := List.exists_cons_of_ne_nil hn.nonempty
  have hd : d.isDigit = true := hn.whole d (by rw [hwhole]; exact List.mem_cons_self ..)
  have htext : n.text ++ rest = d :: (ds ++ (n.fractionText ++ n.exponentText) ++ rest) := by
    rw [Numeral.text, hwhole]
    rfl
  cases negative with
  | false =>
    have hread := readNumber_text place false index hn hrest
    rw [htext] at hread
    show ∃ index', readValue strict (fuel + 1) place ⟨n.text ++ rest, index⟩ = _
    rw [htext, readValue_digit hd]
    exact hread
  | true =>
    have hread := readNumber_text place true (index + 1) hn hrest
    rw [htext] at hread
    show ∃ index', readValue strict (fuel + 1) place ⟨'-' :: (n.text ++ rest), index⟩ = _
    rw [htext, readValue_signed hd]
    exact hread

/-! ### How values begin -/

/-- Numbers are written as numerals that read as them. -/
def WrittenAs (v : Value) (negative : Bool) (n : Numeral) : Prop :=
  n.WellFormed ∧ write v = (if negative then ['-'] else []) ++ n.text ∧ n.value negative = v

theorem exists_writtenAs_int (n : Int) : ∃ negative numeral, WrittenAs (.int n) negative numeral := by
  obtain ⟨numeral, hwell, htext, hvalue⟩ := exists_numeral_natAbs n.natAbs
  cases n with
  | ofNat k =>
    refine ⟨false, numeral, hwell, ?_, hvalue false⟩
    rw [htext]
    exact Nat.toList_repr
  | negSucc k =>
    refine ⟨true, numeral, hwell, ?_, hvalue true⟩
    rw [htext]
    show ("-" ++ Nat.repr (k + 1)).toList = _
    rw [String.toList_append, Nat.toList_repr]
    rfl

theorem exists_writtenAs_float {x : Float} (h : Number.isFinite x = true) :
    ∃ negative numeral, WrittenAs (.float x) negative numeral := by
  unfold Number.isFinite at h
  split at h
  · rename_i negative _ _ hreading
    obtain ⟨numeral, hwell, htext, hvalue⟩ := exists_numeral_display numberLayout hreading
    exact ⟨negative, numeral, hwell, htext, hvalue⟩
  · exact nomatch h

theorem WrittenAs.opens {v : Value} {n : Numeral} (h : WrittenAs v negative n) : Opens (write v) := by
  obtain ⟨hwell, htext, -⟩ := h
  rw [htext]
  cases negative with
  | true => exact ⟨'-', n.text, rfl, by decide⟩
  | false =>
    obtain ⟨d, ds, hwhole⟩ := List.exists_cons_of_ne_nil hwell.nonempty
    have hd := hwell.whole d (by rw [hwhole]; exact List.mem_cons_self ..)
    refine ⟨d, ds ++ (n.fractionText ++ n.exponentText), by rw [Numeral.text, hwhole]; rfl, ?_, ?_, ?_⟩
    · rw [isSpace, Bool.or_eq_false_iff, Bool.or_eq_false_iff, Bool.or_eq_false_iff]
      refine ⟨⟨⟨?_, ?_⟩, ?_⟩, ?_⟩ <;>
      · rw [beq_eq_false_iff_ne]
        rintro rfl
        exact absurd hd (by decide)
    · rintro rfl
      exact absurd hd (by decide)
    · rintro rfl
      exact absurd hd (by decide)

theorem write_opens {v : Value} (h : Representable v) : Opens (write v) := by
  cases h with
  | null => exact ⟨_, _, rfl, by decide⟩
  | bool b => cases b <;> exact ⟨_, _, rfl, by decide⟩
  | int n =>
    obtain ⟨_, _, hwritten⟩ := exists_writtenAs_int n
    exact hwritten.opens
  | float finite =>
    obtain ⟨_, _, hwritten⟩ := exists_writtenAs_float finite
    exact hwritten.opens
  | str s => exact ⟨'"', _, rfl, by decide⟩
  | list _ => exact ⟨'[', _, rfl, by decide⟩
  | object _ _ => exact ⟨'\x7b', _, rfl, by decide⟩

/-! ### Items and entries -/

theorem readValue_list (h : Opens cs) : readValue strict (fuel + 1) place ⟨'[' :: cs, index⟩ =
    (readItems strict fuel ⟨cs, index + 1⟩ >>= fun (items, after) => return (.list items, after)) := by
  have hskip : skip ⟨cs, index + 1⟩ = ⟨cs, index + 1⟩ := skip_opens h
  obtain ⟨c, cs, rfl, -, hbracket, -⟩ := h
  rw [readValue]
  simp only [hskip]
  split
  · rename_i hnil
    exact nomatch hnil
  · rename_i hclosed
    exact absurd (List.cons.inj hclosed).1 hbracket
  · rfl

theorem readValue_object (h : Opens cs) : readValue strict (fuel + 1) place ⟨'\x7b' :: cs, index⟩ =
    (readEntries strict fuel ⟨cs, index + 1⟩ >>= fun (pairs, after) =>
      return (.object (Assoc.ofPairs pairs), after)) := by
  have hskip : skip ⟨cs, index + 1⟩ = ⟨cs, index + 1⟩ := skip_opens h
  obtain ⟨c, cs, rfl, -, -, hbrace⟩ := h
  rw [readValue]
  simp only [hskip]
  split
  · rename_i hnil
    exact nomatch hnil
  · rename_i hclosed
    exact absurd (List.cons.inj hclosed).1 hbrace
  · rfl

theorem readItems_last {c : Cursor} {v : Value} {i : Nat}
    (h : readValue strict fuel .list c = .ok (v, ⟨']' :: rest, i⟩)) :
    readItems strict (fuel + 1) c = .ok ([v], ⟨rest, i + 1⟩) := by
  have hskip : skip ⟨']' :: rest, i⟩ = ⟨']' :: rest, i⟩ := skip_of_not_isSpace rfl
  rw [readItems, h]
  dsimp only [Bind.bind, Except.bind]
  rw [hskip]
  rfl

theorem readItems_cons {c : Cursor} {v : Value} {i : Nat} (hcs : Opens cs)
    (h : readValue strict fuel .list c = .ok (v, ⟨',' :: ' ' :: cs, i⟩)) :
    readItems strict (fuel + 1) c =
      (readItems strict fuel ⟨cs, i + 2⟩ >>= fun (vs, after) => return (v :: vs, after)) := by
  have hcomma : skip ⟨',' :: ' ' :: cs, i⟩ = ⟨',' :: ' ' :: cs, i⟩ := skip_of_not_isSpace rfl
  have hnext : skip ⟨' ' :: cs, i + 1⟩ = ⟨cs, i + 2⟩ := skip_blank hcs
  obtain ⟨d, ds, rfl, -, hbracket, -⟩ := hcs
  rw [readItems, h]
  dsimp only [Bind.bind, Except.bind]
  rw [hcomma]
  dsimp only
  show (if ((skip ⟨' ' :: d :: ds, i + 1⟩).rest.head? == some ']') = true then _
    else readItems strict fuel (skip ⟨' ' :: d :: ds, i + 1⟩) >>= fun (vs, last) => pure (v :: vs, last)) = _
  rw [hnext]
  exact if_neg (fun h => hbracket (Option.some.inj (eq_of_beq h)))

theorem readEntries_last (k : String) (index : Nat) {v : Value} (hopens : Opens (write v))
    (h : ∀ i, ∃ j, readValue strict fuel .object ⟨write v ++ '\x7d' :: rest, i⟩ =
      .ok (v, ⟨'\x7d' :: rest, j⟩)) :
    ∃ j, readEntries strict (fuel + 1) ⟨writeText k ++ ':' :: ' ' :: (write v ++ '\x7d' :: rest), index⟩ =
      .ok ([(k, v)], ⟨rest, j⟩) := by
  obtain ⟨i, hkey⟩ := readText_whole strict k (':' :: ' ' :: (write v ++ '\x7d' :: rest)) index (index + 1)
  obtain ⟨j, hvalue⟩ := h (i + 2)
  have hcolon : ∀ cs, skip ⟨':' :: cs, i⟩ = ⟨':' :: cs, i⟩ := fun cs => skip_of_not_isSpace rfl
  have hbrace : skip ⟨'\x7d' :: rest, j⟩ = ⟨'\x7d' :: rest, j⟩ := skip_of_not_isSpace rfl
  refine ⟨j + 1, ?_⟩
  rw [writeText_append, readEntries]
  show (readText strict index _ _ >>= _) = _
  rw [hkey]
  dsimp only [Bind.bind, Except.bind]
  rw [hcolon]
  show (readValue strict fuel .object (skip ⟨' ' :: _, i + 1⟩) >>= _) = _
  rw [skip_blank (hopens.append _), hvalue]
  dsimp only [Bind.bind, Except.bind]
  rw [hbrace]
  show Except.ok ([(String.ofList k.toList, v)], _) = _
  rw [String.ofList_toList]

theorem readEntries_cons (k : String) (index : Nat) {v : Value} (hopens : Opens (write v)) (hcs : Opens cs)
    (h : ∀ i, ∃ j, readValue strict fuel .object ⟨write v ++ ',' :: ' ' :: cs, i⟩ =
      .ok (v, ⟨',' :: ' ' :: cs, j⟩)) :
    ∃ j, readEntries strict (fuel + 1) ⟨writeText k ++ ':' :: ' ' :: (write v ++ ',' :: ' ' :: cs), index⟩ =
      (readEntries strict fuel ⟨cs, j⟩ >>= fun (entries, after) => return ((k, v) :: entries, after)) := by
  obtain ⟨i, hkey⟩ := readText_whole strict k (':' :: ' ' :: (write v ++ ',' :: ' ' :: cs)) index (index + 1)
  obtain ⟨j, hvalue⟩ := h (i + 2)
  have hcolon : ∀ cs, skip ⟨':' :: cs, i⟩ = ⟨':' :: cs, i⟩ := fun cs => skip_of_not_isSpace rfl
  have hcomma : skip ⟨',' :: ' ' :: cs, j⟩ = ⟨',' :: ' ' :: cs, j⟩ := skip_of_not_isSpace rfl
  have hnext : skip ⟨' ' :: cs, j + 1⟩ = ⟨cs, j + 2⟩ := skip_blank hcs
  obtain ⟨d, ds, rfl, -, -, hbrace⟩ := hcs
  refine ⟨j + 2, ?_⟩
  rw [writeText_append, readEntries]
  show (readText strict index _ _ >>= _) = _
  rw [hkey]
  dsimp only [Bind.bind, Except.bind]
  rw [hcolon]
  show (readValue strict fuel .object (skip ⟨' ' :: _, i + 1⟩) >>= _) = _
  rw [skip_blank (hopens.append _), hvalue]
  dsimp only [Bind.bind, Except.bind]
  rw [hcomma]
  show (if ((skip ⟨' ' :: d :: ds, j + 1⟩).rest.head? == some '\x7d') = true then _
    else readEntries strict fuel (skip ⟨' ' :: d :: ds, j + 1⟩) >>= fun (entries, last) =>
      pure ((String.ofList k.toList, v) :: entries, last)) = _
  rw [hnext, String.ofList_toList]
  exact if_neg (fun h => hbrace (Option.some.inj (eq_of_beq h)))

/-! ### Values -/

theorem writeItems_opens {items : List Value} (hne : items ≠ []) (h : ∀ v ∈ items, Representable v) :
    Opens (writeItems items) := by
  match items with
  | [v] => exact write_opens (h v (List.mem_singleton_self v))
  | v :: w :: rest => exact (write_opens (h v (List.mem_cons_self ..))).append _

theorem writeEntries_opens {entries : Entries} (hne : entries ≠ []) : Opens (writeEntries entries) := by
  match entries with
  | [(k, v)] => exact ⟨'"', _, rfl, by decide⟩
  | (k, v) :: w :: rest => exact ⟨'"', _, rfl, by decide⟩

theorem length_write_pos {v : Value} (h : Representable v) : 0 < (write v).length := by
  obtain ⟨c, cs, heq, -⟩ := write_opens h
  rw [heq]
  exact Nat.succ_pos _

theorem writeItems_cons (v w : Value) (items : List Value) :
    writeItems (v :: w :: items) = write v ++ ',' :: ' ' :: writeItems (w :: items) := by
  rw [writeItems]
  exact List.cons_ne_nil _ _

theorem writeEntries_cons (k : String) (v : Value) (e : String × Value) (entries : Entries) :
    writeEntries ((k, v) :: e :: entries) =
      writeText k ++ ':' :: ' ' :: (write v ++ ',' :: ' ' :: writeEntries (e :: entries)) := by
  rw [writeEntries, List.append_assoc, List.cons_append, List.cons_append]
  exact List.cons_ne_nil _ _

mutual

/-- A value reads back with as many steps as it has characters. -/
theorem readValue_write (strict : Bool) : ∀ v, Representable v → ∀ {fuel : Nat}, (write v).length ≤ fuel + 1 →
    ∀ (place : Place) (index : Nat) {rest : List Char}, EndsNumber rest →
      ∃ j, readValue strict (fuel + 1) place ⟨write v ++ rest, index⟩ = .ok (v, ⟨rest, j⟩)
  | .null, _, fuel, _, place, index, rest, _ => ⟨_, by rw [readValue]; exact readWord_append ..⟩
  | .bool true, _, fuel, _, place, index, rest, _ => ⟨_, by rw [readValue]; exact readWord_append ..⟩
  | .bool false, _, fuel, _, place, index, rest, _ => ⟨_, by rw [readValue]; exact readWord_append ..⟩
  | .int n, _, fuel, _, place, index, rest, hrest => by
    obtain ⟨negative, numeral, hwell, htext, hvalue⟩ := exists_writtenAs_int n
    rw [htext, ← hvalue]
    exact readValue_numeral hwell hrest
  | .float x, h, fuel, _, place, index, rest, hrest => by
    cases h with
    | float finite =>
      obtain ⟨negative, numeral, hwell, htext, hvalue⟩ := exists_writtenAs_float finite
      rw [htext, ← hvalue]
      exact readValue_numeral hwell hrest
  | .str s, _, fuel, _, place, index, rest, _ => readValue_text s
  | .list items, h, fuel, hfuel, place, index, rest, _ => by
    cases h with
    | list parts =>
      by_cases hne : items = []
      · rw [hne]
        exact ⟨_, by rw [readValue]; rfl⟩
      rw [write] at hfuel ⊢
      rw [List.length_append, List.length_cons, List.length_singleton] at hfuel
      obtain ⟨fuel, rfl⟩ := Nat.exists_eq_add_one_of_ne_zero (by omega : fuel ≠ 0)
      have hitems : (writeItems items).length ≤ fuel := by omega
      obtain ⟨j, hread⟩ := readItems_write strict items hne parts hitems (index + 1)
      refine ⟨j, ?_⟩
      rw [List.append_assoc, List.cons_append, List.singleton_append,
        readValue_list ((writeItems_opens hne parts).append _), hread]
      rfl
  | .object entries, h, fuel, hfuel, place, index, rest, _ => by
    cases h with
    | object nodup parts =>
      by_cases hne : entries = []
      · rw [hne]
        exact ⟨_, by rw [readValue]; rfl⟩
      rw [write] at hfuel ⊢
      rw [List.length_append, List.length_cons, List.length_singleton] at hfuel
      obtain ⟨fuel, rfl⟩ := Nat.exists_eq_add_one_of_ne_zero (by omega : fuel ≠ 0)
      have hentries : (writeEntries entries).length ≤ fuel := by omega
      have hpairs : Assoc.ofPairs entries = entries := @Assoc.overlay_eq_append _ [] _ nodup
      obtain ⟨j, hread⟩ := readEntries_write strict entries hne parts hentries (index + 1)
      refine ⟨j, ?_⟩
      rw [List.append_assoc, List.cons_append, List.singleton_append,
        readValue_object ((writeEntries_opens hne).append _), hread]
      show Except.ok (Value.object (Assoc.ofPairs entries), _) = _
      rw [hpairs]

/-- Items read back with one step more than they have characters. -/
theorem readItems_write (strict : Bool) : ∀ items, items ≠ [] → (∀ v ∈ items, Representable v) →
    ∀ {fuel : Nat}, (writeItems items).length ≤ fuel → ∀ (index : Nat) {rest : List Char},
      ∃ j, readItems strict (fuel + 1) ⟨writeItems items ++ ']' :: rest, index⟩ = .ok (items, ⟨rest, j⟩)
  | [], hne, _, _, _, _, _ => absurd rfl hne
  | [v], _, h, fuel, hfuel, index, rest => by
    have hv := h v (List.mem_singleton_self v)
    have hpos := length_write_pos hv
    rw [writeItems] at hfuel ⊢
    obtain ⟨fuel, rfl⟩ := Nat.exists_eq_add_one_of_ne_zero (by omega : fuel ≠ 0)
    obtain ⟨j, hread⟩ := readValue_write strict v hv hfuel .list index (endsNumber_mark (c := ']') (by decide) rest)
    exact ⟨j + 1, readItems_last hread⟩
  | v :: w :: items, _, h, fuel, hfuel, index, rest => by
    have hv := h v (List.mem_cons_self ..)
    have hrest := fun u hu => h u (List.mem_cons_of_mem v hu)
    rw [writeItems_cons] at hfuel ⊢
    rw [List.length_append, List.length_cons, List.length_cons] at hfuel
    obtain ⟨fuel, rfl⟩ := Nat.exists_eq_add_one_of_ne_zero (by omega : fuel ≠ 0)
    have hfirst : (write v).length ≤ fuel + 1 := by omega
    have hothers : (writeItems (w :: items)).length ≤ fuel := by omega
    have hopens := (writeItems_opens (List.cons_ne_nil w items) hrest).append (']' :: rest)
    obtain ⟨i, hread⟩ := readValue_write strict v hv hfirst .list index
      (endsNumber_mark (c := ',') (by decide) (' ' :: (writeItems (w :: items) ++ ']' :: rest)))
    obtain ⟨j, hitems⟩ := readItems_write strict (w :: items) (List.cons_ne_nil w items) hrest hothers (i + 2)
    refine ⟨j, ?_⟩
    rw [List.append_assoc, List.cons_append, List.cons_append, readItems_cons hopens hread, hitems]
    rfl

/-- Entries read back with one step more than they have characters. -/
theorem readEntries_write (strict : Bool) : ∀ entries : Entries, entries ≠ [] →
    (∀ e ∈ entries, Representable e.2) →
    ∀ {fuel : Nat}, (writeEntries entries).length ≤ fuel → ∀ (index : Nat) {rest : List Char},
      ∃ j, readEntries strict (fuel + 1) ⟨writeEntries entries ++ '\x7d' :: rest, index⟩ =
        .ok (entries, ⟨rest, j⟩)
  | [], hne, _, _, _, _, _ => absurd rfl hne
  | [(k, v)], _, h, fuel, hfuel, index, rest => by
    have hv : Representable v := h (k, v) (List.mem_singleton_self _)
    rw [writeEntries] at hfuel ⊢
    rw [List.length_append, List.length_cons, List.length_cons] at hfuel
    obtain ⟨fuel, rfl⟩ := Nat.exists_eq_add_one_of_ne_zero (by omega : fuel ≠ 0)
    have hvalue : (write v).length ≤ fuel + 1 := by omega
    rw [List.append_assoc, List.cons_append, List.cons_append]
    exact readEntries_last k index (write_opens hv) fun i =>
      readValue_write strict v hv hvalue .object i (endsNumber_mark (c := '\x7d') (by decide) rest)
  | (k, v) :: e :: entries, _, h, fuel, hfuel, index, rest => by
    have hv : Representable v := h (k, v) (List.mem_cons_self ..)
    have hrest := fun u hu => h u (List.mem_cons_of_mem (k, v) hu)
    rw [writeEntries_cons] at hfuel ⊢
    rw [List.length_append, List.length_cons, List.length_cons, List.length_append, List.length_cons,
      List.length_cons] at hfuel
    obtain ⟨fuel, rfl⟩ := Nat.exists_eq_add_one_of_ne_zero (by omega : fuel ≠ 0)
    have hvalue : (write v).length ≤ fuel + 1 := by omega
    have hothers : (writeEntries (e :: entries)).length ≤ fuel := by omega
    have hopens := (writeEntries_opens (List.cons_ne_nil e entries)).append ('\x7d' :: rest)
    obtain ⟨i, hread⟩ := readEntries_cons k index (write_opens hv) hopens fun i =>
      readValue_write strict v hv hvalue .object i (endsNumber_mark (c := ',') (by decide) _)
    obtain ⟨j, hentries⟩ := readEntries_write strict (e :: entries) (List.cons_ne_nil e entries) hrest hothers i
    refine ⟨j, ?_⟩
    rw [List.append_assoc, List.cons_append, List.cons_append, List.append_assoc, List.cons_append,
      List.cons_append, hread, hentries]
    rfl

end

/-- **Written values read back**, whether surrogates without a partner are refused or not. -/
theorem readWith_render {v : Value} (h : Representable v) : readWith strict (render v) = .ok v := by
  have hopens := write_opens h
  have hfuel : (write v).length ≤ 2 * (write v).length + 1 + 1 := by omega
  obtain ⟨j, hread⟩ := readValue_write strict v h hfuel .whole 0 endsNumber_nil
  rw [List.append_nil] at hread
  rw [readWith, render, String.toList_ofList, skip_opens hopens, hread]
  rfl

end Colloquy.Json
