import Colloquy.Proofs.Run.Keeps
import Colloquy.Source.Build
import Colloquy.Source.Content
import Mathlib.Data.List.GetD
import Mathlib.Data.List.Nodup

/-!
# Positions of lists

A list source and everything that is derived from it form a family (`ListFamily`).  Its members are drawn on in any
order, and further ones may be derived at any time; each has a position of its own, which begins where its parent's
stands.  So a member answers its draws one place after the other, counted from there, without regard to the others:
round and round if the list loops, and otherwise up to its end, where the position rests (`Deals`, `standing`).

That a position may rest behind the last item and wraps no sooner than with the next draw is what `standing` accounts
for; a member that begins there begins at the first item if the list loops, and with none at all if it does not.
-/

namespace Colloquy

namespace Source

variable {σ : Type} {items : List Content} {loop : Bool} {place start draws cell : Nat} {w : Surroundings σ}
  {s : Session} {feedback : Option String} {st st' : State σ} {answer : Except Failure Content}

/-! ### What is dealt -/

/-- The failure of a list that is used up. -/
def usedUp (items : List Content) : Failure :=
  .generation s!"ListSource exhausted after {items.length} item(s)" (.bool false) none

/-- What a list deals at a place, where the places behind the last item belong to further rounds of a list that loops
and to nothing in any other one. -/
inductive Deals (items : List Content) (loop : Bool) (place : Nat) : Except Failure Content → Prop
  | looping {c : Content} (hloop : loop = true) (hitem : items[place % items.length]? = some c) :
    Deals items loop place (.ok c)
  | item {c : Content} (hloop : loop = false) (hitem : items[place]? = some c) : Deals items loop place (.ok c)
  | usedUp (hloop : loop = false) (hplace : items.length ≤ place) : Deals items loop place (.error (usedUp items))

/-- Where a position stands, among a number of items, that began at a place and was drawn on some times. -/
def standing (n : Nat) (loop : Bool) (start draws : Nat) : Nat :=
  if loop then if draws = 0 then start else (start + draws - 1) % n + 1 else min (start + draws) n

theorem standing_zero {n : Nat} (h : start ≤ n) : standing n loop start 0 = start := by
  cases loop with
  | true => rfl
  | false => exact Nat.min_eq_left h

theorem standing_le {n : Nat} (hn : 0 < n) (h : start ≤ n) (draws : Nat) : standing n loop start draws ≤ n := by
  unfold standing
  split
  · split
    · exact h
    · exact Nat.mod_lt _ hn
  · exact Nat.min_le_right ..

/-! ### One draw -/

theorem exec_nextItem_of_lt {position : Nat} (hposition : st.cursors.get cell = position)
    (h : position < items.length) : (nextItem items loop cell).exec w st =
      (.ok items[position], { st with cursors := st.cursors.set cell (position + 1) }) := by
  subst hposition
  rw [nextItem, Run.exec_bind_ok _ Run.exec_get, if_pos h, Run.exec_bind_ok _ (Run.exec_pure _),
    Run.exec_bind_ok _ (Run.exec_modify _), Run.exec_pure, List.getD_eq_getElem _ _ h]

theorem exec_nextItem_wrap (hposition : items.length ≤ st.cursors.get cell) (h : 0 < items.length) :
    (nextItem items true cell).exec w st =
      (.ok items[0], { st with cursors := st.cursors.set cell 1 }) := by
  rw [nextItem, Run.exec_bind_ok _ Run.exec_get, if_neg (Nat.not_lt.2 hposition), if_pos rfl,
    Run.exec_bind_ok _ (Run.exec_pure _), Run.exec_bind_ok _ (Run.exec_modify _), Run.exec_pure,
    List.getD_eq_getElem _ _ h]

theorem exec_nextItem_usedUp (hposition : items.length ≤ st.cursors.get cell) :
    (nextItem items false cell).exec w st = (.error (usedUp items), st) := by
  rw [nextItem, Run.exec_bind_ok _ Run.exec_get, if_neg (Nat.not_lt.2 hposition), if_neg Bool.false_ne_true]
  exact Run.exec_bind_error _ (Run.exec_throw _)

/-- On a list that loops, the next item is the one at the position, or the first one behind the last. -/
theorem standing_mod {n : Nat} (start draws : Nat) : standing n true start draws % n = (start + draws) % n := by
  rw [standing, if_pos rfl]
  split
  · rename_i hdraws
    rw [hdraws, Nat.add_zero]
  · rename_i hdraws
    rw [Nat.mod_add_mod, Nat.sub_add_cancel (by omega)]

theorem standing_looping_succ {n : Nat} (start draws : Nat) :
    standing n true start (draws + 1) = (start + draws) % n + 1 := by
  rw [standing, if_pos rfl, if_neg (Nat.succ_ne_zero draws)]
  rfl

/-- **One draw** from a position that stands where it should. -/
theorem nextItem_standing (hitems : items ≠ []) (hstart : start ≤ items.length)
    (hstands : st.cursors.get cell = standing items.length loop start draws) (w : Surroundings σ) :
    ∃ answer cursors, (nextItem items loop cell).exec w st = (answer, { st with cursors }) ∧
      Deals items loop (start + draws) answer ∧ cursors.get cell = standing items.length loop start (draws + 1) ∧
      ∀ other ≠ cell, cursors.get other = st.cursors.get other := by
  have hn : 0 < items.length := List.length_pos_iff.2 hitems
  have hset (position : Nat) : (st.cursors.set cell position).get cell = position ∧
      ∀ other ≠ cell, (st.cursors.set cell position).get other = st.cursors.get other := by
    refine ⟨?_, fun other hother => ?_⟩
    · rw [Cells.get_set, if_pos rfl]
    · rw [Cells.get_set, if_neg (Ne.symm hother)]
  cases loop with
  | true =>
    have hnext := standing_looping_succ (n := items.length) start draws
    rw [← standing_mod, ← hstands] at hnext
    have hle : standing items.length true start draws ≤ items.length := standing_le hn hstart draws
    rw [← hstands] at hle
    rcases Nat.lt_or_ge (st.cursors.get cell) items.length with hlt | hge
    · rw [Nat.mod_eq_of_lt hlt] at hnext
      refine ⟨_, _, exec_nextItem_of_lt rfl hlt, .looping rfl ?_, ?_, (hset _).2⟩
      · rw [← standing_mod, ← hstands, Nat.mod_eq_of_lt hlt, List.getElem?_eq_getElem hlt]
      · rw [hnext, (hset _).1]
    · have hend : st.cursors.get cell % items.length = 0 := by
        rw [Nat.le_antisymm hle hge, Nat.mod_self]
      refine ⟨_, _, exec_nextItem_wrap hge hn, .looping rfl ?_, ?_, (hset _).2⟩
      · rw [← standing_mod, ← hstands, hend, List.getElem?_eq_getElem hn]
      · rw [hnext, hend, (hset _).1]
  | false =>
    have hmin (draws : Nat) : standing items.length false start draws = min (start + draws) items.length := rfl
    rw [hmin] at hstands
    rcases Nat.lt_or_ge (st.cursors.get cell) items.length with hlt | hge
    · have hplace : st.cursors.get cell = start + draws := by omega
      refine ⟨_, _, exec_nextItem_of_lt rfl hlt, .item rfl ?_, ?_, (hset _).2⟩
      · rw [← hplace, List.getElem?_eq_getElem hlt]
      · rw [(hset _).1, hmin]
        omega
    · refine ⟨_, st.cursors, exec_nextItem_usedUp hge, .usedUp rfl (by omega), ?_, fun _ _ => rfl⟩
      rw [hstands, hmin]
      omega

/-! ### Copies -/

/-- The cell of a list's position. -/
def cell? (src : Source σ) : Option Nat :=
  match src.origin with
  | .list _ _ cell => some cell
  | _ => none

/-- Where the position of a list stands. -/
def index? (src : Source σ) (st : State σ) : Option Nat := src.cell?.map st.cursors.get

/-- The builders, each of which makes a copy with another policy. -/
inductive Builder : (Source σ → Run σ (Source σ)) → Prop
  | withPolicy (policy : Policy σ) : Builder (·.withPolicy policy)
  | validate (v : Validator σ) : Builder (·.validate v)
  | withMaxAttempts (n : Int) : Builder (·.withMaxAttempts n)
  | withRaiseOnFailure (raiseOnFailure : Bool) : Builder (·.withRaiseOnFailure raiseOnFailure)
  | use (m : Middleware σ) : Builder (·.use m)
  | withRetry (config : Option (RetryPolicy σ)) (change : RetryPolicy σ → RetryPolicy σ) :
    Builder (·.withRetry config change)

theorem Builder.copies {build : Source σ → Run σ (Source σ)} (h : Builder build) {src own : Source σ}
    (hexec : (build src).exec w st = (.ok own, st')) :
    ∃ policy, (src.withPolicy policy).exec w st = (.ok own, st') := by
  cases h with
  | withMaxAttempts n =>
    obtain ⟨policy, st₁, hpolicy, hcopy⟩ := Run.exec_of_bind_ok hexec
    rw [Run.exec_ofExcept] at hpolicy
    rw [← (Prod.mk.inj hpolicy).2] at hcopy
    exact ⟨policy, hcopy⟩
  | _ => exact ⟨_, hexec⟩

/-- A copy of a list has a cell of its own, in which the position of its parent stands. -/
theorem exec_withPolicy_list {src : Source σ} (h : src.origin = .list items loop cell) (policy : Policy σ) :
    (src.withPolicy policy).exec w st = (.ok ⟨.list items loop st.cells, policy⟩, { st with
      cells := st.cells + 1
      cursors := st.cursors.set st.cells (st.cursors.get cell) }) := by
  rw [withPolicy, h]
  rfl

/-- A list has at least one item, and a cell of its own for its position. -/
theorem exec_list_ok {policy : Policy σ} {src : Source σ} (h : (list items loop policy).exec w st = (.ok src, st')) :
    items ≠ [] ∧ src = ⟨.list items loop st.cells, policy⟩ ∧ st' = { st with cells := st.cells + 1 } := by
  rw [list] at h
  by_cases hempty : items.isEmpty = true
  · rw [if_pos hempty, Run.exec_bind_error _ (Run.exec_throw _)] at h
    exact nomatch h
  · rw [if_neg hempty] at h
    cases h
    exact ⟨mt List.isEmpty_iff.2 hempty, rfl, rfl⟩

end Source

/-! ### Families -/

variable {σ : Type}

/-- A member of a family: where its position began, and what the draws on it have answered so far. -/
structure Member (σ : Type) where
  source : Source σ
  start : Nat
  answers : List (Except Failure Content) := []

/-- The member after a further draw. -/
def Member.drawn (m : Member σ) (answer : Except Failure Content) : Member σ :=
  { m with answers := m.answers ++ [answer] }

/-- The states that a list source is used in together with all that is derived from it, each with the members that
there are by then and what they have answered. -/
inductive ListFamily (items : List Content) (loop : Bool) : List (Member σ) → State σ → Prop
  /-- The cell that the list is given has not been used before. -/
  | root {w policy src st st'} (hexec : (Source.list items loop policy).exec w st = (.ok src, st'))
    (hfresh : st.cursors.get st.cells = 0) : ListFamily items loop [{ source := src, start := 0 }] st'
  /-- A further member begins where the position of its parent stands. -/
  | derive {members parent build own start w st st'} (h : ListFamily items loop members st) (hparent : parent ∈ members)
    (hbuild : Source.Builder build) (hstart : parent.source.index? st = some start)
    (hexec : (build parent.source).exec w st = (.ok own, st')) :
    ListFamily items loop (members ++ [{ source := own, start }]) st'
  | draw {members i m answer w s feedback st st'} (h : ListFamily items loop members st) (hm : members[i]? = some m)
    (hexec : (Source.generate m.source.origin s feedback).exec w st = (answer, st')) :
    ListFamily items loop (members.set i (m.drawn answer)) st'
  /-- Something else happens that leaves the positions where they stand. -/
  | meanwhile {members st st'} (h : ListFamily items loop members st) (hcells : st.cells ≤ st'.cells)
    (hindex : ∀ m ∈ members, m.source.index? st' = m.source.index? st) : ListFamily items loop members st'

variable {items : List Content} {loop : Bool} {members : List (Member σ)} {m other : Member σ} {i j : Nat}
  {w : Surroundings σ} {st st' : State σ}

/-- What is true of a member whose position is in a cell. -/
structure Member.Steady (items : List Content) (loop : Bool) (st : State σ) (m : Member σ) (cell : Nat) : Prop where
  origin : m.source.origin = .list items loop cell
  given : cell < st.cells
  start_le : m.start ≤ items.length
  stands : st.cursors.get cell = Source.standing items.length loop m.start m.answers.length
  deals : ∀ k answer, m.answers[k]? = some answer → Source.Deals items loop (m.start + k) answer

/-- What is true of a family: every member keeps to its order, and no two of them share a cell. -/
structure ListFamily.Steady (items : List Content) (loop : Bool) (members : List (Member σ)) (st : State σ) : Prop where
  items_ne_nil : items ≠ []
  member : ∀ m ∈ members, ∃ cell, m.Steady items loop st cell
  apart : (members.map (·.source.cell?)).Nodup

namespace Member.Steady

variable {cell : Nat}

theorem cell?_eq (h : m.Steady items loop st cell) : m.source.cell? = some cell := by
  rw [Source.cell?, h.origin]

theorem index?_eq (h : m.Steady items loop st cell) (st' : State σ) :
    m.source.index? st' = some (st'.cursors.get cell) := by
  rw [Source.index?, h.cell?_eq, Option.map_some]

/-- A member stays steady while its position is left alone. -/
theorem of_get (h : m.Steady items loop st cell) (hcells : st.cells ≤ st'.cells)
    (hget : st'.cursors.get cell = st.cursors.get cell) : m.Steady items loop st' cell :=
  { h with given := Nat.lt_of_lt_of_le h.given hcells, stands := hget.trans h.stands }

/-- A member stays steady when it is drawn on. -/
theorem drawn {answer : Except Failure Content} {cursors : Cells Nat} (h : m.Steady items loop st cell)
    (hdeals : Source.Deals items loop (m.start + m.answers.length) answer)
    (hstands : cursors.get cell = Source.standing items.length loop m.start (m.answers.length + 1)) :
    (m.drawn answer).Steady items loop { st with cursors } cell where
  origin := h.origin
  given := h.given
  start_le := h.start_le
  stands := by
    rw [hstands, Member.drawn, List.length_append, List.length_singleton]
  deals k later hlater := by
    rcases Nat.lt_or_ge k m.answers.length with hlt | hge
    · rw [Member.drawn, List.getElem?_append_left hlt] at hlater
      exact h.deals k later hlater
    · rw [Member.drawn, List.getElem?_append_right hge, List.getElem?_singleton] at hlater
      obtain ⟨hlast, hanswer⟩ := Option.ite_none_right_eq_some.1 hlater
      obtain rfl : k = m.answers.length := Nat.le_antisymm (Nat.sub_eq_zero_iff_le.1 hlast) hge
      rw [← Option.some.inj hanswer]
      exact hdeals

end Member.Steady

theorem set_of_getElem? {α : Type} {l : List α} {a : α} (h : l[i]? = some a) : l.set i a = l := by
  obtain ⟨hi, rfl⟩ := List.getElem?_eq_some_iff.1 h
  exact List.set_getElem_self hi

namespace ListFamily.Steady

theorem root {policy : Policy σ} {src : Source σ}
    (hexec : (Source.list items loop policy).exec w st = (.ok src, st')) (hfresh : st.cursors.get st.cells = 0) :
    Steady items loop [{ source := src, start := 0 }] st' := by
  obtain ⟨hitems, rfl, rfl⟩ := Source.exec_list_ok hexec
  refine ⟨hitems, List.forall_mem_singleton.2 ⟨st.cells, ?_⟩, List.nodup_singleton _⟩
  exact ⟨rfl, Nat.lt_succ_self _, Nat.zero_le _, hfresh.trans (Source.standing_zero (Nat.zero_le _)).symm, nofun⟩

theorem derive (h : Steady items loop members st) {parent : Member σ} {build : Source σ → Run σ (Source σ)}
    {own : Source σ} {start : Nat} (hparent : parent ∈ members) (hbuild : Source.Builder build)
    (hstart : parent.source.index? st = some start) (hexec : (build parent.source).exec w st = (.ok own, st')) :
    Steady items loop (members ++ [{ source := own, start }]) st' := by
  obtain ⟨cell, hsteady⟩ := h.member parent hparent
  obtain ⟨policy, hcopy⟩ := hbuild.copies hexec
  rw [Source.exec_withPolicy_list hsteady.origin] at hcopy
  cases hcopy
  have hstart : st.cursors.get cell = start := Option.some.inj ((hsteady.index?_eq st).symm.trans hstart)
  have hle : start ≤ items.length := by
    rw [← hstart, hsteady.stands]
    exact Source.standing_le (List.length_pos_iff.2 h.items_ne_nil) hsteady.start_le _
  refine ⟨h.items_ne_nil, List.forall_mem_append.2 ⟨fun m hm => ?_, List.forall_mem_singleton.2 ⟨st.cells, ?_⟩⟩, ?_⟩
  · obtain ⟨cell, hm⟩ := h.member m hm
    refine ⟨cell, hm.of_get (Nat.le_succ _) ?_⟩
    rw [Cells.get_set, if_neg (Nat.ne_of_gt hm.given)]
  · refine ⟨rfl, Nat.lt_succ_self _, hle, ?_, nofun⟩
    rw [Cells.get_set, if_pos rfl, hstart]
    exact (Source.standing_zero hle).symm
  · -- The cell is new, so none of the members has it.
    rw [List.map_append]
    refine h.apart.append (List.nodup_singleton _) (List.disjoint_singleton.2 fun hcell => ?_)
    obtain ⟨m, hm, hsame⟩ := List.mem_map.1 hcell
    obtain ⟨cell, hm⟩ := h.member m hm
    rw [hm.cell?_eq] at hsame
    exact absurd hm.given (Nat.not_lt.2 (Nat.le_of_eq (Option.some.inj hsame).symm))

/-- Different members have different cells. -/
theorem cell?_ne (h : Steady items loop members st) (hm : members[i]? = some m) (hother : members[j]? = some other)
    (hne : j ≠ i) : other.source.cell? ≠ m.source.cell? := by
  intro hsame
  have hj : j < (members.map (·.source.cell?)).length := by
    rw [List.length_map]
    exact (List.getElem?_eq_some_iff.1 hother).1
  refine hne ((List.getElem?_inj hj h.apart).1 ?_)
  rw [List.getElem?_map, List.getElem?_map, hm, hother, Option.map_some, Option.map_some, hsame]

/-- **One generation.**  It deals what is due, and moves no position but that of its member. -/
theorem generate (h : Steady items loop members st) (hm : members[i]? = some m) (s : Session) (feedback : Option String)
    (w : Surroundings σ) :
    ∃ answer cursors, (Source.generate m.source.origin s feedback).exec w st = (answer, { st with cursors }) ∧
      Source.Deals items loop (m.start + m.answers.length) answer ∧
      Steady items loop (members.set i (m.drawn answer)) { st with cursors } ∧
      ∀ j other, j ≠ i → members[j]? = some other →
        other.source.index? { st with cursors } = other.source.index? st := by
  obtain ⟨cell, hsteady⟩ := h.member m (List.mem_of_getElem? hm)
  obtain ⟨answer, cursors, hexec, hdeals, hstands, helsewhere⟩ :=
    Source.nextItem_standing h.items_ne_nil hsteady.start_le hsteady.stands w
  have hothers : ∀ j other, j ≠ i → members[j]? = some other → ∃ cell', other.Steady items loop st cell' ∧
      cursors.get cell' = st.cursors.get cell' := by
    intro j other hj hother
    obtain ⟨cell', hcell'⟩ := h.member other (List.mem_of_getElem? hother)
    have hne := h.cell?_ne hm hother hj
    rw [hcell'.cell?_eq, hsteady.cell?_eq] at hne
    exact ⟨cell', hcell', helsewhere cell' fun hsame => hne (congrArg some hsame)⟩
  refine ⟨answer, cursors, ?_, hdeals, ⟨h.items_ne_nil, fun m' hm' => ?_, ?_⟩, fun j other hj hother => ?_⟩
  · rw [hsteady.origin]
    exact hexec
  · obtain ⟨j, hj⟩ := List.getElem?_of_mem hm'
    by_cases hsame : i = j
    · subst hsame
      rw [List.getElem?_set_self (List.getElem?_eq_some_iff.1 hm).1] at hj
      cases hj
      exact ⟨cell, hsteady.drawn hdeals hstands⟩
    · rw [List.getElem?_set_ne hsame] at hj
      obtain ⟨cell', hcell', hget⟩ := hothers j m' (Ne.symm hsame) hj
      exact ⟨cell', hcell'.of_get (Nat.le_refl _) hget⟩
  · have hcell : (members.map (·.source.cell?))[i]? = some (m.drawn answer).source.cell? := by
      rw [List.getElem?_map, hm]
      rfl
    rw [List.map_set, set_of_getElem? hcell]
    exact h.apart
  · obtain ⟨cell', hcell', hget⟩ := hothers j other hj hother
    rw [hcell'.index?_eq, hcell'.index?_eq, hget]

theorem meanwhile (h : Steady items loop members st) (hcells : st.cells ≤ st'.cells)
    (hindex : ∀ m ∈ members, m.source.index? st' = m.source.index? st) : Steady items loop members st' := by
  refine ⟨h.items_ne_nil, fun m hm => ?_, h.apart⟩
  obtain ⟨cell, hsteady⟩ := h.member m hm
  have hget := hindex m hm
  rw [hsteady.index?_eq, hsteady.index?_eq] at hget
  exact ⟨cell, hsteady.of_get hcells (Option.some.inj hget)⟩

end ListFamily.Steady

theorem ListFamily.steady (h : ListFamily items loop members st) : ListFamily.Steady items loop members st := by
  induction h with
  | root hexec hfresh => exact .root hexec hfresh
  | derive h hparent hbuild hstart hexec ih => exact ih.derive hparent hbuild hstart hexec
  | draw h hm hexec ih =>
    obtain ⟨answer, cursors, hrun, -, hsteady, -⟩ := ih.generate hm _ _ _
    cases hexec.symm.trans hrun
    exact hsteady
  | meanwhile h hcells hindex ih => exact ih.meanwhile hcells hindex

end Colloquy
