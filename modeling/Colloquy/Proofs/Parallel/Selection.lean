import Colloquy.Proofs.Number.Rank
import Colloquy.Proofs.Parallel.Branches

/-!
# What parallel templates select

All contributions are kept in the order of the branches, or the one that a scorer rates best; of equals it is the
earliest (`FirstBest`).  What is selected is added to the session as it was given, with its echo, so nothing
but its messages changes (`Parallel.run_keeps_or_selects`).  A source that fails takes nothing from the others,
but an answer that cannot be written does (`Parallel.run_isolates_failures`).
-/

namespace Colloquy

/-! ### The first of the best -/

section Leader

variable {α : Type} {b c : α × Float} {before after l : List (α × Float)}

/-- A leader: what stands before it scores less, and what follows it scores no more. -/
structure Leads (before : List (α × Float)) (b : α × Float) (after : List (α × Float)) : Prop where
  before : ∀ c ∈ before, c.2 < b.2
  after : ∀ c ∈ after, c.2 ≤ b.2

/-- The first of the best in a list. -/
def FirstBest (l : List (α × Float)) (b : α × Float) : Prop :=
  ∃ before after, l = before ++ b :: after ∧ Leads before b after

theorem Leads.alone (b : α × Float) : Leads [] b [] := ⟨nofun, nofun⟩

theorem Leads.overtaken (h : Leads before b after) (hc : b.2 < c.2) :
    Leads (before ++ b :: after) c [] := by
  refine ⟨fun d hd => ?_, nofun⟩
  rcases List.mem_append.1 hd with hd | hd
  · exact Number.lt_trans (h.before d hd) hc
  · rcases List.mem_cons.1 hd with rfl | hd
    · exact hc
    · exact Number.lt_of_le_of_lt (h.after d hd) hc

theorem Leads.unmatched (h : Leads before b after) (hc : c.2 ≤ b.2) :
    Leads before b (after ++ [c]) := by
  refine ⟨h.before, fun d hd => ?_⟩
  rcases List.mem_append.1 hd with hd | hd
  · exact h.after d hd
  · rw [List.mem_singleton.1 hd]
    exact hc

/-- The leader after further candidates: one with a higher score takes over. -/
def leader (b : α × Float) : List (α × Float) → α × Float
  | [] => b
  | c :: rest => if b.2 < c.2 then leader c rest else leader b rest

/-- Where all scores are defined, the leader stays the first of the best so far. -/
theorem Leads.leader (h : Leads before b after) (hb : ¬ b.2.isNaN) (hl : ∀ c ∈ l, ¬ c.2.isNaN) :
    FirstBest (before ++ b :: (after ++ l)) (leader b l) := by
  -- The candidates so far stay split at the leader, whichever of them that is.
  induction l generalizing before b after with
  | nil => exact ⟨before, after, by rw [List.append_nil]; rfl, h⟩
  | cons c rest ih =>
    rw [List.forall_mem_cons] at hl
    unfold Colloquy.leader
    split
    · rename_i hless
      have hrest := ih (h.overtaken hless) hl.1 hl.2
      rwa [List.append_assoc] at hrest
    · rename_i hnot
      have hrest := ih (h.unmatched (Number.le_of_not_lt hl.1 hb hnot)) hb hl.2
      rwa [List.append_assoc] at hrest

theorem firstBest_leader (h : ∀ c ∈ b :: l, ¬ c.2.isNaN) : FirstBest (b :: l) (leader b l) := by
  rw [List.forall_mem_cons] at h
  exact (Leads.alone b).leader h.1 h.2

theorem leader_mem (b : α × Float) (l : List (α × Float)) : leader b l ∈ b :: l := by
  induction l generalizing b with
  | nil => exact List.mem_cons_self
  | cons c rest ih =>
    unfold leader
    split
    · exact List.mem_cons_of_mem b (ih c)
    · rcases List.mem_cons.1 (ih b) with h | h
      · rw [h]
        exact List.mem_cons_self
      · exact List.mem_cons_of_mem b (List.mem_cons_of_mem c h)

end Leader

/-! ### Scores -/

namespace Strategy

variable {σ : Type} {scorer : Option (Scorer σ)} {w : Surroundings σ} {st st' : State σ}
  {outcomes : List Session} {s : Session} {scores : List Float} {added : List (List Message)}

/-- A scorer that answers a score for every session. -/
def AlwaysScores (scorer : Option (Scorer σ)) : Prop :=
  ∀ s w, (score scorer s).NeverFails w

/-- A scorer all of whose scores are defined. -/
def NeverUndefined (scorer : Option (Scorer σ)) : Prop :=
  ∀ s w st x st', (score scorer s).exec w st = (.ok x, st') → ¬ x.isNaN

/-- The scores of outcomes, taken one after the other. -/
def scoreAll (scorer : Option (Scorer σ)) : List Session → Run σ (List Float)
  | [] => return []
  | s :: rest => do return (← score scorer s) :: (← scoreAll scorer rest)

theorem exec_scoreAll (h : AlwaysScores scorer) (outcomes : List Session) (w : Surroundings σ)
    (st : State σ) : ∃ scores st', (scoreAll scorer outcomes).exec w st = (.ok scores, st') := by
  induction outcomes generalizing st with
  | nil => exact ⟨[], st, rfl⟩
  | cons s rest ih =>
    obtain ⟨x, st₁, hx⟩ := h s w st
    obtain ⟨xs, st₂, hxs⟩ := ih st₁
    refine ⟨x :: xs, st₂, ?_⟩
    unfold scoreAll
    rw [Run.exec_bind_ok _ hx, Run.exec_bind_ok _ hxs]
    rfl

/-- How scores of several outcomes come about. -/
theorem exec_scoreAll_cons (h : (scoreAll scorer (s :: outcomes)).exec w st = (.ok scores, st')) :
    ∃ x xs st₁, (score scorer s).exec w st = (.ok x, st₁) ∧
      (scoreAll scorer outcomes).exec w st₁ = (.ok xs, st') ∧ scores = x :: xs := by
  obtain ⟨x, st₁, hx, hrest⟩ := Run.exec_of_bind_ok h
  obtain ⟨xs, st₂, hxs, hanswer⟩ := Run.exec_of_bind_ok hrest
  obtain ⟨hscores, rfl⟩ := Prod.mk.inj hanswer
  exact ⟨x, xs, st₁, hx, hxs, (Except.ok.inj hscores).symm⟩

theorem length_scoreAll (h : (scoreAll scorer outcomes).exec w st = (.ok scores, st')) :
    scores.length = outcomes.length := by
  induction outcomes generalizing st scores with
  | nil =>
    obtain rfl := Except.ok.inj (Prod.mk.inj h).1
    rfl
  | cons s rest ih =>
    obtain ⟨x, xs, st₁, -, hxs, rfl⟩ := exec_scoreAll_cons h
    exact congrArg (· + 1) (ih hxs)

theorem defined_scoreAll (hscorer : NeverUndefined scorer)
    (h : (scoreAll scorer outcomes).exec w st = (.ok scores, st')) : ∀ x ∈ scores, ¬ x.isNaN := by
  induction outcomes generalizing st scores with
  | nil =>
    obtain rfl := Except.ok.inj (Prod.mk.inj h).1
    exact nofun
  | cons s rest ih =>
    obtain ⟨x, xs, st₁, hx, hxs, rfl⟩ := exec_scoreAll_cons h
    exact List.forall_mem_cons.2 ⟨hscorer s w st x st₁ hx, ih hxs⟩

/-! ### The best outcome -/

/-- Scoring goes on whoever leads, so the best is the leader among all scores. -/
theorem exec_bestOf {α : Type} (f : α → Session) (b : α × Float) {l : List α}
    (h : (scoreAll scorer (l.map f)).exec w st = (.ok scores, st')) :
    (bestOf scorer (f b.1) b.2 (l.map f)).exec w st =
      (.ok (f (leader b (l.zip scores)).1, (leader b (l.zip scores)).2), st') := by
  induction l generalizing b st scores with
  | nil =>
    obtain ⟨hscores, rfl⟩ := Prod.mk.inj h
    obtain rfl := Except.ok.inj hscores
    rfl
  | cons a rest ih =>
    obtain ⟨x, xs, st₁, hx, hxs, rfl⟩ := exec_scoreAll_cons h
    rw [List.map_cons, bestOf, Run.exec_bind_ok _ hx, List.zip_cons_cons, leader]
    by_cases hless : b.2 < x
    · rw [if_pos hless, if_pos hless]
      exact ih (a, x) hxs
    · rw [if_neg hless, if_neg hless]
      exact ih b hxs

/-- Of outcomes that have all messages on top, the one that leads among the scores is the answer. -/
theorem exec_aggregateBest (hsome : added ≠ []) (hadded : ∀ ms ∈ added, ms ≠ [])
    (h : (scoreAll scorer (added.map s.extend)).exec w st = (.ok scores, st')) :
    ∃ best ∈ added.zip scores, ((∀ x ∈ scores, ¬ x.isNaN) → FirstBest (added.zip scores) best) ∧
      (aggregateBest scorer s (added.map s.extend)).exec w st = (.ok (s.extend best.1),
        { st' with events := st'.events ++ [.bestSelected best.2 added.length] }) := by
  cases added with
  | nil => exact absurd rfl hsome
  | cons first rest =>
    obtain ⟨x, xs, st₁, hx, hxs, rfl⟩ := exec_scoreAll_cons h
    refine ⟨leader (first, x) (rest.zip xs), leader_mem _ _, fun hdefined => ?_, ?_⟩
    · refine firstBest_leader fun c hc => hdefined c.2 ?_
      have hmem : (c.1, c.2) ∈ (first :: rest).zip (x :: xs) := hc
      exact (List.of_mem_zip hmem).2
    · unfold aggregateBest
      rw [Parallel.succeeded_extend hadded]
      simp only [List.map_cons]
      rw [Run.exec_bind_ok _ hx, Run.exec_bind_ok _ (exec_bestOf s.extend (first, x) hxs),
        Run.exec_bind_ok _ (Run.exec_log _), List.length_map]
      rfl

end Strategy

/-! ### Running -/

namespace Parallel

open Strategy

variable {σ : Type} {p : Parallel σ} {asks : Source σ → Session → Task σ Content} {schedule : List Nat} {s : Session}
  {w : Surroundings σ} {st st' : State σ} {ended : List (Except Failure Content)} {scorer : Option (Scorer σ)}

/-- If all content can be written, the contributions are the messages of all answers. -/
theorem map_ok_contributions (h : ∀ c, .ok c ∈ ended → c.IsWritable) :
    (contributions w ended).map .ok = (ended.filterMap Except.toOption).map (·.messages w) := by
  induction ended with
  | nil => rfl
  | cons last rest ih =>
    have hrest := ih fun c hc => h c (List.mem_cons_of_mem last hc)
    unfold contributions at hrest ⊢
    cases last with
    | error f => exact hrest
    | ok c =>
      obtain ⟨m, ms, hmessages, -⟩ := Content.exists_messages (h c List.mem_cons_self) w
      have hsome : contribution? w (.ok c) = some (m :: ms) := by
        simp only [contribution?, hmessages]
        rfl
      rw [List.filterMap_cons_some hsome, List.map_cons, hrest, ← hmessages]
      rfl

theorem contributions_eq_nil_iff (h : ∀ c, .ok c ∈ ended → c.IsWritable) :
    contributions w ended = [] ↔ ∀ c, .ok c ∉ ended := by
  rw [← List.map_eq_nil_iff (f := Except.ok (ε := Failure)), map_ok_contributions h,
    List.map_eq_nil_iff, List.filterMap_eq_nil_iff]
  constructor
  · intro hnone c hc
    exact nomatch hnone (.ok c) hc
  · intro hnone last hlast
    cases last with
    | error f => rfl
    | ok c => exact absurd hlast (hnone c)

/-- All contributions are kept, in order. -/
theorem exec_runBy_keepAll (hstrategy : p.strategy = .keepAll)
    (hask : (askAll asks schedule (s.withEcho false none) p.issueOrder).exec w st = (.ok ended, st'))
    (hwritable : ∀ c, .ok c ∈ ended → c.IsWritable) :
    (p.runBy asks schedule s).exec w st = (s.addAll (contributions w ended).flatten).exec w st' := by
  have hcustom : ∀ f, p.strategy ≠ .custom f := by
    rw [hstrategy]
    exact nofun
  have hnew : ((contributions w ended).map (s.withEcho false none).extend).flatMap
      (newMessages (s.withEcho false none)) = (contributions w ended).flatten := by
    rw [List.flatMap_map]
    simp only [newMessages_extend, List.flatMap_id']
  rw [exec_runBy hcustom hask hwritable, hstrategy]
  show (aggregateAll _ _ >>= s.rejoin).exec w st' = _
  unfold aggregateAll
  rw [hnew, Run.exec_bind_ok _ (Session.exec_addAll_quiet rfl _), Session.rejoin_extend]

/-- If no source answers anything, nothing is selected. -/
theorem exec_runBy_best_of_none (hstrategy : p.strategy = .best scorer)
    (hask : (askAll asks schedule (s.withEcho false none) p.issueOrder).exec w st = (.ok ended, st'))
    (hnone : ∀ c, .ok c ∉ ended) : (p.runBy asks schedule s).exec w st = (.ok s, st') := by
  have hwritable : ∀ c, .ok c ∈ ended → c.IsWritable := fun c hc => absurd hc (hnone c)
  have hcustom : ∀ f, p.strategy ≠ .custom f := by
    rw [hstrategy]
    exact nofun
  rw [exec_runBy hcustom hask hwritable, (contributions_eq_nil_iff hwritable).2 hnone, List.map_nil,
    aggregate_nil_rejoin hcustom, Run.exec_pure]

/-- Of the contributions the one that leads among their scores is kept. -/
theorem exec_runBy_best (hstrategy : p.strategy = .best scorer) (hscorer : AlwaysScores scorer)
    (hask : (askAll asks schedule (s.withEcho false none) p.issueOrder).exec w st = (.ok ended, st'))
    (hwritable : ∀ c, .ok c ∈ ended → c.IsWritable) (hsome : ∃ c, .ok c ∈ ended) :
    ∃ scores st₂, ∃ best ∈ (contributions w ended).zip scores,
      (scoreAll scorer ((contributions w ended).map (s.withEcho false none).extend)).exec w st' =
        (.ok scores, st₂) ∧
      ((∀ x ∈ scores, ¬ x.isNaN) → FirstBest ((contributions w ended).zip scores) best) ∧
      (p.runBy asks schedule s).exec w st = (Run.log (.bestSelected best.2 (contributions w ended).length) >>=
        fun _ => s.addAll best.1).exec w st₂ := by
  have hcustom : ∀ f, p.strategy ≠ .custom f := by
    rw [hstrategy]
    exact nofun
  have hne : contributions w ended ≠ [] := by
    obtain ⟨c, hc⟩ := hsome
    intro hnil
    exact (contributions_eq_nil_iff hwritable).1 hnil c hc
  obtain ⟨scores, st₂, hscores⟩ := exec_scoreAll hscorer
    ((contributions w ended).map (s.withEcho false none).extend) w st'
  obtain ⟨best, hbest, hfirst, haggregate⟩ := exec_aggregateBest hne
    (fun ms => ne_nil_of_mem_contributions) hscores
  refine ⟨scores, st₂, best, hbest, hscores, hfirst, ?_⟩
  rw [exec_runBy hcustom hask hwritable, hstrategy]
  show (aggregateBest scorer _ _ >>= s.rejoin).exec w st' = _
  rw [Run.exec_bind_ok _ haggregate, Run.exec_bind_ok _ (Run.exec_log _), Session.rejoin_extend]

/-- What is added to a session comes to its end, and nothing else of the session changes. -/
theorem fst_exec_addAll (s : Session) (ms : List Message) (w : Surroundings σ) (st : State σ) :
    ((s.addAll ms).exec w st).1 = .ok (s.extend ms) := by
  obtain ⟨st', hexec, -⟩ := s.exec_addAll ms w st
  rw [hexec]

/-- **What is kept.** All sources are asked once for each repetition, on one quiet copy of the session and
whichever of them fail.  If all that they answer can be written, then either the messages of all answers are
added to the session, in order, or those of the earliest answer with the highest score; if there is no answer the
session stays as it is.  How the sources answer, and in which order they go on, is left open. -/
theorem run_keeps_or_selects (p : Parallel σ) (asks : Source σ → Session → Task σ Content) (schedule : List Nat)
    (s : Session) (w : Surroundings σ) (st : State σ) :
    ∃ ended st₁, (askAll asks schedule (s.withEcho false none) p.issueOrder).exec w st = (.ok ended, st₁) ∧
      ended.length = (p.branches.map (·.repetitions.toNat)).sum ∧
      ((∀ c, .ok c ∈ ended → c.IsWritable) →
        (contributions w ended).map .ok = (ended.filterMap Except.toOption).map (·.messages w) ∧
        (p.strategy = .keepAll →
          (p.runBy asks schedule s).exec w st = (s.addAll (contributions w ended).flatten).exec w st₁ ∧
          ((p.runBy asks schedule s).exec w st).1 = .ok (s.extend (contributions w ended).flatten)) ∧
        ∀ scorer, p.strategy = .best scorer → AlwaysScores scorer → NeverUndefined scorer →
          ((∀ c, .ok c ∉ ended) → (p.runBy asks schedule s).exec w st = (.ok s, st₁)) ∧
          ((∃ c, .ok c ∈ ended) → ∃ scores st₂ best,
            (scoreAll scorer ((contributions w ended).map (s.withEcho false none).extend)).exec w st₁ =
              (.ok scores, st₂) ∧
            scores.length = (contributions w ended).length ∧
            FirstBest ((contributions w ended).zip scores) best ∧
            (p.runBy asks schedule s).exec w st =
              (Run.log (.bestSelected best.2 (contributions w ended).length) >>= fun _ => s.addAll best.1).exec w st₂ ∧
            ((p.runBy asks schedule s).exec w st).1 = .ok (s.extend best.1))) := by
  have hquiet : (s.withEcho false none).echo = false := rfl
  obtain ⟨ended, st₁, hask, hlength⟩ := exec_askAll asks schedule hquiet p.issueOrder w st
  refine ⟨ended, st₁, hask, hlength.trans p.length_issueOrder, fun hwritable => ?_⟩
  refine ⟨map_ok_contributions hwritable, fun hkeep => ?_, fun scorer hbest halways hundefined => ?_⟩
  · have hrun := exec_runBy_keepAll hkeep hask hwritable
    refine ⟨hrun, ?_⟩
    rw [hrun, fst_exec_addAll]
  · refine ⟨exec_runBy_best_of_none hbest hask, fun hsome => ?_⟩
    obtain ⟨scores, st₂, best, -, hscores, hfirst, hrun⟩ :=
      exec_runBy_best hbest halways hask hwritable hsome
    refine ⟨scores, st₂, best, hscores, ?_, hfirst (defined_scoreAll hundefined hscores), hrun, ?_⟩
    · rw [length_scoreAll hscores, List.length_map]
    · rw [hrun, Run.exec_bind_ok _ (Run.exec_log _), fst_exec_addAll]

/-- A function's answer and, beside it, a text. -/
def besideText (f : Session → Run Unit Content) : Parallel Unit where
  branches := [{ source := .callback f }, { source := .literal (.str "B") }]

/-- A source that answers after a break. -/
def answersLate (source : Source Unit) (s : Session) : Task Unit Content :=
  .suspended (fun _ _ => .ofRun (source.getContent s)) fun _ st => st

theorem isWritable_of_exec {r : Run σ (List (Except Failure Content))} (hexec : r.exec w st = (.ok ended, st'))
    (h : (r.exec w st).1.toOption.map (·.all fun last => last.toOption.all (·.messages w |>.toOption.isSome)) =
      some true) : ∀ c, .ok c ∈ ended → c.IsWritable := by
  intro c hc
  rw [hexec] at h
  have hsome : (c.messages w).toOption.isSome = true := List.all_eq_true.1 (Option.some.inj h) (.ok c) hc
  cases hmessages : c.messages w with
  | ok ms => exact Content.isWritable_of_messages hmessages
  | error f =>
    rw [hmessages] at hsome
    cases hsome

/-- Of two answers with the same score the one of the earlier branch is kept, though the other one comes first. -/
theorem run_keeps_or_selects_besideText :
    let p := { besideText fun _ => pure (.plain (.str "A")) with
      strategy := .best (some fun _ => pure (.float 1.0)) }
    ∃ best : List Message × Float,
      ((p.runBy answersLate [1, 1] {}).exec (.alone Unit) { host := () }).1 = .ok (Session.extend {} best.1) ∧
      best.1.map (·.content) = ["A"] := by
  intro p
  let scorer : Option (Scorer Unit) := some fun _ => pure (.float 1.0)
  obtain ⟨ended, st₁, hask, -, hselected⟩ :=
    run_keeps_or_selects p answersLate [1, 1] {} (.alone Unit) { host := () }
  have hwritable := isWritable_of_exec hask (by decide +kernel)
  have halways : AlwaysScores scorer := fun s w st => ⟨1.0, st, rfl⟩
  have hundefined : NeverUndefined scorer := by
    intro s w st x st' hx
    obtain rfl : 1.0 = x := Except.ok.inj (Prod.mk.inj hx).1
    decide +kernel
  have hcontents : ((p.runBy answersLate [1, 1] {}).exec (.alone Unit) { host := () }).1.toOption.map
      (·.messages.map (·.content)) = some ["A"] := by
    decide +kernel
  obtain ⟨-, -, hbest⟩ := hselected hwritable
  obtain ⟨hnone, hsome⟩ := hbest scorer rfl halways hundefined
  by_cases hanswer : ∃ c, .ok c ∈ ended
  · obtain ⟨scores, st₂, best, -, -, -, -, hrun⟩ := hsome hanswer
    rw [hrun] at hcontents
    exact ⟨best, hrun, Option.some.inj hcontents⟩
  · rw [hnone fun c hc => hanswer ⟨c, hc⟩] at hcontents
    exact nomatch Option.some.inj hcontents

/-- A score that no double can hold ends the run, though the scorer answers it without failing. -/
theorem run_best_vast :
    let p := { besideText fun _ => pure (.plain (.str "A")) with
      strategy := .best (some fun _ => pure (.int (10 ^ 400))) }
    ∃ f, ((p.run {}).exec (.alone Unit) { host := () }).1 = .error f ∧
      f.text = "int too large to convert to float" := by
  intro p
  exact Run.exists_error_of_failureText (by decide +kernel)

/-- **Branches that fail.** All sources are asked, whichever of them fail.  If all that they answer can be written,
nothing fails, and what is selected is selected among the answers as if there were no other branches.  An answer
that cannot be written ends the whole template in the failure to make messages of some answer. -/
theorem run_isolates_failures (p : Parallel σ)
    (hstrategy : p.strategy = .keepAll ∨ p.strategy = .best none) (asks : Source σ → Session → Task σ Content)
    (schedule : List Nat) (s : Session) (w : Surroundings σ) (st : State σ) :
    ∃ ended st₁, (askAll asks schedule (s.withEcho false none) p.issueOrder).exec w st = (.ok ended, st₁) ∧
      ended.length = (p.branches.map (·.repetitions.toNat)).sum ∧
      ((∀ c, .ok c ∈ ended → c.IsWritable) →
        (contributions w ended).map .ok = (ended.filterMap Except.toOption).map (·.messages w) ∧
        (p.runBy asks schedule s).exec w st = (p.strategy.aggregate (s.withEcho false none)
          ((contributions w ended).map (s.withEcho false none).extend) >>= s.rejoin).exec w st₁ ∧
        ∃ ms, (p.strategy = .keepAll ∧ ms = (contributions w ended).flatten ∨
            p.strategy = .best none ∧ (ms ∈ contributions w ended ∨ contributions w ended = [] ∧ ms = [])) ∧
          ((p.runBy asks schedule s).exec w st).1 = .ok (s.extend ms)) ∧
      ((∃ c, .ok c ∈ ended ∧ ¬ c.IsWritable) → ∃ c f st₂, .ok c ∈ ended ∧ c.messages w = .error f ∧
        (p.runBy asks schedule s).exec w st = (.error f, st₂)) := by
  have hcustom : ∀ f, p.strategy ≠ .custom f := by
    rcases hstrategy with h | h <;> rw [h] <;> exact nofun
  have hquiet : (s.withEcho false none).echo = false := rfl
  obtain ⟨ended, st₁, hask, hlength⟩ := exec_askAll asks schedule hquiet p.issueOrder w st
  refine ⟨ended, st₁, hask, hlength.trans p.length_issueOrder, fun hwritable => ?_, ?_⟩
  · refine ⟨map_ok_contributions hwritable, exec_runBy hcustom hask hwritable, ?_⟩
    rcases hstrategy with hkeep | hbest
    · refine ⟨_, .inl ⟨hkeep, rfl⟩, ?_⟩
      rw [exec_runBy_keepAll hkeep hask hwritable, fst_exec_addAll]
    · by_cases hnone : ∀ c, .ok c ∉ ended
      · refine ⟨[], .inr ⟨hbest, .inr ⟨(contributions_eq_nil_iff hwritable).2 hnone, rfl⟩⟩, ?_⟩
        rw [exec_runBy_best_of_none hbest hask hnone, Session.extend_nil]
      · have hsome : ∃ c, .ok c ∈ ended := not_forall_not.1 hnone
        have halways : AlwaysScores (σ := σ) none := fun s w st => ⟨heuristicScore s, st, rfl⟩
        obtain ⟨scores, st₂, best, hmem, -, -, hrun⟩ :=
          exec_runBy_best hbest halways hask hwritable hsome
        refine ⟨best.1, .inr ⟨hbest, .inl (List.of_mem_zip hmem).1⟩, ?_⟩
        rw [hrun, Run.exec_bind_ok _ (Run.exec_log _), fst_exec_addAll]
  · rintro ⟨c, hc, hnot⟩
    exact exec_runBy_of_not_isWritable hask hc hnot

/-- A source that fails after a break takes nothing from the other one. -/
theorem run_isolates_failures_besideText :
    let p := besideText fun _ => throw (.fault .runtime "A")
    ∃ ms, ((p.runBy answersLate [0, 1, 1, 0] {}).exec (.alone Unit) { host := () }).1 =
        .ok (Session.extend {} ms) ∧
      ms.map (·.content) = ["B"] := by
  intro p
  obtain ⟨ended, st₁, hask, -, hisolated, -⟩ :=
    run_isolates_failures p (.inl rfl) answersLate [0, 1, 1, 0] {} (.alone Unit) { host := () }
  have hwritable := isWritable_of_exec hask (by decide +kernel)
  have hcontents : ((p.runBy answersLate [0, 1, 1, 0] {}).exec (.alone Unit) { host := () }).1.toOption.map
      (·.messages.map (·.content)) = some ["B"] := by
    decide +kernel
  obtain ⟨-, -, ms, -, hms⟩ := hisolated hwritable
  rw [hms] at hcontents
  exact ⟨ms, hms, Option.some.inj hcontents⟩

/-- A function that answers a text and, as a result of a tool, a list that contains itself, which has no JSON. -/
def answersCyclic : Session → Run Unit Content := fun _ =>
  pure (.output { content := .str "A", toolResults := [
    ⟨"1", .other "[[...]]" (.error (.fault .badValue "Circular reference detected"))⟩] })

/-- A number that a function answers takes the text beside it along, and so does a tool's result that has no JSON: the
run fails. -/
theorem run_besideText_unwritable :
    (∀ f, (besideText f).strategy = .keepAll) ∧
    (∃ f, (((besideText fun _ => pure (.plain (.int 7))).run {}).exec (.alone Unit) { host := () }).1 = .error f ∧
      f.text = (Surroundings.alone Unit).wording "ModelOutput" [⟨["content"], .notText, .int 7⟩]) ∧
    ∃ f, (((besideText answersCyclic).run {}).exec (.alone Unit) { host := () }).1 = .error f ∧
      f.text = "Circular reference detected" :=
  ⟨fun _ => rfl, Run.exists_error_of_failureText (by decide +kernel),
    Run.exists_error_of_failureText (by decide +kernel)⟩

end Parallel

end Colloquy
