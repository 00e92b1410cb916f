import Colloquy.Proofs.Echo.Output
import Colloquy.Proofs.Task
import Mathlib.Algebra.Ring.Nat

/-!
# What branches contribute

A parallel template asks the source of every branch on one session, whichever of them fail, however the sources answer
and in whichever order they go on (`exec_askAll`).  If the content of all that answer can be written, then all that
matters of the branches are their `contributions`: the messages of those that did not fail (`exec_runBy`).  Content
that cannot be written ends the whole template in a failure (`exec_runBy_of_not_isWritable`).
-/

namespace Colloquy.Parallel

variable {σ : Type} {asks : Source σ → Session → Task σ Content} {schedule : List Nat} {p : Parallel σ} {s : Session}
  {srcs : List (Source σ)} {w : Surroundings σ} {st st₁ : State σ} {ended : List (Except Failure Content)}
  {last : Except Failure Content}

/-! ### Asking -/

/-- Reports the failure of a source, which is what its branch has ended with. -/
def report (index : Nat) (source : Source σ) : Except Failure Content → Run σ (Except Failure Content)
  | .ok content => return .ok content
  | .error f => do
    Run.log (.branchFailed index source.origin.kindName f.text)
    return .error f

/-- What asking all sources on one session ends with. -/
def askAll (asks : Source σ → Session → Task σ Content) (schedule : List Nat) (s : Session) (srcs : List (Source σ)) :
    Run σ (List (Except Failure Content)) :=
  Task.gather schedule (srcs.mapIdx fun index source => (asks source s).andThen (report index source))

/-- What a branch on a quiet session comes to: a branch whose source failed leaves the session as it is. -/
def branchOutcome (w : Surroundings σ) (s : Session) : Except Failure Content → Except Failure Session
  | .ok c => (c.messages w).map s.extend
  | .error _ => .ok s

theorem report_endsInStep (hquiet : s.echo = false) (index : Nat) (source : Source σ) :
    Task.EndsInStep w (branchOutcome w s) (report index source) (settle s index source) := by
  intro outcome st
  cases outcome with
  | ok c => exact ⟨.ok c, st, rfl, s.exec_appendOutput hquiet c⟩
  | error f => exact ⟨.error f, { st with events := st.events ++ [_] }, rfl, rfl⟩

/-- The branches go in step with asking alone. -/
theorem branches_follow (asks : Source σ → Session → Task σ Content) (hquiet : s.echo = false)
    (srcs : List (Source σ)) (w : Surroundings σ) : List.Forall₂ (Task.Follows w (branchOutcome w s))
      (srcs.mapIdx fun index source => (asks source s).andThen (report index source))
      (srcs.mapIdx (branchTask asks s)) := by
  rw [List.mapIdx_eq_zipIdx_map, List.mapIdx_eq_zipIdx_map, List.forall₂_map_left_iff, List.forall₂_map_right_iff,
    List.forall₂_same]
  exact fun branch _ => .andThen (report_endsInStep hquiet branch.2 branch.1) (asks branch.1 s)

/-- Every source is asked, whichever of them fail. -/
theorem exec_askAll (asks : Source σ → Session → Task σ Content) (schedule : List Nat) (hquiet : s.echo = false)
    (srcs : List (Source σ)) (w : Surroundings σ) (st : State σ) :
    ∃ ended st₁, (askAll asks schedule s srcs).exec w st = (.ok ended, st₁) ∧ ended.length = srcs.length := by
  obtain ⟨ended, st₁, hask, hlength, -⟩ := Task.gather_follows (branches_follow asks hquiet srcs w) schedule st
  exact ⟨ended, st₁, hask, hlength.trans List.length_mapIdx⟩

theorem length_issueOrder (p : Parallel σ) :
    p.issueOrder.length = (p.branches.map (·.repetitions.toNat)).sum := by
  unfold issueOrder
  simp only [List.length_flatMap, List.length_replicate]

/-! ### Contributions -/

/-- The messages of a branch, unless its source failed or its content cannot be written. -/
def contribution? (w : Surroundings σ) : Except Failure Content → Option (List Message)
  | .ok c => (c.messages w).toOption
  | .error _ => none

/-- The messages of each branch that has any, in order. -/
def contributions (w : Surroundings σ) (ended : List (Except Failure Content)) : List (List Message) :=
  ended.filterMap (contribution? w)

theorem branchOutcome_eq (h : ∀ c, last = .ok c → c.IsWritable) :
    branchOutcome w s last = .ok (s.extend ((contribution? w last).getD [])) := by
  cases last with
  | error f =>
    show Except.ok s = .ok (s.extend [])
    rw [Session.extend_nil]
  | ok c =>
    obtain ⟨m, rest, hmessages, -⟩ := Content.exists_messages (h c rfl) w
    simp only [branchOutcome, contribution?, hmessages]
    rfl

/-- If all content can be written, every branch has an outcome, once all sources have been asked. -/
theorem exec_branches (hquiet : s.echo = false) (hask : (askAll asks schedule s srcs).exec w st = (.ok ended, st₁))
    (hwritable : ∀ c, .ok c ∈ ended → c.IsWritable) :
    (Task.gather schedule (srcs.mapIdx (branchTask asks s))).exec w st =
      (.ok (ended.map fun last => s.extend ((contribution? w last).getD [])), st₁) := by
  obtain ⟨ended', st', hask', -, hends⟩ := Task.gather_follows (branches_follow asks hquiet srcs w) schedule st
  obtain ⟨hended, rfl⟩ := Prod.mk.inj (hask.symm.trans hask')
  obtain rfl := Except.ok.inj hended
  have houtcome : ∀ last ∈ ended, branchOutcome w s last = .ok (s.extend ((contribution? w last).getD [])) :=
    fun last hlast => branchOutcome_eq fun c hc => hwritable c (hc ▸ hlast)
  rcases hends with ⟨outcomes, houtcomes, hgather⟩ | ⟨last, hlast, f, st₂, hfailed, -⟩
  · rw [hgather]
    rw [List.map_congr_left houtcome, ← Function.comp_def, ← List.map_map] at houtcomes
    rw [List.map_injective_iff.2 (fun _ _ => Except.ok.inj) houtcomes]
  · rw [houtcome last hlast] at hfailed
    cases hfailed

/-- Content that cannot be written leads to the failure of some branch. -/
theorem exec_branches_of_not_isWritable (hquiet : s.echo = false)
    (hask : (askAll asks schedule s srcs).exec w st = (.ok ended, st₁)) {c : Content} (hc : .ok c ∈ ended)
    (hnot : ¬ c.IsWritable) : ∃ c f st₂, .ok c ∈ ended ∧ c.messages w = .error f ∧
      (Task.gather schedule (srcs.mapIdx (branchTask asks s))).exec w st = (.error f, st₂) := by
  obtain ⟨ended', st', hask', -, hends⟩ := Task.gather_follows (branches_follow asks hquiet srcs w) schedule st
  obtain ⟨hended, rfl⟩ := Prod.mk.inj (hask.symm.trans hask')
  obtain rfl := Except.ok.inj hended
  rcases hends with ⟨outcomes, houtcomes, -⟩ | ⟨last, hlast, f, st₂, hfailed, hgather⟩
  · obtain ⟨f, hf⟩ := Content.messages_of_not_isWritable hnot w
    have hmem : branchOutcome w s (.ok c) ∈ outcomes.map Except.ok := houtcomes ▸ List.mem_map_of_mem hc
    obtain ⟨outcome, -, houtcome⟩ := List.mem_map.1 hmem
    rw [branchOutcome, hf] at houtcome
    cases houtcome
  · cases last with
    | error f' => cases hfailed
    | ok c' =>
      refine ⟨c', f, st₂, hlast, ?_, hgather⟩
      cases hmessages : c'.messages w with
      | error f' =>
        rw [branchOutcome, hmessages] at hfailed
        exact congrArg Except.error (Except.error.inj hfailed)
      | ok ms =>
        rw [branchOutcome, hmessages] at hfailed
        cases hfailed

/-! ### Outcomes -/

theorem newMessages_extend (s : Session) (ms : List Message) :
    Strategy.newMessages s (s.extend ms) = ms :=
  List.drop_left

theorem ne_nil_of_contribution {last : Except Failure Content} {ms : List Message}
    (hlast : contribution? w last = some ms) : ms ≠ [] := by
  cases last with
  | error f => exact nomatch hlast
  | ok c =>
    by_cases hc : c.IsWritable
    · obtain ⟨m, rest, hmessages, -⟩ := Content.exists_messages hc w
      simp only [contribution?, hmessages] at hlast
      obtain rfl := Option.some.inj hlast
      exact List.cons_ne_nil m rest
    · obtain ⟨f, hmessages⟩ := Content.messages_of_not_isWritable hc w
      simp only [contribution?, hmessages] at hlast
      exact nomatch hlast

theorem ne_nil_of_mem_contributions {ms : List Message} (h : ms ∈ contributions w ended) :
    ms ≠ [] := by
  obtain ⟨last, -, hlast⟩ := List.mem_filterMap.1 h
  exact ne_nil_of_contribution hlast

/-- A strategy takes those outcomes for successful that have messages on top, and these are the contributions. -/
theorem succeeded_outcomes (w : Surroundings σ) (s : Session) (ended : List (Except Failure Content)) :
    Strategy.succeeded s (ended.map fun last => s.extend ((contribution? w last).getD [])) =
      (contributions w ended).map s.extend := by
  induction ended with
  | nil => rfl
  | cons last rest ih =>
    unfold Strategy.succeeded contributions at ih ⊢
    rw [List.map_cons, List.filter_cons, newMessages_extend, ih]
    cases h : contribution? w last with
    | none =>
      rw [List.filterMap_cons_none h]
      rfl
    | some ms =>
      have hms := ne_nil_of_contribution h
      rw [List.filterMap_cons_some h]
      simp [hms]

theorem succeeded_extend {added : List (List Message)} (h : ∀ ms ∈ added, ms ≠ []) :
    Strategy.succeeded s (added.map s.extend) = added.map s.extend := by
  refine List.filter_eq_self.2 fun o ho => ?_
  obtain ⟨ms, hms, rfl⟩ := List.mem_map.1 ho
  rw [newMessages_extend]
  simpa using h ms hms

theorem flatMap_newMessages_succeeded (s : Session) (outcomes : List Session) :
    (Strategy.succeeded s outcomes).flatMap (Strategy.newMessages s) =
      outcomes.flatMap (Strategy.newMessages s) := by
  induction outcomes with
  | nil => rfl
  | cons o rest ih =>
    unfold Strategy.succeeded at ih ⊢
    rw [List.filter_cons, List.flatMap_cons]
    cases h : Strategy.newMessages s o with
    | nil => exact ih
    | cons m ms =>
      show (o :: _).flatMap _ = _
      rw [List.flatMap_cons, h, ih]

/-- A strategy of the library looks at the outcomes that succeeded, and at no others. -/
theorem aggregate_succeeded {strategy : Strategy σ} (h : ∀ f, strategy ≠ .custom f) (s : Session)
    (outcomes : List Session) :
    strategy.aggregate s (Strategy.succeeded s outcomes) = strategy.aggregate s outcomes := by
  have hagain : Strategy.succeeded s (Strategy.succeeded s outcomes) =
      Strategy.succeeded s outcomes := by
    unfold Strategy.succeeded
    rw [List.filter_filter]
    simp only [Bool.and_self]
  cases strategy with
  | keepAll => exact congrArg s.addAll (flatMap_newMessages_succeeded s outcomes)
  | best scorer =>
    show Strategy.aggregateBest scorer s _ = Strategy.aggregateBest scorer s _
    unfold Strategy.aggregateBest
    rw [hagain]
  | custom f => exact absurd rfl (h f)
  | judged judge =>
    show Strategy.aggregateJudged judge s _ = Strategy.aggregateJudged judge s _
    unfold Strategy.aggregateJudged
    rw [hagain]

theorem aggregate_nil {strategy : Strategy σ} (h : ∀ f, strategy ≠ .custom f) (s : Session) :
    strategy.aggregate s [] = pure s := by
  cases strategy with
  | custom f => exact absurd rfl (h f)
  | _ => rfl

/-- Of no outcomes nothing comes but the session itself. -/
theorem aggregate_nil_rejoin {strategy : Strategy σ} (h : ∀ f, strategy ≠ .custom f) (s : Session) :
    (strategy.aggregate (s.withEcho false none) [] >>= s.rejoin) = pure s := by
  have hrejoin := s.rejoin_extend (σ := σ) []
  rw [Session.extend_nil] at hrejoin
  rw [aggregate_nil h, pure_bind, hrejoin]
  rfl

/-! ### Running -/

theorem issueOrder_eq_nil (h : p.branches = []) : p.issueOrder = [] := by
  unfold issueOrder
  rw [h]
  rfl

/-- Without branches nobody is asked. -/
theorem askAll_eq_nil (h : p.branches = [])
    (hask : (askAll asks schedule s p.issueOrder).exec w st = (.ok ended, st₁)) : ended = [] ∧ st = st₁ := by
  rw [issueOrder_eq_nil h, askAll, List.mapIdx_nil, Task.gather_nil] at hask
  obtain ⟨hended, hstate⟩ := Prod.mk.inj hask
  exact ⟨(Except.ok.inj hended).symm, hstate⟩

/-- The branches run before anything else happens. -/
theorem runBy_eq (hbranches : p.branches ≠ []) (asks : Source σ → Session → Task σ Content) (schedule : List Nat)
    (s : Session) : p.runBy asks schedule s =
      (Task.gather schedule (p.issueOrder.mapIdx (branchTask asks (s.withEcho false none))) >>= fun outcomes =>
        p.strategy.aggregate (s.withEcho false none) outcomes >>= s.rejoin) := by
  have hempty : p.branches.isEmpty = false := by
    rw [← Bool.not_eq_true, List.isEmpty_iff]
    exact hbranches
  unfold runBy
  simp only [hempty, Bool.false_eq_true, if_false]

/-- If all content can be written, the contributions are all that the strategy sees. -/
theorem exec_runBy (hstrategy : ∀ f, p.strategy ≠ .custom f)
    (hask : (askAll asks schedule (s.withEcho false none) p.issueOrder).exec w st = (.ok ended, st₁))
    (hwritable : ∀ c, .ok c ∈ ended → c.IsWritable) :
    (p.runBy asks schedule s).exec w st = (p.strategy.aggregate (s.withEcho false none)
      ((contributions w ended).map (s.withEcho false none).extend) >>= s.rejoin).exec w st₁ := by
  -- Without branches nothing runs, which is also what a strategy makes of no outcomes.
  by_cases hbranches : p.branches = []
  · obtain ⟨rfl, rfl⟩ := askAll_eq_nil hbranches hask
    show _ = (p.strategy.aggregate (s.withEcho false none) [] >>= s.rejoin).exec w st
    rw [aggregate_nil_rejoin hstrategy]
    unfold runBy
    simp only [hbranches, List.isEmpty_nil, if_true]
  · rw [runBy_eq hbranches, Run.exec_bind_ok _ (exec_branches rfl hask hwritable), ← succeeded_outcomes,
      aggregate_succeeded hstrategy]

/-- Content that cannot be written ends a run in the failure to write content. -/
theorem exec_runBy_of_not_isWritable
    (hask : (askAll asks schedule (s.withEcho false none) p.issueOrder).exec w st = (.ok ended, st₁)) {c : Content}
    (hc : .ok c ∈ ended) (hnot : ¬ c.IsWritable) : ∃ c f st₂, .ok c ∈ ended ∧ c.messages w = .error f ∧
      (p.runBy asks schedule s).exec w st = (.error f, st₂) := by
  have hbranches : p.branches ≠ [] := by
    intro hnone
    obtain ⟨rfl, -⟩ := askAll_eq_nil hnone hask
    exact absurd hc List.not_mem_nil
  obtain ⟨c', f, st₂, hc', hf, hgather⟩ := exec_branches_of_not_isWritable rfl hask hc hnot
  refine ⟨c', f, st₂, hc', hf, ?_⟩
  rw [runBy_eq hbranches, Run.exec_bind_error _ hgather]

end Colloquy.Parallel
