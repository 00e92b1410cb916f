import Colloquy.Task
import Mathlib.Data.List.Forall2

/-!
# Tasks that go together

A task `Follows` another one that cannot fail if both make the same steps and it ends with what a function makes of the
answer of the other one.  Tasks that follow others one by one are gathered in step with them, in whichever order they
go on (`gather_follows`): either all of them have answers, or the first failure of one of them is the failure.

Tasks without a break are just run one after the other (`gather_ofRun`).
-/

namespace Colloquy.Task

variable {σ α β γ : Type} {f : α → Except Failure β} {t : Task σ α} {t' : Task σ β} {ts : List (Task σ α)}
  {ts' : List (Task σ β)} {w : Surroundings σ} {st st₁ : State σ}

/-! ### Tasks in step -/

/-- A task in step with another one, which does not fail: it ends with what a function makes of the other's answer. -/
inductive Follows (w : Surroundings σ) (f : α → Except Failure β) : Task σ α → Task σ β → Prop
  | ended (a : α) : Follows w f (.ended (.ok a)) (.ended (f a))
  | suspended {next : Surroundings σ → State σ → Task σ α} {next' : Surroundings σ → State σ → Task σ β}
      {left left' : Surroundings σ → State σ → State σ} (hleft : ∀ st, left' w st = left w st)
      (hnext : ∀ st, Follows w f (next w st) (next' w st)) :
      Follows w f (.suspended next left) (.suspended next' left')

/-- Runs that end in step, whatever came before them. -/
def EndsInStep (w : Surroundings σ) (f : α → Except Failure β) (k : Except Failure γ → Run σ α)
    (k' : Except Failure γ → Run σ β) : Prop :=
  ∀ outcome st, ∃ a st₁, (k outcome).exec w st = (.ok a, st₁) ∧ (k' outcome).exec w st = (f a, st₁)

theorem Follows.ofRun {r : Run σ α} {r' : Run σ β}
    (h : ∀ st, ∃ a st₁, r.exec w st = (.ok a, st₁) ∧ r'.exec w st = (f a, st₁)) :
    Follows w f (.ofRun r) (.ofRun r') := by
  refine .suspended (fun st => ?_) fun st => ?_
  · obtain ⟨a, st₁, hr, hr'⟩ := h st
    rw [hr, hr']
  · obtain ⟨a, st₁, hr, hr'⟩ := h st
    rw [hr, hr']
    exact .ended a

/-- One task that is followed by runs in step becomes two tasks in step. -/
theorem Follows.andThen {k : Except Failure γ → Run σ α} {k' : Except Failure γ → Run σ β}
    (h : EndsInStep w f k k') (t : Task σ γ) : Follows w f (t.andThen k) (t.andThen k') := by
  induction t with
  | ended outcome => exact .ofRun (h outcome)
  | suspended next left ih =>
    rw [Task.andThen, Task.andThen]
    refine .suspended (fun st => ?_) fun st => ?_
    · cases next w st with
      | ended outcome =>
        obtain ⟨a, st₁, hk, hk'⟩ := h outcome (left w st)
        show ((k' outcome).exec w (left w st)).2 = ((k outcome).exec w (left w st)).2
        rw [hk, hk']
      | suspended next' left' => rfl
    · have hnext := ih w st
      cases hcase : next w st with
      | ended outcome =>
        obtain ⟨a, st₁, hk, hk'⟩ := h outcome (left w st)
        show Follows w f (.ended ((k outcome).exec w (left w st)).1) (.ended ((k' outcome).exec w (left w st)).1)
        rw [hk, hk']
        exact .ended a
      | suspended next' left' =>
        rw [hcase] at hnext
        exact hnext

/-- Tasks in step make a step together, and are in step again. -/
theorem Follows.step (h : Follows w f t t') (st : State σ) :
    ∃ u u' st₁, t.step.exec w st = (.ok u, st₁) ∧ t'.step.exec w st = (.ok u', st₁) ∧ Follows w f u u' ∧
      ∀ a, t = .ended (.ok a) → u = .ended (.ok a) := by
  cases h with
  | ended a => exact ⟨_, _, st, rfl, rfl, .ended a, fun _ h => h⟩
  | @suspended next next' left left' hleft hnext =>
    refine ⟨next w st, next' w st, left w st, rfl, ?_, hnext st, fun a h => nomatch h⟩
    rw [← hleft]
    rfl

/-- Tasks in step come to their ends together. -/
theorem Follows.finish (h : Follows w f t t') (st : State σ) :
    ∃ a st₁, t.finish.exec w st = (.ok a, st₁) ∧ t'.finish.exec w st = (f a, st₁) ∧
      ∀ b, t = .ended (.ok b) → a = b := by
  induction h generalizing st with
  | ended a =>
    refine ⟨a, st, rfl, ?_, fun b h => ?_⟩
    · rw [Task.finish, Run.exec_ofExcept]
    · cases h
      rfl
  | @suspended next next' left left' hleft hnext ih =>
    obtain ⟨a, st₁, hfinish, hfinish', -⟩ := ih st (left w st)
    refine ⟨a, st₁, hfinish, ?_, fun b h => nomatch h⟩
    rw [← hleft st] at hfinish'
    exact hfinish'

/-- A task in step fails only by what the function makes of an answer. -/
theorem Follows.failure (h : Follows w f t t') :
    t.failure? = none ∧ ∀ g, t'.failure? = some g → ∃ a, t = .ended (.ok a) ∧ f a = .error g := by
  cases h with
  | ended a =>
    refine ⟨rfl, fun g hg => ⟨a, rfl, ?_⟩⟩
    cases hfa : f a with
    | ok b =>
      rw [hfa] at hg
      cases hg
    | error g' =>
      rw [hfa] at hg
      rw [Option.some.inj hg]
  | suspended hleft hnext => exact ⟨rfl, fun g hg => nomatch hg⟩

/-! ### Races in step -/

/-- Races in step: no task of the first one fails, and a failure of the second one is made of an answer. -/
structure Race.Follows (w : Surroundings σ) (f : α → Except Failure β) (r : Race σ α) (r' : Race σ β) : Prop where
  tasks : List.Forall₂ (Task.Follows w f) r.tasks r'.tasks
  unfailed : r.failed = none
  failed : ∀ g, r'.failed = some g → ∃ a, .ended (.ok a) ∈ r.tasks ∧ f a = .error g

theorem step_follows (h : List.Forall₂ (Task.Follows w f) ts ts') (st : State σ) :
    ∃ us us' st₁, (ts.mapM step).exec w st = (.ok us, st₁) ∧ (ts'.mapM step).exec w st = (.ok us', st₁) ∧
      List.Forall₂ (Task.Follows w f) us us' ∧ us.length = ts.length := by
  induction h generalizing st with
  | nil => exact ⟨[], [], st, rfl, rfl, .nil, rfl⟩
  | cons hfirst hrest ih =>
    obtain ⟨u, u', st₁, hstep, hstep', hu, -⟩ := hfirst.step st
    obtain ⟨us, us', st₂, hsteps, hsteps', hus, hlength⟩ := ih st₁
    refine ⟨u :: us, u' :: us', st₂, ?_, ?_, .cons hu hus, congrArg (· + 1) hlength⟩
    · rw [List.mapM_cons, Run.exec_bind_ok _ hstep, Run.exec_bind_ok _ hsteps]
      rfl
    · rw [List.mapM_cons, Run.exec_bind_ok _ hstep', Run.exec_bind_ok _ hsteps']
      rfl

theorem failures_follow (h : List.Forall₂ (Task.Follows w f) ts ts') : ts.findSome? failure? = none ∧
    ∀ g, ts'.findSome? failure? = some g → ∃ a, .ended (.ok a) ∈ ts ∧ f a = .error g := by
  induction h with
  | nil => exact ⟨rfl, fun g hg => nomatch hg⟩
  | @cons t t' ts ts' hfirst hrest ih =>
    obtain ⟨hnone, hfailed⟩ := hfirst.failure
    refine ⟨by rw [List.findSome?_cons, hnone, ih.1], fun g hg => ?_⟩
    rw [List.findSome?_cons] at hg
    cases hfailure : t'.failure? with
    | some g' =>
      rw [hfailure] at hg
      obtain rfl := Option.some.inj hg
      obtain ⟨a, rfl, hfa⟩ := hfailed g' hfailure
      exact ⟨a, List.mem_cons_self, hfa⟩
    | none =>
      rw [hfailure] at hg
      obtain ⟨a, ha, hfa⟩ := ih.2 g hg
      exact ⟨a, List.mem_cons_of_mem _ ha, hfa⟩

/-- Tasks in step are started together. -/
theorem start_follows (h : List.Forall₂ (Task.Follows w f) ts ts') (st : State σ) :
    ∃ r r' st₁, (start ts).exec w st = (.ok r, st₁) ∧ (start ts').exec w st = (.ok r', st₁) ∧ r.Follows w f r' ∧
      r.tasks.length = ts.length := by
  obtain ⟨us, us', st₁, hsteps, hsteps', hus, hlength⟩ := step_follows h st
  obtain ⟨hnone, hfailed⟩ := failures_follow hus
  refine ⟨⟨us, us.findSome? failure?⟩, ⟨us', us'.findSome? failure?⟩, st₁, ?_, ?_, ⟨hus, hnone, hfailed⟩, hlength⟩
  · rw [start, Run.exec_bind_ok _ hsteps]
    rfl
  · rw [start, Run.exec_bind_ok _ hsteps']
    rfl

/-- The tasks with an index, and what becomes of the lists when other tasks in step take their places. -/
theorem getElem?_follows (h : List.Forall₂ (Task.Follows w f) ts ts') (i : Nat) :
    ts[i]? = none ∧ ts'[i]? = none ∨ ∃ t t', ts[i]? = some t ∧ ts'[i]? = some t' ∧ t.Follows w f t' ∧
      ∀ u u' : Task σ _, u.Follows w f u' → List.Forall₂ (Task.Follows w f) (ts.set i u) (ts'.set i u') := by
  induction h generalizing i with
  | nil => exact .inl ⟨rfl, rfl⟩
  | @cons t t' ts ts' hfirst hrest ih =>
    cases i with
    | zero => exact .inr ⟨t, t', rfl, rfl, hfirst, fun u u' hu => .cons hu hrest⟩
    | succ i =>
      rcases ih i with ⟨hnone, hnone'⟩ | ⟨u, u', hu, hu', hfollows, hset⟩
      · exact .inl ⟨by rw [List.getElem?_cons_succ, hnone], by rw [List.getElem?_cons_succ, hnone']⟩
      · refine .inr ⟨u, u', ?_, ?_, hfollows, fun v v' hv => .cons hfirst (hset v v' hv)⟩
        · rw [List.getElem?_cons_succ, hu]
        · rw [List.getElem?_cons_succ, hu']

theorem mem_set_of_mem {x u : Task σ α} {i : Nat} (hx : x ∈ ts) (hu : ts[i]? = some x → u = x) : x ∈ ts.set i u := by
  obtain ⟨j, hj⟩ := List.mem_iff_getElem?.1 hx
  refine List.mem_iff_getElem?.2 ⟨j, ?_⟩
  by_cases hij : i = j
  · subst hij
    rw [List.getElem?_set_self (List.getElem?_eq_some_iff.1 hj).1, hu hj]
  · rw [List.getElem?_set_ne hij, hj]

/-- Races in step go on together, whichever task it is that does. -/
theorem Race.Follows.resume {r : Race σ α} {r' : Race σ β} (h : r.Follows w f r') (i : Nat) (st : State σ) :
    ∃ q q' st₁, (r.resume i).exec w st = (.ok q, st₁) ∧ (r'.resume i).exec w st = (.ok q', st₁) ∧
      q.Follows w f q' ∧ q.tasks.length = r.tasks.length := by
  rcases getElem?_follows h.tasks i with ⟨hnone, hnone'⟩ | ⟨t, t', ht, ht', hfollows, hset⟩
  · refine ⟨r, r', st, ?_, ?_, h, rfl⟩
    · rw [Race.resume, hnone]
      rfl
    · rw [Race.resume, hnone']
      rfl
  · obtain ⟨u, u', st₁, hstep, hstep', hu, hended⟩ := hfollows.step st
    obtain ⟨hfailure, hfailure'⟩ := hu.failure
    refine ⟨⟨r.tasks.set i u, r.failed.or u.failure?⟩, ⟨r'.tasks.set i u', r'.failed.or u'.failure?⟩, st₁, ?_, ?_,
      ⟨hset u u' hu, ?_, fun g hg => ?_⟩, List.length_set⟩
    · rw [Race.resume, ht]
      exact Run.exec_bind_ok _ hstep
    · rw [Race.resume, ht']
      exact Run.exec_bind_ok _ hstep'
    · rw [h.unfailed, hfailure, Option.or_none]
    · -- A failure was there before, or the task that went on has ended with it.
      rcases Option.or_eq_some_iff.1 hg with hbefore | ⟨-, hnow⟩
      · obtain ⟨a, ha, hfa⟩ := h.failed g hbefore
        exact ⟨a, mem_set_of_mem ha fun hi => hended a (Option.some.inj (ht.symm.trans hi)), hfa⟩
      · obtain ⟨a, rfl, hfa⟩ := hfailure' g hnow
        exact ⟨a, List.mem_set (List.getElem?_eq_some_iff.1 ht).1 _, hfa⟩

theorem Race.Follows.foldlM {r : Race σ α} {r' : Race σ β} (h : r.Follows w f r') (schedule : List Nat)
    (st : State σ) : ∃ q q' st₁, (schedule.foldlM Race.resume r).exec w st = (.ok q, st₁) ∧
      (schedule.foldlM Race.resume r').exec w st = (.ok q', st₁) ∧ q.Follows w f q' ∧
      q.tasks.length = r.tasks.length := by
  induction schedule generalizing r r' st with
  | nil => exact ⟨r, r', st, rfl, rfl, h, rfl⟩
  | cons i rest ih =>
    obtain ⟨q, q', st₁, hresume, hresume', hq, hlength⟩ := h.resume i st
    obtain ⟨p, p', st₂, hrest, hrest', hp, hlength'⟩ := ih hq st₁
    refine ⟨p, p', st₂, ?_, ?_, hp, hlength'.trans hlength⟩
    · rw [List.foldlM_cons, Run.exec_bind_ok _ hresume, hrest]
    · rw [List.foldlM_cons, Run.exec_bind_ok _ hresume', hrest']

/-! ### Answers -/

/-- Tasks in step come to their ends together, or the second ones only come to a failure.  The answers of tasks that
had ended before are among the answers. -/
theorem finish_follows (h : List.Forall₂ (Task.Follows w f) ts ts') (st : State σ) :
    ∃ as st₁, (ts.mapM finish).exec w st = (.ok as, st₁) ∧ as.length = ts.length ∧
      (∀ a, .ended (.ok a) ∈ ts → a ∈ as) ∧
      ((∃ bs, as.map f = bs.map .ok ∧ (ts'.mapM finish).exec w st = (.ok bs, st₁)) ∨
        ∃ a ∈ as, ∃ g st₂, f a = .error g ∧ (ts'.mapM finish).exec w st = (.error g, st₂)) := by
  induction h generalizing st with
  | nil => exact ⟨[], st, rfl, rfl, fun a ha => absurd ha List.not_mem_nil, .inl ⟨[], rfl, rfl⟩⟩
  | @cons t t' ts ts' hfirst hrest ih =>
    obtain ⟨a, st₁, hfinish, hfinish', hended⟩ := hfirst.finish st
    obtain ⟨as, st₂, hothers, hlength, hmem, hends⟩ := ih st₁
    refine ⟨a :: as, st₂, ?_, congrArg (· + 1) hlength, fun b hb => ?_, ?_⟩
    · rw [List.mapM_cons, Run.exec_bind_ok _ hfinish, Run.exec_bind_ok _ hothers]
      rfl
    · rcases List.mem_cons.1 hb with hb | hb
      · rw [hended b hb.symm]
        exact List.mem_cons_self
      · exact List.mem_cons_of_mem _ (hmem b hb)
    · cases hfa : f a with
      | error g =>
        rw [hfa] at hfinish'
        refine .inr ⟨a, List.mem_cons_self, g, st₁, hfa, ?_⟩
        rw [List.mapM_cons, Run.exec_bind_error _ hfinish']
      | ok b =>
        rw [hfa] at hfinish'
        rw [List.mapM_cons, Run.exec_bind_ok _ hfinish']
        rcases hends with ⟨bs, hbs, hothers'⟩ | ⟨c, hc, g, st₃, hfc, hothers'⟩
        · refine .inl ⟨b :: bs, by rw [List.map_cons, hfa, hbs, List.map_cons], ?_⟩
          rw [Run.exec_bind_ok _ hothers']
          rfl
        · refine .inr ⟨c, List.mem_cons_of_mem _ hc, g, st₃, hfc, ?_⟩
          rw [Run.exec_bind_error _ hothers']

/-- **Tasks that are gathered in step.**  The first tasks all come to answers.  The second ones come to what is made of
these, at the same time, or one of the answers leads to a failure and this is theirs. -/
theorem gather_follows (h : List.Forall₂ (Task.Follows w f) ts ts') (schedule : List Nat) (st : State σ) :
    ∃ as st₁, (gather schedule ts).exec w st = (.ok as, st₁) ∧ as.length = ts.length ∧
      ((∃ bs, as.map f = bs.map .ok ∧ (gather schedule ts').exec w st = (.ok bs, st₁)) ∨
        ∃ a ∈ as, ∃ g st₂, f a = .error g ∧ (gather schedule ts').exec w st = (.error g, st₂)) := by
  obtain ⟨r, r', st₁, hstart, hstart', hr, hlength⟩ := start_follows h st
  obtain ⟨q, q', st₂, hresume, hresume', hq, hlength'⟩ := hr.foldlM schedule st₁
  obtain ⟨as, st₃, hfinish, hlength'', hmem, hends⟩ := finish_follows hq.tasks st₂
  refine ⟨as, st₃, ?_, hlength''.trans (hlength'.trans hlength), ?_⟩
  · rw [gather, Run.exec_bind_ok _ hstart, Run.exec_bind_ok _ hresume, Race.finish, hq.unfailed]
    exact hfinish
  · rw [gather, Run.exec_bind_ok _ hstart', Run.exec_bind_ok _ hresume', Race.finish]
    cases hfailed : q'.failed with
    | none => exact hends
    | some g =>
      obtain ⟨a, ha, hfa⟩ := hq.failed g hfailed
      exact .inr ⟨a, hmem a ha, g, st₂, hfa, rfl⟩

/-- Where there are no tasks nothing goes on. -/
theorem gather_nil (schedule : List Nat) : gather schedule ([] : List (Task σ α)) = pure [] := by
  have hresume : schedule.foldlM Race.resume (⟨[], none⟩ : Race σ α) = pure ⟨[], none⟩ := by
    induction schedule with
    | nil => rfl
    | cons i rest ih =>
      have hsame : Race.resume (⟨[], none⟩ : Race σ α) i = pure ⟨[], none⟩ := rfl
      rw [List.foldlM_cons, hsame, pure_bind, ih]
  have hstart : start ([] : List (Task σ α)) = pure ⟨[], none⟩ := rfl
  rw [gather, hstart, pure_bind, hresume, pure_bind]
  rfl

/-! ### Tasks without a break -/

/-- A run that follows a task without a break leaves it without one. -/
theorem andThen_ofRun (r : Run σ α) (k : Except Failure α → Run σ β) :
    (ofRun r).andThen k = ofRun (r.outcome >>= k) := by
  have hexec : ∀ w st, (r.outcome >>= k).exec w st = (k (r.exec w st).1).exec w (r.exec w st).2 := fun w st =>
    Run.exec_bind_ok _ (Run.exec_outcome r)
  simp only [ofRun, andThen, hexec]

/-- All answers, or the first failure. -/
def allAnswers : List (Except Failure α) → Except Failure (List α)
  | [] => .ok []
  | .error f :: _ => .error f
  | .ok a :: rest => (allAnswers rest).map (a :: ·)

/-- Tasks that have ended. -/
def allEnded (outcomes : List (Except Failure α)) : List (Task σ α) := outcomes.map ended

/-- A race whose tasks have all ended. -/
def Race.over (outcomes : List (Except Failure α)) : Race σ α where
  tasks := allEnded outcomes
  failed := (allEnded outcomes : List (Task σ α)).findSome? failure?

theorem allAnswers_ok (as : List α) : allAnswers (as.map Except.ok) = .ok as := by
  induction as with
  | nil => rfl
  | cons a rest ih => rw [List.map_cons, allAnswers, ih, Except.map]

/-- Either all tasks that have ended have an answer, or the first failure among them is that of the answers. -/
theorem allAnswers_cases (outcomes : List (Except Failure α)) : (∃ as : List α, outcomes = as.map Except.ok) ∨
    ∃ g, (allEnded outcomes : List (Task σ α)).findSome? failure? = some g ∧ allAnswers outcomes = .error g := by
  induction outcomes with
  | nil => exact .inl ⟨[], rfl⟩
  | cons outcome rest ih =>
    cases outcome with
    | error g => exact .inr ⟨g, rfl, rfl⟩
    | ok a =>
      rcases ih with ⟨as, rfl⟩ | ⟨g, hfailed, hanswers⟩
      · exact .inl ⟨a :: as, rfl⟩
      · exact .inr ⟨g, hfailed, by rw [allAnswers, hanswers, Except.map]⟩

theorem allAnswers_eq_ok_iff {outcomes : List (Except Failure α)} {as : List α} :
    allAnswers outcomes = .ok as ↔ outcomes = as.map .ok := by
  refine ⟨fun h => ?_, fun h => h ▸ allAnswers_ok as⟩
  rcases allAnswers_cases (σ := Unit) outcomes with ⟨bs, rfl⟩ | ⟨g, -, hfailed⟩
  · rw [allAnswers_ok] at h
    rw [Except.ok.inj h]
  · cases hfailed.symm.trans h

theorem finish_over (outcomes : List (Except Failure α)) :
    (Race.over outcomes : Race σ α).finish = Run.ofExcept (allAnswers outcomes) := by
  rw [Race.finish, Race.over]
  dsimp only
  rcases allAnswers_cases (σ := σ) outcomes with ⟨as, rfl⟩ | ⟨g, hfailed, hanswers⟩
  · have hends : (allEnded (as.map .ok) : List (Task σ α)).findSome? failure? = none ∧
        (allEnded (as.map .ok) : List (Task σ α)).mapM finish = pure as := by
      induction as with
      | nil => exact ⟨rfl, rfl⟩
      | cons a rest ih =>
        refine ⟨ih.1, ?_⟩
        have hfinish : (ended (.ok a) : Task σ α).finish = pure a := rfl
        show List.mapM finish (ended (.ok a) :: (allEnded (rest.map .ok) : List (Task σ α))) = _
        rw [List.mapM_cons, hfinish, pure_bind, ih.2, pure_bind]
    rw [hends.1, hends.2, allAnswers_ok]
    rfl
  · rw [hfailed, hanswers]
    rfl

theorem exec_mapM_step (rs : List (Run σ α)) (w : Surroundings σ) (st : State σ) :
    ∃ outcomes st₁, (rs.mapM Run.outcome).exec w st = (.ok outcomes, st₁) ∧
      ((rs.map ofRun).mapM step).exec w st = (.ok (allEnded outcomes), st₁) := by
  induction rs generalizing st with
  | nil => exact ⟨[], st, rfl, rfl⟩
  | cons r rest ih =>
    obtain ⟨outcomes, st₁, houtcomes, hsteps⟩ := ih (r.exec w st).2
    have hstep : (ofRun r).step.exec w st = (.ok (ended (r.exec w st).1), (r.exec w st).2) := rfl
    refine ⟨(r.exec w st).1 :: outcomes, st₁, ?_, ?_⟩
    · rw [List.mapM_cons, Run.exec_bind_ok _ (Run.exec_outcome r), Run.exec_bind_ok _ houtcomes]
      rfl
    · rw [List.map_cons, List.mapM_cons, Run.exec_bind_ok _ hstep, Run.exec_bind_ok _ hsteps]
      rfl

/-- **Tasks without a break** are run one after the other, and the first failure is raised once all of them have
ended. -/
theorem gather_ofRun (rs : List (Run σ α)) :
    gather [] (rs.map ofRun) = (do Run.ofExcept (allAnswers (← rs.mapM Run.outcome))) := by
  refine Run.ext fun w st => ?_
  obtain ⟨outcomes, st₁, houtcomes, hsteps⟩ := exec_mapM_step rs w st
  have hstart : (start (rs.map ofRun)).exec w st = (.ok (.over outcomes), st₁) := by
    rw [start, Run.exec_bind_ok _ hsteps]
    rfl
  rw [gather, Run.exec_bind_ok _ hstart, List.foldlM_nil, pure_bind, finish_over, Run.exec_bind_ok _ houtcomes]

end Colloquy.Task
