import Colloquy.Proofs.Echo.Output
import Colloquy.Proofs.Parallel.Sequence

/-!
# What parallel branches show

Branches run on a quiet copy of the session, so neither they nor the strategy that reduces them shows a
message; what comes out continues the session (`Strategy.ensures_aggregate`), and `rejoin` shows what was kept.
So a parallel template appends (`Parallel.appends_run`).
-/

namespace Colloquy

variable {σ : Type} {target : Option Observer} {s : Session}

open Run (Keeps Ensures)
open Run.Silent

/-- What branches on a session come to: sessions that continue it. -/
def Session.Continues (s s' : Session) : Prop := ∃ ms, s.ExtendsBy s' ms

theorem Session.Continues.refl (s : Session) : s.Continues s := ⟨[], .refl s⟩

/-- What a run that appends answers continues the session. -/
theorem Run.Appends.ensures {r : Run σ Session} (h : r.Appends target s) :
    r.Ensures s.Continues := by
  intro w st s' st' hexec
  obtain ⟨ms, hextends, -⟩ := h w st s' st' hexec
  exact ⟨ms, hextends⟩

/-! ### Strategies -/

namespace Strategy

/-- A strategy of the library whose scorer or judge is silent. -/
def Silent (target : Option Observer) : Strategy σ → Prop
  | keepAll => True
  | best scorer => ∀ f ∈ scorer, ∀ s, (f s).Silent target
  | custom _ => False
  | judged judge => judge.Silent target

variable {scorer : Option (Scorer σ)} {P : Session → Prop} {parent : Session}
  {outcomes : List Session}

theorem silent_score (h : ∀ f ∈ scorer, ∀ s, (f s).Silent target) (s : Session) :
    (score scorer s).Silent target := by
  cases scorer with
  | none => exact .pure _
  | some f => exact (h f rfl s).bind fun v => .ofExcept _

theorem silent_bestOf (h : ∀ f ∈ scorer, ∀ s, (f s).Silent target) (chosen : Session)
    (x : Float) (rest : List Session) : (bestOf scorer chosen x rest).Silent target := by
  induction rest generalizing chosen x with
  | nil => exact .pure _
  | cons s rest ih => exact (silent_score h s).bind fun y => .ite (ih s y) (ih chosen x)

theorem ensures_bestOf (scorer : Option (Scorer σ)) {chosen : Session} {rest : List Session}
    (hchosen : P chosen) (hrest : ∀ o ∈ rest, P o) (x : Float) :
    (bestOf scorer chosen x rest).Ensures fun best => P best.1 := by
  induction rest generalizing chosen x with
  | nil => exact .pure hchosen
  | cons s rest ih =>
    rw [List.forall_mem_cons] at hrest
    exact .after fun y => .ite (ih hrest.1 hrest.2 y) (ih hchosen hrest.2 x)

theorem silent_aggregateBest (h : ∀ f ∈ scorer, ∀ s, (f s).Silent target) (parent : Session)
    (outcomes : List Session) : (aggregateBest scorer parent outcomes).Silent target := by
  unfold aggregateBest
  split
  · exact .pure parent
  · refine (silent_score h _).bind fun x => ?_
    exact (silent_bestOf h _ x _).bind fun best => (log rfl).bind fun _ => .pure best.1

theorem ensures_aggregateBest (scorer : Option (Scorer σ)) (hparent : P parent)
    (houtcomes : ∀ o ∈ outcomes, P o) : (aggregateBest scorer parent outcomes).Ensures P := by
  -- Candidates are outcomes, and the only other answer is the parent.
  have hsucceeded : ∀ o ∈ succeeded parent outcomes, P o := fun o ho =>
    houtcomes o (List.mem_filter.1 ho).1
  unfold aggregateBest
  split
  · exact .pure hparent
  · rename_i first rest hcandidates
    rw [hcandidates, List.forall_mem_cons] at hsucceeded
    refine .after fun x => ?_
    exact .bind (ensures_bestOf scorer hsucceeded.1 hsucceeded.2 x) fun best hbest =>
      .after fun _ => .pure hbest

theorem mem_of_named {answer : String} {candidates : List Session} {chosen : Session}
    (h : named? answer candidates = .ok (some chosen)) : chosen ∈ candidates := by
  unfold named? at h
  cases hnumber : firstNumber? answer with
  | none =>
    rw [hnumber] at h
    exact nomatch Except.ok.inj h
  | some digits =>
    rw [hnumber] at h
    cases hn : Number.integerOf digits with
    | error f =>
      simp only [hn] at h
      exact nomatch h
    | ok n =>
      simp only [hn] at h
      have hchosen := Except.ok.inj h
      split at hchosen
      · exact List.mem_of_getElem? hchosen
      · exact nomatch hchosen

theorem silent_aggregateJudged {judge : Source σ} (h : judge.Silent target) (parent : Session)
    (outcomes : List Session) : (aggregateJudged judge parent outcomes).Silent target := by
  unfold aggregateJudged
  split
  · exact .pure parent
  · exact .pure _
  · refine (h.getContent _).bind fun content => (Keeps.ofExcept _).bind fun answer => ?_
    refine (Keeps.ofExcept _).bind fun named => ?_
    cases named with
    | some chosen => exact .pure chosen
    | none =>
      have hnone : ∀ f ∈ (none : Option (Scorer σ)), ∀ s, (f s).Silent target := nofun
      exact (log rfl).bind fun _ => silent_aggregateBest hnone parent _

theorem ensures_aggregateJudged (judge : Source σ) (hparent : P parent)
    (houtcomes : ∀ o ∈ outcomes, P o) : (aggregateJudged judge parent outcomes).Ensures P := by
  -- Candidates are outcomes, and the only other answer is the parent.
  have hsucceeded : ∀ o ∈ succeeded parent outcomes, P o := fun o ho =>
    houtcomes o (List.mem_filter.1 ho).1
  unfold aggregateJudged
  split
  · exact .pure hparent
  · rename_i only hcandidates
    rw [hcandidates, List.forall_mem_singleton] at hsucceeded
    exact .pure hsucceeded
  · refine .after fun content => .after fun answer => ?_
    refine .bind (.ofExcept fun named hnamed => hnamed) fun named hnamed => ?_
    cases named with
    | some chosen => exact .pure (hsucceeded chosen (mem_of_named hnamed))
    | none => exact .after fun _ => ensures_aggregateBest none hparent hsucceeded

/-- On a quiet session a strategy shows nothing. -/
theorem silent_aggregate {strategy : Strategy σ} (h : strategy.Silent target)
    (hquiet : parent.echo = false) (outcomes : List Session) :
    (strategy.aggregate parent outcomes).Silent target := by
  cases strategy with
  | keepAll => exact Session.silent_addAll hquiet _
  | best scorer => exact silent_aggregateBest h parent outcomes
  | custom f => exact h.elim
  | judged judge => exact silent_aggregateJudged h parent outcomes

/-- What a strategy makes of outcomes that continue a session continues it. -/
theorem ensures_aggregate {strategy : Strategy σ} (h : strategy.Silent target)
    (houtcomes : ∀ o ∈ outcomes, parent.Continues o) :
    (strategy.aggregate parent outcomes).Ensures parent.Continues := by
  cases strategy with
  | keepAll =>
    have happends : (aggregateAll parent outcomes : Run σ Session).Appends target parent :=
      parent.appends_addAll _
    exact happends.ensures
  | best scorer => exact ensures_aggregateBest scorer (.refl parent) houtcomes
  | custom f => exact h.elim
  | judged judge => exact ensures_aggregateJudged judge (.refl parent) houtcomes

end Strategy

/-! ### Branches -/

namespace Parallel

/-- Branches with silent sources and a silent strategy of the library. -/
structure Silent (target : Option Observer) (p : Parallel σ) : Prop where
  branches : ∀ b ∈ p.branches, b.source.Silent target
  strategy : p.strategy.Silent target

theorem silent_of_mem_issueOrder {p : Parallel σ} (h : p.Silent target) {src : Source σ}
    (hsrc : src ∈ p.issueOrder) : src.Silent target := by
  obtain ⟨b, hb, hmem⟩ := List.mem_flatMap.1 hsrc
  rw [List.eq_of_mem_replicate hmem]
  exact h.branches b hb

variable {src : Source σ} {srcs : List (Source σ)}

theorem silent_runBranch (h : src.Silent target) (hquiet : s.echo = false) (index : Nat) :
    (runBranch s index src).Silent target := by
  refine (h.getContent s).outcome.bind fun ended => ?_
  cases ended with
  | ok content => exact s.silent_appendOutput hquiet content
  | error f => exact (log rfl).bind fun _ => .pure s

theorem ensures_runBranch (src : Source σ) (s : Session) (index : Nat) :
    (runBranch s index src).Ensures s.Continues := by
  refine .after fun ended => ?_
  cases ended with
  | ok content =>
    have happends : (s.appendOutput content : Run σ Session).Appends none s :=
      s.appends_appendOutput content
    exact happends.ensures
  | error f => exact .after fun _ => .pure (.refl s)

theorem silent_runBranches (h : ∀ src ∈ srcs, src.Silent target) (hquiet : s.echo = false)
    (index : Nat) : (runBranches s index srcs).Silent target := by
  induction srcs generalizing index with
  | nil => exact .pure []
  | cons src rest ih =>
    rw [List.forall_mem_cons] at h
    refine (silent_runBranch h.1 hquiet index).outcome.bind fun first => ?_
    exact (ih h.2 (index + 1)).bind fun others => .pure _

theorem ensures_runBranches (s : Session) (index : Nat) (srcs : List (Source σ)) :
    (runBranches s index srcs).Ensures fun outcomes => ∀ o, .ok o ∈ outcomes → s.Continues o := by
  induction srcs generalizing index with
  | nil => exact .pure nofun
  | cons src rest ih =>
    refine .bind (ensures_runBranch src s index).outcome fun first hfirst => ?_
    refine .bind (ih (index + 1)) fun others hothers => .pure fun o ho => ?_
    rcases List.mem_cons.1 ho with ho | ho
    · exact hfirst o ho.symm
    · exact hothers o ho

/-- A parallel template appends what its strategy keeps. -/
theorem appends_run {p : Parallel σ} (h : p.Silent target) (s : Session) :
    (p.run s).Appends target s := by
  -- All branches start from one quiet copy, and so does the strategy; only `rejoin` knows the echo.
  let quiet := s.withEcho false none
  have hquiet : quiet.echo = false := rfl
  rw [run_eq]
  refine .ite (.pure (.refl s)) ?_
  refine .after (silent_runBranches (fun src => silent_of_mem_issueOrder h) hquiet 0)
    (ensures_runBranches quiet 0 p.issueOrder) fun outcomes houtcomes => ?_
  refine .after (P := fun sessions => ∀ o ∈ sessions, quiet.Continues o) (.ofExcept _)
    (.ofExcept fun sessions hsessions o ho => ?_) fun sessions hsessions => ?_
  · rw [Task.allAnswers_eq_ok_iff.1 hsessions] at houtcomes
    exact houtcomes o (List.mem_map_of_mem ho)
  refine .after (Strategy.silent_aggregate h.strategy hquiet sessions)
    (Strategy.ensures_aggregate h.strategy hsessions) fun merged hmerged => ?_
  obtain ⟨ms, hextends⟩ := hmerged
  exact Session.appends_rejoin hextends.messages hextends.observer

end Parallel

end Colloquy
