import Colloquy.Proofs.Source.Cursor
import Colloquy.Proofs.Source.Gate
import Colloquy.Proofs.Source.Upkeep

/-!
# What a run draws

Without middleware, nothing stands between the attempts of a run and the positions of the list that is asked.  Each
attempt that finds an item draws just one of them, the next one in the order of the member, and it is this item that is
judged (`HasPlace.round`).  An attempt that finds the list used up may be repeated by the retry policy, but in vain, and
ends the run.  `ListFamily.deals` sums up what families of lists are sure of.

What callers have handed over to a member may do with the family what it likes, as long as it does not draw on this
member (`Source.Leaves`): the items are counted that the run itself takes.
-/

namespace Colloquy

variable {σ : Type} {items : List Content} {loop : Bool} {members : List (Member σ)} {m : Member σ} {i : Nat}
  {others : List (Member σ) → Prop} {w : Surroundings σ} {s : Session} {feedback : Option String} {st st' : State σ}

open Run

/-! ### Members among others -/

/-- The member after draws that have all found the list used up. -/
def Member.missed (items : List Content) (m : Member σ) (misses : Nat) : Member σ :=
  { m with answers := m.answers ++ List.replicate misses (.error (Source.usedUp items)) }

/-- The member after draws that have all found an item. -/
def Member.served (m : Member σ) (dealt : List Content) : Member σ :=
  { m with answers := m.answers ++ dealt.map .ok }

/-- A member has its place in a family, and the others are as they are meant to be. -/
def HasPlace (items : List Content) (loop : Bool) (i : Nat) (others : List (Member σ) → Prop) (m : Member σ)
    (st : State σ) : Prop :=
  ∃ members, ListFamily items loop members st ∧ members[i]? = some m ∧ others (members.eraseIdx i)

/-- What callers have handed over to a source may change the family, but does not draw on this member of it. -/
structure Source.Leaves (items : List Content) (loop : Bool) (i : Nat) (others : List (Member σ) → Prop)
    (src : Source σ) : Prop where
  validator : ∀ m : Member σ, m.source = src → ∀ v ∈ src.policy.validator,
    Validator.AllMaintain (HasPlace items loop i others m) v.functions
  retry : ∀ m : Member σ, m.source = src → src.policy.retry.Maintains (HasPlace items loop i others m)

namespace HasPlace

/-- Where no position is changed, the member keeps its place. -/
theorem of_eq (h : HasPlace items loop i others m st) (hcursors : st'.cursors = st.cursors)
    (hcells : st'.cells = st.cells) : HasPlace items loop i others m st' := by
  obtain ⟨members, hfamily, hm, hothers⟩ := h
  refine ⟨members, hfamily.meanwhile (Nat.le_of_eq hcells.symm) fun other _ => ?_, hm, hothers⟩
  rw [Source.index?, Source.index?, hcursors]

theorem maintains {α : Type} {r : Run σ α} (h : r.Keeps fun st => (st.cursors, st.cells)) :
    r.Maintains (HasPlace items loop i others m) :=
  h.maintains fun _ _ hsame hst => hst.of_eq (Prod.mk.inj hsame).1 (Prod.mk.inj hsame).2

theorem steady (h : HasPlace items loop i others m st) : ∃ cell, m.Steady items loop st cell := by
  obtain ⟨members, hfamily, hm, -⟩ := h
  exact hfamily.steady.member m (List.mem_of_getElem? hm)

/-- A draw on the member leaves the others as they are. -/
theorem generate (h : HasPlace items loop i others m st) (s : Session) (feedback : Option String) (w : Surroundings σ) :
    ∃ answer st', (Source.generate m.source.origin s feedback).exec w st = (answer, st') ∧
      Source.Deals items loop (m.start + m.answers.length) answer ∧
      HasPlace items loop i others (m.drawn answer) st' := by
  obtain ⟨members, hfamily, hm, hothers⟩ := h
  obtain ⟨answer, cursors, hexec, hdeals, -, -⟩ := hfamily.steady.generate hm s feedback w
  refine ⟨answer, _, hexec, hdeals, members.set i (m.drawn answer), hfamily.draw hm hexec, ?_, ?_⟩
  · exact List.getElem?_set_self (List.getElem?_eq_some_iff.1 hm).1
  · rw [List.eraseIdx_set_eq]
    exact hothers

/-- A list that is used up stays so. -/
theorem not_ok {f : Failure} {c : Content} (h : HasPlace items loop i others ((m.drawn (.error f)).drawn (.ok c)) st) :
    False := by
  obtain ⟨cell, hsteady⟩ := h.steady
  have hmiss := hsteady.deals m.answers.length (.error f) (by simp [Member.drawn])
  have hfound := hsteady.deals (m.answers.length + 1) (.ok c) (by simp [Member.drawn])
  cases hmiss with
  | usedUp hloop hplace =>
    cases hfound with
    | looping hloop' => exact Bool.false_ne_true (hloop.symm.trans hloop')
    | item _ hitem =>
      exact Option.some_ne_none _ (hitem.symm.trans (List.getElem?_eq_none (Nat.le_succ_of_le hplace)))

end HasPlace

/-! ### Calls without middleware -/

namespace Pipeline

variable {p : Pipeline σ} {call : Context → Run σ Content} {ctx : Context}

theorem exec_attempt_bare (hp : p.middlewares = []) (hcache : ctx.usesCache = false) :
    (p.attempt call ctx).exec w st = (call ctx).exec w st := by
  have hbefore : (p.before ctx : Run σ Context) = pure ctx := by
    rw [before, hp]
    rfl
  have hafter (ctx : Context) : (p.after ctx : Run σ Context) = pure ctx := by
    rw [after, hp]
    rfl
  rw [attempt, hbefore, pure_bind]
  simp only [hcache, Bool.false_eq_true, if_false, hafter, pure_bind]
  rw [bind_pure]

theorem exec_setback_bare (hp : p.middlewares = []) (f : Failure) :
    (p.setback ctx f).exec w st = (.ok ⟨f, f, none⟩, st) := by
  rw [setback, onError, hp]
  rfl

/-- Without middleware, a failure is told to nobody but the retry policy. -/
theorem exec_attempts_bare {policy : RetryPolicy σ} {left number : Nat} {current : Context} {previous : Option Failure}
    {answer : Except Failure Content} (hp : p.middlewares = []) (hcache : current.usesCache = false)
    (hcall : (call { current with attempt := number, previous }).exec w st = (answer, st')) :
    (p.attempts call policy left number current previous).exec w st = (match answer with
      | .ok c => (pure c : Run σ Content)
      | .error f => do
        let wait ← (Setback.mk f f none).resume policy number
        match left with
        | 0 => throw f
        | left + 1 => do
          let delay ← Run.ofArithmetic wait.toFloat
          (Setback.mk f f none).pause policy number delay
          p.attempts call policy left (number + 1) current (some f)).exec w st' := by
  have hasked : ({ current with attempt := number, previous } : Context).usesCache = false := hcache
  have hattempt := (exec_attempt_bare hp hasked).trans hcall
  rw [attempts, Run.exec_bind_ok _ (Run.exec_outcome _), hattempt]
  cases answer with
  | ok c => rfl
  | error f => exact Run.exec_bind_ok _ (exec_setback_bare hp f)

end Pipeline

/-! ### One response -/

/-- What the pipeline of a member responds: an item, or a failure after draws that have all found the list used up. -/
inductive Responds (items : List Content) (loop : Bool) (i : Nat) (others : List (Member σ) → Prop) (m : Member σ) :
    Except Failure Content → State σ → Prop
  | item {c st'} (hholds : HasPlace items loop i others (m.drawn (.ok c)) st') :
    Responds items loop i others m (.ok c) st'
  | failure {f misses st'} (hholds : HasPlace items loop i others (m.missed items (misses + 1)) st') :
    Responds items loop i others m (.error f) st'

theorem Responds.of_drawn (h : HasPlace items loop i others (m.drawn (.error (Source.usedUp items))) st) (f : Failure) :
    Responds items loop i others m (.error f) st :=
  @Responds.failure _ _ _ _ _ _ f 0 _ h

/-- After one draw that finds the list used up, all others do. -/
theorem Responds.of_missed {outcome : Except Failure Content}
    (h : Responds items loop i others (m.drawn (.error (Source.usedUp items))) outcome st) :
    Responds items loop i others m outcome st := by
  cases h with
  | item hholds => exact hholds.not_ok.elim
  | @failure f misses _ hholds =>
    have hmore : (m.drawn (.error (Source.usedUp items))).missed items (misses + 1) = m.missed items (misses + 2) := by
      rw [Member.missed, Member.missed, Member.drawn, List.append_assoc, List.singleton_append, ← List.replicate_succ]
    exact .failure (hmore ▸ hholds)

/-- What follows a miss responds, whether it is done in vain or not, if it goes on to a response. -/
theorem exists_responds_bind {α : Type} {r : Run σ α} {k : α → Run σ Content}
    (hr : r.Maintains (HasPlace items loop i others (m.drawn (.error (Source.usedUp items)))))
    (h : HasPlace items loop i others (m.drawn (.error (Source.usedUp items))) st)
    (hk : ∀ a st, HasPlace items loop i others (m.drawn (.error (Source.usedUp items))) st →
      ∃ outcome st', (k a).exec w st = (outcome, st') ∧ Responds items loop i others m outcome st') :
    ∃ outcome st', (r >>= k).exec w st = (outcome, st') ∧ Responds items loop i others m outcome st' := by
  have hheld := hr w st h
  rcases hexec : r.exec w st with ⟨f | a, st₁⟩
  · rw [hexec] at hheld
    exact ⟨_, _, exec_bind_error _ hexec, .of_drawn hheld f⟩
  · rw [hexec] at hheld
    rw [exec_bind_ok _ hexec]
    exact hk a st₁ hheld

namespace Pipeline

variable {p : Pipeline σ} {src : Source σ} {policy : RetryPolicy σ} {current : Context}

/-- **Attempts at a response.**  The first one finds an item, or all of them miss. -/
theorem attempts_responds (hp : p.middlewares = [])
    (hpolicy : ∀ m : Member σ, m.source = src → policy.Maintains (HasPlace items loop i others m))
    (hcache : current.usesCache = false) (w : Surroundings σ) (feedback : Option String) (left : Nat)
    (hsrc : m.source = src) (h : HasPlace items loop i others m st) (number : Nat) (previous : Option Failure) :
    ∃ outcome st',
    (p.attempts (fun ctx => Source.generate src.origin ctx.session feedback) policy left number current previous).exec
      w st = (outcome, st') ∧ Responds items loop i others m outcome st' := by
  -- The attempts that are left after a miss are made by the member as it is after that draw.
  induction left generalizing m number previous st with
  | zero =>
    obtain ⟨answer, st₁, hexec, hdeals, hdrawn⟩ := h.generate current.session feedback w
    rw [hsrc] at hexec
    rw [exec_attempts_bare hp hcache hexec]
    cases hdeals with
    | looping => exact ⟨_, _, rfl, .item hdrawn⟩
    | item => exact ⟨_, _, rfl, .item hdrawn⟩
    | usedUp =>
      refine exists_responds_bind (.maintains (keeps_resume (fun _ _ => rfl) _ policy number)) hdrawn
        fun _ st hdrawn => ?_
      exact ⟨_, _, rfl, .of_drawn hdrawn _⟩
  | succ left ih =>
    obtain ⟨answer, st₁, hexec, hdeals, hdrawn⟩ := h.generate current.session feedback w
    rw [hsrc] at hexec
    rw [exec_attempts_bare hp hcache hexec]
    cases hdeals with
    | looping => exact ⟨_, _, rfl, .item hdrawn⟩
    | item => exact ⟨_, _, rfl, .item hdrawn⟩
    | usedUp =>
      refine exists_responds_bind (.maintains (keeps_resume (fun _ _ => rfl) _ policy number)) hdrawn
        fun wait st hdrawn => ?_
      refine exists_responds_bind (.ofArithmetic _) hdrawn fun delay st hdrawn => ?_
      have hpause := maintains_pause_of (P := HasPlace items loop i others (m.drawn (.error (Source.usedUp items))))
        (fun _ _ _ => HasPlace.maintains (.modify fun _ => rfl))
        (fun _ => HasPlace.maintains (Keeps.read.bind fun _ => .modify fun _ => rfl)) (hpolicy _ hsrc)
        ⟨Source.usedUp items, Source.usedUp items, none⟩ number delay
      refine exists_responds_bind hpause hdrawn fun _ st hdrawn => ?_
      obtain ⟨outcome, st', hrest, hresponds⟩ :=
        ih (m := m.drawn (.error (Source.usedUp items))) hsrc hdrawn (number + 1) (some (Source.usedUp items))
      exact ⟨outcome, st', hrest, hresponds.of_missed⟩

end Pipeline

/-! ### One attempt -/

namespace Source

variable {src : Source σ}

/-- A policy that allows no attempt is all that there is to a response. -/
theorem exec_response_of_attempts {f : Failure} (hattempts : src.policy.retry.attempts = .error f) :
    (src.response s feedback).exec w st = (.error f, st) := by
  rw [response, Pipeline.execute, hattempts]
  exact exec_bind_error _ (exec_throw f)

/-- A member without middleware responds, if its retry policy allows an attempt. -/
theorem response_responds (hempty : src.policy.pipeline.middlewares = []) (hleaves : src.Leaves items loop i others)
    (hsrc : m.source = src) (h : HasPlace items loop i others m st) {count : Nat}
    (hattempts : src.policy.retry.attempts = .ok count) (s : Session) (feedback : Option String) (w : Surroundings σ) :
    ∃ outcome st', (src.response s feedback).exec w st = (outcome, st') ∧
      Responds items loop i others m outcome st' := by
  obtain ⟨outcome, st', hexec, hresponds⟩ := Pipeline.attempts_responds hempty hleaves.retry
    (usesCache_contextFor src s feedback) w feedback (count - 1) hsrc h 1 none
  refine ⟨outcome, st', ?_, hresponds⟩
  rw [response, Pipeline.execute, hattempts]
  exact (exec_bind_ok _ (exec_pure count)).trans hexec

theorem exec_transformation_bare (hempty : src.policy.pipeline.middlewares = []) (raw : Content) :
    (src.transformation s feedback raw).exec w st = (.ok (.plain raw.text), st) := by
  rw [transformation, hempty]
  rfl

/-- There only is a candidate if the retry policy allows an attempt. -/
theorem Produces.attempts {candidate : Content} (hproduce : src.Produces w s feedback st candidate st') :
    ∃ count, src.policy.retry.attempts = .ok count := by
  obtain ⟨raw, generated, transformed, hraw, -⟩ := hproduce
  cases hattempts : src.policy.retry.attempts with
  | ok count => exact ⟨count, rfl⟩
  | error f => cases (exec_response_of_attempts hattempts).symm.trans hraw

/-- A candidate is the item that was drawn for it, but for what a structure was read as. -/
theorem Produces.holds {candidate : Content} (hempty : src.policy.pipeline.middlewares = [])
    (hleaves : src.Leaves items loop i others) (hsrc : m.source = src) (h : HasPlace items loop i others m st)
    (hproduce : src.Produces w s feedback st candidate st') :
    ∃ item, candidate.bare = item.bare ∧ HasPlace items loop i others (m.drawn (.ok item)) st' := by
  obtain ⟨count, hattempts⟩ := hproduce.attempts
  obtain ⟨outcome, st₁, hresponse, hresponds⟩ := response_responds hempty hleaves hsrc h hattempts s feedback w
  obtain ⟨raw, generated, transformed, hraw, htransformed, hretexts⟩ := hproduce
  cases hresponse.symm.trans hraw
  cases (exec_transformation_bare hempty raw).symm.trans htransformed
  cases hresponds with
  | item hholds => exact ⟨raw, hretexts.bare_eq, hholds⟩

/-- How often an attempt without a candidate has missed: at least once where the list is used up, and never where the
retry policy allows no attempt to draw. -/
inductive Misses (src : Source σ) (f : Failure) : Nat → Prop
  | usedUp {count : Nat} (hattempts : src.policy.retry.attempts = .ok count) (misses : Nat) : Misses src f (misses + 1)
  | unattempted (hattempts : src.policy.retry.attempts = .error f) : Misses src f 0

theorem FailsToProduce.holds {f : Failure} (hempty : src.policy.pipeline.middlewares = [])
    (hleaves : src.Leaves items loop i others) (hsrc : m.source = src) (h : HasPlace items loop i others m st)
    (hproduce : src.FailsToProduce w s feedback st f st') :
    ∃ misses, src.Misses f misses ∧ HasPlace items loop i others (m.missed items misses) st' := by
  cases hattempts : src.policy.retry.attempts with
  | error g =>
    have hresponse : (src.response s feedback).exec w st = (.error g, st) := exec_response_of_attempts hattempts
    have hsame : f = g ∧ st' = st := by
      rcases hproduce with hfailed | ⟨raw, generated, hraw, -⟩
      · cases hfailed.symm.trans hresponse
        exact ⟨rfl, rfl⟩
      · cases hraw.symm.trans hresponse
    obtain ⟨rfl, rfl⟩ := hsame
    refine ⟨0, .unattempted hattempts, ?_⟩
    rwa [Member.missed, List.replicate_zero, List.append_nil]
  | ok count =>
    obtain ⟨outcome, st₁, hresponse, hresponds⟩ := response_responds hempty hleaves hsrc h hattempts s feedback w
    rcases hproduce with hfailed | ⟨raw, generated, hraw, htransformed⟩
    · cases hresponse.symm.trans hfailed
      cases hresponds with
      | @failure _ misses _ hholds => exact ⟨misses + 1, .usedUp hattempts misses, hholds⟩
    · exact nomatch (exec_transformation_bare hempty raw).symm.trans htransformed

/-- The judgement of a candidate does not draw on the member. -/
theorem Judges.holds {candidate : Content} {outcome : Except Failure (Verdict × Content)}
    (hleaves : src.Leaves items loop i others) (hsrc : m.source = src) (h : HasPlace items loop i others m st)
    (hjudge : src.Judges w s candidate st outcome st') : HasPlace items loop i others m st' := by
  have hinspected {own : Option Verdict} {content : Content} {st₁ : State σ}
      (hinspect : src.Inspects w candidate st own content st₁) : HasPlace items loop i others m st₁ := by
    have hheld := HasPlace.maintains (keeps_inspect (fun _ _ => .modify fun _ => rfl) (fun _ _ => rfl)
      src.origin candidate) w st h
    rwa [hinspect.1] at hheld
  cases hjudge with
  | refused hinspect => exact hinspected hinspect
  | unvalidated hinspect => exact hinspected hinspect
  | @validated _ _ _ _ validator _ hinspect hpassed hsome hjudge =>
    have hheld := Validator.maintains_judge validator (hleaves.validator m hsrc validator hsome) candidate.text s w _
      (hinspected hinspect)
    rwa [hjudge] at hheld

end Source

/-- **One attempt** of a member without middleware.  Either it draws an item, which it judges, or it comes to no
candidate at all, because the list is used up or the retry policy allows no attempt. -/
theorem HasPlace.round (h : HasPlace items loop i others m st) (hempty : m.source.policy.pipeline.middlewares = [])
    (hleaves : m.source.Leaves items loop i others) {outcome : Except Failure (Verdict × Content)}
    (hends : m.source.Ends w s feedback st outcome st') :
    (∃ item candidate st₁, m.source.Produces w s feedback st candidate st₁ ∧ candidate.bare = item.bare ∧
      HasPlace items loop i others (m.drawn (.ok item)) st') ∨
      ∃ f misses, outcome = .error f ∧ m.source.Misses f misses ∧
        HasPlace items loop i others (m.missed items misses) st' := by
  have hjudged {candidate : Content} {judged : Except Failure (Verdict × Content)} {st₁ st₂ : State σ}
      (hproduce : m.source.Produces w s feedback st candidate st₁)
      (hjudge : m.source.Judges w s candidate st₁ judged st₂) :
      ∃ item, candidate.bare = item.bare ∧ HasPlace items loop i others (m.drawn (.ok item)) st₂ := by
    obtain ⟨item, hbare, hheld⟩ := hproduce.holds hempty hleaves rfl h
    exact ⟨item, hbare, hjudge.holds (m := m.drawn (.ok item)) hleaves rfl hheld⟩
  cases hends with
  | unproduced hproduce =>
    obtain ⟨misses, hmisses, hholds⟩ := hproduce.holds hempty hleaves rfl h
    exact .inr ⟨_, misses, rfl, hmisses, hholds⟩
  | unjudged hproduce hjudge =>
    obtain ⟨item, hbare, hheld⟩ := hjudged hproduce hjudge
    exact .inl ⟨item, _, _, hproduce, hbare, hheld⟩
  | accepted hproduce hjudge =>
    obtain ⟨item, hbare, hheld⟩ := hjudged hproduce hjudge
    exact .inl ⟨item, _, _, hproduce, hbare, hheld⟩
  | rejected hproduce hjudge hvalid htell =>
    -- There is no middleware that the rejection could be told to.
    rw [Source.rejection, hempty] at htell
    cases htell
    obtain ⟨item, hbare, hheld⟩ := hjudged hproduce hjudge
    exact .inl ⟨item, _, _, hproduce, hbare, hheld⟩

/-! ### Runs -/

theorem Member.served_drawn (m : Member σ) (dealt : List Content) (c : Content) :
    (m.served dealt).drawn (.ok c) = m.served (dealt ++ [c]) := by
  rw [served, served, drawn, List.map_append, List.append_assoc]
  rfl

/-- Items that attempts have drawn, one by each of the first of them, for their candidates.  A candidate is its item,
but for what a structure was read as. -/
def Source.Serves (src : Source σ) (w : Surroundings σ) (s : Session) (trials : List (Source.Round σ))
    (dealt : List Content) : Prop :=
  ∀ (k : Nat) (r : Source.Round σ) (item : Content), trials[k]? = some r → dealt[k]? = some item →
    ∃ candidate st₁, src.Produces w s r.feedback r.entered candidate st₁ ∧ candidate.bare = item.bare

theorem Source.Serves.append {src : Source σ} {trials : List (Source.Round σ)} {dealt : List Content}
    {r : Source.Round σ} {item candidate : Content} (h : src.Serves w s trials dealt)
    (hr : trials[dealt.length]? = some r) (hproduce : src.Produces w s r.feedback r.entered candidate st)
    (hbare : candidate.bare = item.bare) : src.Serves w s trials (dealt ++ [item]) := by
  intro k r' c' hr' hc'
  rcases Nat.lt_or_ge k dealt.length with hlt | hge
  · rw [List.getElem?_append_left hlt] at hc'
    exact h k r' c' hr' hc'
  · rw [List.getElem?_append_right hge, List.getElem?_singleton] at hc'
    obtain ⟨hlast, hsame⟩ := Option.ite_none_right_eq_some.1 hc'
    obtain rfl : k = dealt.length := Nat.le_antisymm (Nat.sub_eq_zero_iff_le.1 hlast) hge
    cases hr.symm.trans hr'
    cases hsame
    exact ⟨candidate, st, hproduce, hbare⟩

/-- What a run has drawn for its attempts: one item for each, or the last attempt found the list used up, or there was
but one attempt and it was not allowed to draw. -/
inductive Source.Consumes (src : Source σ) (trials : List (Source.Round σ)) (last : Source.Round σ)
    (dealt : List Content) : Nat → Prop
  | each {count : Nat} (hattempts : src.policy.retry.attempts = .ok count) (hlength : dealt.length = trials.length) :
    Consumes src trials last dealt 0
  | usedUp {count : Nat} {f : Failure} (hattempts : src.policy.retry.attempts = .ok count)
      (hlength : dealt.length + 1 = trials.length) (hfailed : last.outcome = .error f) (misses : Nat) :
    Consumes src trials last dealt (misses + 1)
  | unattempted {f : Failure} (hattempts : src.policy.retry.attempts = .error f) (honly : trials.length = 1)
      (hnone : dealt = []) (hfailed : last.outcome = .error f) : Consumes src trials last dealt 0

/-- Where the retry policy allows no attempt to draw, no items were drawn. -/
theorem Source.Serves.eq_nil {src : Source σ} {trials : List (Source.Round σ)} {dealt : List Content} {f : Failure}
    (h : src.Serves w s trials dealt) (hattempts : src.policy.retry.attempts = .error f)
    (hle : dealt.length ≤ trials.length) : dealt = [] := by
  cases dealt with
  | nil => rfl
  | cons item rest =>
    obtain ⟨candidate, st₁, hproduce, -⟩ := h 0 _ item (List.getElem?_eq_getElem (Nat.lt_of_succ_le
      (Nat.le_trans (Nat.le_add_left 1 _) hle))) rfl
    obtain ⟨count, hcount⟩ := hproduce.attempts
    cases hattempts.symm.trans hcount

section

variable {limit number : Nat} {trials : List (Source.Round σ)} {r : Source.Round σ}

/-- An attempt of a run begins after one item was drawn for each attempt before it. -/
theorem HasPlace.rounds (hempty : m.source.policy.pipeline.middlewares = [])
    (hleaves : m.source.Leaves items loop i others)
    (hchain : (m.source.rounds w s).Chain limit number feedback trials)
    (h : ∀ r ∈ trials.head?, HasPlace items loop i others m r.entered) {k : Nat} (hr : trials[k]? = some r) :
    ∃ dealt, dealt.length = k ∧ m.source.Serves w s trials dealt ∧
      HasPlace items loop i others (m.served dealt) r.entered := by
  -- The induction is on the attempts before this one, each of which was rejected and so has drawn an item.
  induction k generalizing r with
  | zero =>
    refine ⟨[], rfl, fun k r c _ hnone => absurd hnone (by simp), ?_⟩
    rw [Member.served, List.map_nil, List.append_nil]
    rw [← List.head?_eq_getElem?] at hr
    exact h r hr
  | succ k ih =>
    obtain ⟨hlt, rfl⟩ := List.getElem?_eq_some_iff.1 hr
    have hk : k < trials.length := Nat.lt_of_succ_lt hlt
    obtain ⟨dealt, rfl, hserves, hheld⟩ := ih (List.getElem?_eq_getElem hk)
    obtain ⟨verdict, content, houtcome, hinvalid⟩ := ((hchain.continues dealt.length hk).1 hlt).2
    have hends := (hchain.starts dealt.length hk).2
    rcases hheld.round hempty hleaves hends with
      ⟨item, candidate, st₁, hproduce, hbare, hdrawn⟩ | ⟨f, misses, herror, -⟩
    · refine ⟨dealt ++ [item], List.length_append, hserves.append (List.getElem?_eq_getElem hk) hproduce hbare, ?_⟩
      rw [Member.served_drawn] at hdrawn
      rw [hchain.joins dealt.length hlt]
      exact hdrawn.of_eq rfl rfl
    · exact nomatch houtcome.symm.trans herror

/-- The answer to the last attempt moves no position. -/
theorem HasPlace.answer (h : HasPlace items loop i others m r.left) (src : Source σ) :
    HasPlace items loop i others m (r.answer src).2 := by
  rw [Source.Round.answer]
  split
  · exact h
  · dsimp only
    split
    · exact h
    · split
      · exact h
      · exact h.of_eq rfl rfl

/-- **The law of draws.**  A run draws one item for each of its attempts, in which it is judged, but for a last one that
comes to no candidate: there the list was used up, or the retry policy allows no attempt to draw. -/
theorem HasPlace.getContent (h : HasPlace items loop i others m st) (hempty : m.source.policy.pipeline.middlewares = [])
    (hleaves : m.source.Leaves items loop i others) (s : Session) (w : Surroundings σ) :
    ∃ trials last dealt misses,
      (m.source.rounds w s).Chain m.source.policy.maxAttempts 1 none trials ∧
      (∀ r ∈ trials.head?, r.entered = st) ∧ trials.getLast? = some last ∧
      (m.source.getContent s).exec w st = last.answer m.source ∧ m.source.Serves w s trials dealt ∧
      HasPlace items loop i others ((m.served dealt).missed items misses) (last.answer m.source).2 ∧
      m.source.Consumes trials last dealt misses := by
  have hrun := m.source.attemptsAt_rounds w s (m.source.policy.maxAttempts - 1) 1 none st
  rw [Nat.sub_add_cancel m.source.policy.maxAttempts_pos] at hrun
  obtain ⟨trials, last, hchain, hentered, hlast, hexec⟩ := hrun
  have hpos := List.length_pos_iff.2 hchain.ne_nil
  have hat := hlast
  rw [List.getLast?_eq_getElem?] at hat
  obtain ⟨hk, hsame⟩ := List.getElem?_eq_some_iff.1 hat
  obtain ⟨dealt, hlength, hserves, hheld⟩ :=
    HasPlace.rounds hempty hleaves hchain (fun r hr => hentered r hr ▸ h) hat
  have hends := (hchain.starts _ hk).2
  rw [hsame] at hends
  rcases hheld.round hempty hleaves hends with
    ⟨item, candidate, st₁, hproduce, hbare, hdrawn⟩ | ⟨f, misses, herror, hmisses, hmissed⟩
  · have hserved := hserves.append (hlength ▸ hat) hproduce hbare
    obtain ⟨count, hattempts⟩ := hproduce.attempts
    refine ⟨trials, last, dealt ++ [item], 0, hchain, hentered, hlast, hexec, hserved, ?_, .each hattempts ?_⟩
    · rw [Member.missed, List.replicate_zero, List.append_nil, ← Member.served_drawn]
      exact hdrawn.answer _
    · rw [List.length_append, List.length_singleton]
      omega
  · refine ⟨trials, last, dealt, misses, hchain, hentered, hlast, hexec, hserves, hmissed.answer _, ?_⟩
    cases hmisses with
    | usedUp hattempts misses => exact .usedUp hattempts (by omega) herror misses
    | unattempted hattempts =>
      have hnone := hserves.eq_nil hattempts (by omega)
      rw [hnone, List.length_nil] at hlength
      exact .unattempted hattempts (by omega) hnone herror

end

/-! ### The law of lists -/

/-- **List cursors.**  Every member of a family stands between the start and the end of the list, and has answered its
draws one place after the other from where it began; once it is used up it rests at the end.  A draw deals what is due,
and moves no other member.  A run without middleware draws exactly one item for each of its attempts, unless the last
one finds the list used up, and no further draw finds an item then.  If its retry policy allows no attempt to draw, the
run makes but one, which fails and takes nothing (`Source.Consumes`). -/
theorem ListFamily.deals (h : ListFamily items loop members st) :
    (∀ m ∈ members, ∃ index, m.source.index? st = some index ∧ index ≤ items.length ∧
      (loop = false → items.length ≤ m.start + m.answers.length → index = items.length) ∧
      ∀ k answer, m.answers[k]? = some answer → Source.Deals items loop (m.start + k) answer) ∧
    ∀ i m, members[i]? = some m →
      (∀ (w : Surroundings σ) (s : Session) (feedback : Option String), ∃ answer st',
        (Source.generate m.source.origin s feedback).exec w st = (answer, st') ∧
        Source.Deals items loop (m.start + m.answers.length) answer ∧
        ListFamily items loop (members.set i (m.drawn answer)) st' ∧
        ∀ j other, j ≠ i → members[j]? = some other → other.source.index? st' = other.source.index? st) ∧
      ∀ others : List (Member σ) → Prop, others (members.eraseIdx i) → m.source.policy.pipeline.middlewares = [] →
        m.source.Leaves items loop i others → ∀ (w : Surroundings σ) (s : Session), ∃ trials last dealt misses,
          (m.source.rounds w s).Chain m.source.policy.maxAttempts 1 none trials ∧
          (∀ r ∈ trials.head?, r.entered = st) ∧ trials.getLast? = some last ∧
          (m.source.getContent s).exec w st = last.answer m.source ∧ m.source.Serves w s trials dealt ∧
          HasPlace items loop i others ((m.served dealt).missed items misses) (last.answer m.source).2 ∧
          m.source.Consumes trials last dealt misses := by
  have hsteady := h.steady
  have hn : 0 < items.length := List.length_pos_iff.2 hsteady.items_ne_nil
  refine ⟨fun m hm => ?_, fun i m hm => ⟨fun w s feedback => ?_, fun others hothers hempty hleaves w s => ?_⟩⟩
  · obtain ⟨cell, hm⟩ := hsteady.member m hm
    refine ⟨_, hm.index?_eq st, ?_, fun hloop hend => ?_, hm.deals⟩
    · rw [hm.stands]
      exact Source.standing_le hn hm.start_le _
    · rw [hm.stands, hloop]
      exact Nat.min_eq_right hend
  · obtain ⟨answer, cursors, hexec, hdeals, -, helsewhere⟩ := hsteady.generate hm s feedback w
    exact ⟨answer, _, hexec, hdeals, h.draw hm hexec, helsewhere⟩
  · exact HasPlace.getContent ⟨members, h, hm, hothers⟩ hempty hleaves s w

/-- A copy that is made at the end of a list that loops begins with the first item again, and a run of its parent goes
on without regard to it. -/
theorem ListFamily.deals_two :
    let items : List Content := [.plain (.int 7), .plain (.int 8)]
    ∃ (members : List (Member Unit)) (st : State Unit) (m own : Member Unit),
      ListFamily items true members st ∧ members = [m, own] ∧ own.start = 2 ∧
        own.answers = [.ok (.plain (.int 7))] ∧ (∃ index, own.source.index? st = some index ∧ index ≤ 2) ∧
        Source.Deals items true 2 (.ok (.plain (.int 7))) ∧ m.source.policy.pipeline.middlewares = [] ∧
        m.source.Leaves items true 0 (· = [own]) ∧ ∃ trials last dealt misses,
          (m.source.rounds (.alone Unit) {}).Chain 1 1 none trials ∧ trials.getLast? = some last ∧
          m.source.Serves (.alone Unit) {} trials dealt ∧
          HasPlace items true 0 (· = [own]) ((m.served dealt).missed items misses) (last.answer m.source).2 := by
  intro items
  let w := Surroundings.alone Unit
  have hroot : ListFamily items true [{ source := ⟨.list items true 0, {}⟩, start := 0 }] { cells := 1, host := () } :=
    @ListFamily.root _ items true w {} _ { host := () } _ rfl rfl
  have hdraw {members : List (Member Unit)} {st : State Unit} {m : Member Unit} (h : ListFamily items true members st)
      (i : Nat) (hm : members[i]? = some m) : ListFamily items true
        (members.set i (m.drawn ((Source.generate m.source.origin {} none).exec w st).1))
        ((Source.generate m.source.origin {} none).exec w st).2 := h.draw hm rfl
  have hend := hdraw (hdraw hroot 0 rfl) 0 rfl
  have hderived := hend.derive (w := w) List.mem_cons_self (.withRaiseOnFailure false) rfl rfl
  have hdrawn := hdraw hderived 1 rfl
  obtain ⟨hstands, hdraws⟩ := ListFamily.deals hdrawn
  obtain ⟨index, hindex, hle, -, hdeals⟩ := hstands _ (List.mem_cons_of_mem _ (List.mem_singleton_self _))
  have hleaves (others : List (Member Unit) → Prop) :
      (⟨.list items true 0, {}⟩ : Source Unit).Leaves items true 0 others :=
    ⟨fun _ _ v hv => absurd hv (Option.not_mem_none v), fun _ _ notify h => absurd h (Option.not_mem_none notify)⟩
  obtain ⟨trials, last, dealt, misses, hchain, -, hlast, -, hserves, hholds, -⟩ :=
    (hdraws 0 _ rfl).2 (· = _) rfl rfl (hleaves _) w {}
  exact ⟨_, _, _, _, hdrawn, rfl, rfl, rfl, ⟨index, hindex, hle⟩, hdeals 0 _ rfl, rfl, hleaves _, trials, last, dealt,
    misses, hchain, hlast, hserves, hholds⟩

/-- A run whose retry policy allows no attempt makes one at content all the same, which fails before it draws on the
list: no item is taken. -/
theorem Source.getContent_unattempted :
    let src : Source Unit :=
      ⟨.list [.plain (.int 7), .plain (.int 8)] true 0, { retry := { maxAttempts := .int 0 } }⟩
    ∃ last f, (src.rounds (.alone Unit) {}).Chain src.policy.maxAttempts 1 none [last] ∧
      (src.getContent {}).exec (.alone Unit) { host := () } = last.answer src ∧ (last.answer src).1 = .error f ∧
      f.text = "max_attempts must be at least 1, got 0" ∧ src.index? (last.answer src).2 = some 0 := by
  intro src
  obtain ⟨trials, last, hchain, -, hlast, hanswer⟩ := getContent_gate src {} (.alone Unit) { host := () }
  obtain ⟨f, hf, htext⟩ : ∃ f, (last.answer src).1 = .error f ∧ f.text = "max_attempts must be at least 1, got 0" := by
    rw [← hanswer]
    exact exists_error_of_failureText (by decide +kernel)
  have hindex : src.index? (last.answer src).2 = some 0 := by
    rw [← hanswer]
    decide +kernel
  -- There is one attempt, since no more are allowed.
  have honly : trials = [last] := by
    obtain ⟨first, rest, rfl⟩ := List.exists_cons_of_ne_nil hchain.ne_nil
    obtain rfl : rest = [] := List.length_eq_zero_iff.1 (Nat.le_zero.1 (Nat.le_of_succ_le_succ hchain.length_le))
    exact congrArg ([·]) (Option.some.inj hlast)
  exact ⟨last, f, honly ▸ hchain, hanswer, hf, htext, hindex⟩

end Colloquy
