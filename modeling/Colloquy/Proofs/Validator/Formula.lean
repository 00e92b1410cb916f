import Colloquy.Validator.Judge

/-!
# Trees of validators as formulas

A tree of combinations reads as a formula of conjunctions and disjunctions over its leaves (`truth`).  Judging by a tree
runs leaves one after the other, from left to right and each at most once (`Visits`); it goes no further in a
combination than to the child that decides, and each combination reports as it should (`Follows`).  Where no leaf fails,
the verdict is the value of the formula, whatever the leaves that were not asked would have said; a leaf that fails is
the end of it all (`judge_formula`).
-/

namespace Colloquy.Validator

variable {σ : Type}

/-! ### Places -/

/-- A place in a tree of validators: from the root on, the number of each child on the way. -/
abbrev Place := List Nat

mutual

/-- The leaf that stands at a place. -/
def leafAt? : Validator σ → Place → Option (Validator σ)
  | all validators _, n :: place | any validators _, n :: place => leafAmong? validators n place
  | all .., [] | any .., [] => none
  | v, [] => some v
  | _, _ :: _ => none

/-- The leaf that stands at a place within one of several trees. -/
def leafAmong? : List (Validator σ) → Nat → Place → Option (Validator σ)
  | [], _, _ => none
  | v :: _, 0, place => leafAt? v place
  | _ :: rest, n + 1, place => leafAmong? rest n place

end

mutual

/-- The value of a tree as a formula, given the values of its leaves. -/
def truth (value : Place → Bool) : Validator σ → Bool
  | all validators _ => (truths value 0 validators).all id
  | any validators _ => (truths value 0 validators).any id
  | _ => value []

/-- The values of the children of a combination, from a number on. -/
def truths (value : Place → Bool) (n : Nat) : List (Validator σ) → List Bool
  | [] => []
  | v :: rest => truth (fun place => value (n :: place)) v :: truths value (n + 1) rest

end

/-! ### Trials -/

/-- What comes of judging by a tree: the outcome of a leaf, or the trials of the first children of a combination with
its outcome. -/
inductive Trial where
  | leaf (outcome : Except Failure Verdict)
  | node (parts : List Trial) (outcome : Except Failure Verdict)

/-- A leaf that was asked, by its place, and its outcome. -/
abbrev Visit := Place × Except Failure Verdict

namespace Trial

/-- The outcome of a trial. -/
def outcome : Trial → Except Failure Verdict
  | leaf outcome | node _ outcome => outcome

mutual

/-- The leaves that were asked, in order. -/
def visits : Trial → List Visit
  | leaf outcome => [([], outcome)]
  | node parts _ => visitsFrom 0 parts

/-- The leaves that were asked in several trees, from a number on. -/
def visitsFrom (n : Nat) : List Trial → List Visit
  | [] => []
  | t :: rest => t.visits.map (fun visit => (n :: visit.1, visit.2)) ++ visitsFrom (n + 1) rest

end

end Trial

/-- The instructions of verdicts that have one which is not empty. -/
def instructions (verdicts : List Verdict) : List String :=
  (verdicts.filterMap (·.instruction)).filter (· ≠ "")

/-- What a combination says all of whose alternatives were rejected: its description, and the instructions of all. -/
def instruct (description : String) (verdicts : List Verdict) : String :=
  if instructions verdicts = [] then description
  else description ++ ": " ++ "; ".intercalate (instructions verdicts)

/-- What a combination of `n` children reports, by the outcomes of the children that were asked.  A child decides whose
verdict is `decisive`, and so does one that fails: it is the last that is asked.  Where no child decides, all are asked,
and the report is made from their verdicts. -/
inductive Reports (decisive : Bool) (undecided : List Verdict → Verdict) (n : Nat) :
    List (Except Failure Verdict) → Except Failure Verdict → Prop where
  | passes {verdicts : List Verdict} (hlength : verdicts.length = n) (hpasses : ∀ v ∈ verdicts, v.isValid = !decisive) :
    Reports decisive undecided n (verdicts.map .ok) (.ok (undecided verdicts))
  | decides {before : List Verdict} {verdict : Verdict} (hpasses : ∀ v ∈ before, v.isValid = !decisive)
      (hdecides : verdict.isValid = decisive) :
    Reports decisive undecided n (before.map .ok ++ [.ok verdict]) (.ok verdict)
  | fails {before : List Verdict} (hpasses : ∀ v ∈ before, v.isValid = !decisive) (failure : Failure) :
    Reports decisive undecided n (before.map .ok ++ [.error failure]) (.error failure)

mutual

/-- A trial of a tree that asks no child behind the one that decides, and in which each combination reports as it
should: a rejection decides a conjunction, an acceptance a disjunction. -/
def Follows : Validator σ → Trial → Prop
  | all validators _, .node parts outcome =>
    FollowsEach validators parts ∧
      Reports false (fun _ => .accept) validators.length (parts.map Trial.outcome) outcome
  | any validators description, .node parts outcome =>
    FollowsEach validators parts ∧
      Reports true (fun verdicts => .reject (instruct description verdicts)) validators.length
        (parts.map Trial.outcome) outcome
  | all .., .leaf _ | any .., .leaf _ => False
  | _, .leaf _ => True
  | _, .node .. => False

/-- Trials of the first of several trees. -/
def FollowsEach : List (Validator σ) → List Trial → Prop
  | _, [] => True
  | [], _ :: _ => False
  | v :: rest, t :: parts => Follows v t ∧ FollowsEach rest parts

end

/-- A run that is nothing but leaves asked one after the other, each found at its place. -/
inductive Visits (find : Place → Option (Validator σ)) (content : Value) (session : Session) (w : Surroundings σ) :
    State σ → List Visit → State σ → Prop where
  | nil (st : State σ) : Visits find content session w st [] st
  | cons {place : Place} {leaf : Validator σ} {outcome : Except Failure Verdict} {st st₁ st₂ : State σ}
      {rest : List Visit} (hleaf : find place = some leaf)
      (hexec : (leaf.judge content session).exec w st = (outcome, st₁))
      (hrest : Visits find content session w st₁ rest st₂) :
    Visits find content session w st ((place, outcome) :: rest) st₂

/-! ### Instructions -/

theorem instructions_concat (verdicts : List Verdict) (v : Verdict) :
    instructions (verdicts ++ [v]) = instructions verdicts ++ (v.instruction.filter (· ≠ "")).toList := by
  rw [instructions, instructions, List.filterMap_append, List.filter_append]
  congr 1
  cases hv : v.instruction with
  | none => simp [hv]
  | some text => by_cases htext : text = "" <;> simp [hv, htext, Option.filter]

/-- Instructions that are joined are not lost. -/
theorem intercalate_ne_empty {texts : List String} (hne : texts ≠ []) (h : ∀ text ∈ texts, text ≠ "") :
    "; ".intercalate texts ≠ "" := by
  intro hempty
  match texts, hne with
  | [text], _ =>
    rw [String.intercalate_singleton] at hempty
    exact h text List.mem_cons_self hempty
  | _ :: _ :: _, _ =>
    rw [String.intercalate_cons_cons] at hempty
    have hchars := congrArg String.toList hempty
    simp at hchars

theorem joinInstructions_instructions (description : String) (verdicts : List Verdict) :
    joinInstructions description (instructions verdicts) = instruct description verdicts := by
  rw [joinInstructions, instruct]
  by_cases hnone : instructions verdicts = []
  · rw [if_pos hnone, hnone]
    exact if_pos rfl
  · have hne : "; ".intercalate (instructions verdicts) ≠ "" :=
      intercalate_ne_empty hnone fun text htext => of_decide_eq_true (List.mem_filter.1 htext).2
    rw [if_neg hnone, if_neg hne]

/-! ### Runs of leaves -/

section

variable {content : Value} {session : Session} {w : Surroundings σ} {st st₁ st₂ : State σ} {visits more : List Visit}
  {find : Place → Option (Validator σ)} {v : Validator σ}

theorem Visits.append (h : Visits find content session w st visits st₁)
    (hmore : Visits find content session w st₁ more st₂) : Visits find content session w st (visits ++ more) st₂ := by
  induction h with
  | nil st => exact hmore
  | cons hleaf hexec _ ih => exact .cons hleaf hexec (ih hmore)

/-- The leaves of a child are leaves of the combination. -/
theorem Visits.within {n : Nat} (h : Visits (fun place => find (n :: place)) content session w st visits st₁) :
    Visits find content session w st (visits.map fun visit => (n :: visit.1, visit.2)) st₁ := by
  induction h with
  | nil st => exact .nil st
  | cons hleaf hexec _ ih => exact .cons hleaf hexec ih

/-! ### Trials of a run -/

/-- A leaf is asked itself. -/
theorem exists_trial_leaf (hleaf : v.leafAt? [] = some v) (hfollows : ∀ outcome, v.Follows (.leaf outcome))
    (st : State σ) : ∃ t st', (v.judge content session).exec w st = (t.outcome, st') ∧ v.Follows t ∧
      Visits v.leafAt? content session w st t.visits st' :=
  ⟨.leaf ((v.judge content session).exec w st).1, ((v.judge content session).exec w st).2, rfl, hfollows _,
    .cons hleaf rfl (.nil _)⟩

/-- Behind a child that was asked, the rest are asked with the next number. -/
theorem Visits.cons_child {n : Nat} {t : Trial} {parts : List Trial}
    (hfind : ∀ place, find (n :: place) = v.leafAt? place)
    (h : Visits v.leafAt? content session w st t.visits st₁)
    (hrest : Visits find content session w st₁ (Trial.visitsFrom (n + 1) parts) st₂) :
    Visits find content session w st (Trial.visitsFrom n (t :: parts)) st₂ := by
  rw [Trial.visitsFrom]
  exact Visits.append (Visits.within (by simpa only [hfind] using h)) hrest

/-- A procedure that judges by several trees, given the verdicts of those before, until a verdict decides. -/
structure Scans (decisive : Bool) (undecided : List Verdict → Verdict)
    (ask : List Verdict → List (Validator σ) → Run σ Verdict) (content : Value) (session : Session) : Prop where
  ask_nil : ∀ earlier, ask earlier [] = pure (undecided earlier)
  ask_cons : ∀ earlier v rest, ask earlier (v :: rest) = v.judge content session >>= fun verdict =>
    if verdict.isValid = decisive then pure verdict else ask (earlier ++ [verdict]) rest

theorem scans_judgeAll :
    Scans false (fun _ => .accept) (fun _ (vs : List (Validator σ)) => judgeAll vs content session)
      content session where
  ask_nil _ := by rw [judgeAll]
  ask_cons _ v rest := by
    rw [judgeAll]
    congr 1
    funext verdict
    cases verdict.isValid <;> rfl

theorem scans_judgeAny (description : String) :
    Scans true (fun verdicts => .reject (instruct description verdicts))
      (fun earlier (vs : List (Validator σ)) => judgeAny description (instructions earlier) vs content session)
      content session where
  ask_nil earlier := by rw [judgeAny, joinInstructions_instructions]
  ask_cons earlier v rest := by
    simp only [judgeAny, instructions_concat]

mutual

/-- Judging by a tree follows a trial of it, and runs the leaves of the trial and nothing else. -/
theorem exists_trial (v : Validator σ) (st : State σ) :
    ∃ t st', (v.judge content session).exec w st = (t.outcome, st') ∧ v.Follows t ∧
      Visits v.leafAt? content session w st t.visits st' := by
  cases v with
  | all validators description =>
    obtain ⟨parts, outcome, st', hexec, hfollows, hreports, hvisits⟩ :=
      exists_trials scans_judgeAll validators [] nofun (all validators description).leafAt? 0
        (fun i place => by rw [Nat.zero_add, leafAt?]) st
    rw [List.length_nil, Nat.zero_add, List.map_nil, List.nil_append] at hreports
    exact ⟨.node parts outcome, st', hexec, by rw [Follows]; exact ⟨hfollows, hreports⟩, hvisits⟩
  | any validators description =>
    obtain ⟨parts, outcome, st', hexec, hfollows, hreports, hvisits⟩ :=
      exists_trials (scans_judgeAny description) validators [] nofun (any validators description).leafAt? 0
        (fun i place => by rw [Nat.zero_add, leafAt?]) st
    rw [List.length_nil, Nat.zero_add, List.map_nil, List.nil_append] at hreports
    exact ⟨.node parts outcome, st', hexec, by rw [Follows]; exact ⟨hfollows, hreports⟩, hvisits⟩
  | _ => exact exists_trial_leaf rfl (fun _ => by simp [Follows]) st

/-- The trials of the children of a combination from the `n`-th on, behind children that did not decide.  A place is
found in the whole combination, so the numbers of the children grow where the list of those that are left shrinks. -/
theorem exists_trials {decisive : Bool} {undecided : List Verdict → Verdict}
    {ask : List Verdict → List (Validator σ) → Run σ Verdict} (hscans : Scans decisive undecided ask content session)
    (vs : List (Validator σ)) (earlier : List Verdict) (hearlier : ∀ verdict ∈ earlier, verdict.isValid = !decisive)
    (find : Place → Option (Validator σ)) (n : Nat)
    (hfind : ∀ i place, find ((n + i) :: place) = leafAmong? vs i place) (st : State σ) :
    ∃ parts outcome st', (ask earlier vs).exec w st = (outcome, st') ∧ FollowsEach vs parts ∧
      Reports decisive undecided (earlier.length + vs.length) (earlier.map .ok ++ parts.map Trial.outcome) outcome ∧
      Visits find content session w st (Trial.visitsFrom n parts) st' := by
  cases vs with
  | nil =>
    rw [hscans.ask_nil]
    refine ⟨[], .ok (undecided earlier), st, rfl, by rw [FollowsEach]; trivial, ?_, .nil st⟩
    rw [List.map_nil, List.append_nil]
    exact .passes rfl hearlier
  | cons v rest =>
    obtain ⟨t, st₁, hexec, hfollows, hvisits⟩ := exists_trial v st
    have hhere : ∀ place, find (n :: place) = v.leafAt? place := fun place => hfind 0 place
    have hlast : FollowsEach (v :: rest) [t] := ⟨hfollows, by rw [FollowsEach]; trivial⟩
    rw [hscans.ask_cons]
    cases houtcome : t.outcome with
    | error failure =>
      rw [houtcome] at hexec
      rw [Run.exec_bind_error _ hexec]
      refine ⟨[t], .error failure, st₁, rfl, hlast, ?_, .cons_child hhere hvisits (.nil _)⟩
      rw [List.map_singleton, houtcome]
      exact .fails hearlier failure
    | ok verdict =>
      rw [houtcome] at hexec
      rw [Run.exec_bind_ok _ hexec]
      by_cases hverdict : verdict.isValid = decisive
      · rw [if_pos hverdict]
        refine ⟨[t], .ok verdict, st₁, rfl, hlast, ?_, .cons_child hhere hvisits (.nil _)⟩
        rw [List.map_singleton, houtcome]
        exact .decides hearlier hverdict
      · rw [if_neg hverdict]
        have hmore : ∀ u ∈ earlier ++ [verdict], u.isValid = !decisive := by
          simpa only [List.forall_mem_append, List.forall_mem_singleton] using
            ⟨hearlier, Bool.eq_not_of_ne hverdict⟩
        obtain ⟨parts, outcome, st₂, hrest, hfollowsRest, hreports, hvisitsRest⟩ :=
          exists_trials hscans rest (earlier ++ [verdict]) hmore find (n + 1)
            (fun i place => by rw [Nat.add_assoc, Nat.add_comm 1, hfind, leafAmong?]) st₁
        refine ⟨t :: parts, outcome, st₂, hrest, ⟨hfollows, hfollowsRest⟩, ?_, .cons_child hhere hvisits hvisitsRest⟩
        simpa [houtcome, Nat.add_assoc, Nat.add_comm 1] using hreports

end

end

/-! ### Order -/

namespace Trial

/-- The leaves asked from a number on lie in children with these numbers. -/
theorem exists_of_mem_visitsFrom {n : Nat} {parts : List Trial} {place : Place}
    (h : place ∈ (visitsFrom n parts).map (·.1)) : ∃ m rest, n ≤ m ∧ place = m :: rest := by
  induction parts generalizing n with
  | nil => simp [visitsFrom] at h
  | cons t parts ih =>
    rw [visitsFrom, List.map_append, List.mem_append] at h
    rcases h with hhere | hbehind
    · obtain ⟨rest, -, rfl⟩ : ∃ rest, rest ∈ t.visits.map (·.1) ∧ n :: rest = place := by simpa using hhere
      exact ⟨n, rest, Nat.le_refl n, rfl⟩
    · obtain ⟨m, rest, hm, rfl⟩ := ih hbehind
      exact ⟨m, rest, Nat.le_of_succ_le hm, rfl⟩

mutual

/-- Leaves are asked from left to right, and each at most once. -/
theorem visits_pairwise : (t : Trial) → (t.visits.map (·.1)).Pairwise (· < ·)
  | leaf _ => by simp [visits]
  | node parts _ => by
    rw [visits]
    exact visitsFrom_pairwise 0 parts

theorem visitsFrom_pairwise (n : Nat) : (parts : List Trial) → ((visitsFrom n parts).map (·.1)).Pairwise (· < ·)
  | [] => by simp [visitsFrom]
  | t :: parts => by
    have hplaces : (t.visits.map fun visit => (n :: visit.1, visit.2)).map (·.1) =
        (t.visits.map (·.1)).map (n :: ·) := by
      rw [List.map_map, List.map_map]
      rfl
    rw [visitsFrom, List.map_append, hplaces, List.pairwise_append]
    refine ⟨?_, visitsFrom_pairwise (n + 1) parts, ?_⟩
    · rw [List.pairwise_map]
      exact (visits_pairwise t).imp List.cons_lt_cons_self.2
    · intro place hplace other hother
      obtain ⟨rest, -, rfl⟩ := List.mem_map.1 hplace
      obtain ⟨m, others, hm, rfl⟩ := exists_of_mem_visitsFrom hother
      exact List.Lex.rel hm

end

end Trial

/-! ### Failures -/

section

variable {decisive : Bool} {undecided : List Verdict → Verdict} {n : Nat} {outcomes : List (Except Failure Verdict)}
  {outcome : Except Failure Verdict}

theorem Reports.eq_error_iff (h : Reports decisive undecided n outcomes outcome) (failure : Failure) :
    outcome = .error failure ↔ .error failure ∈ outcomes := by
  cases h with
  | passes hlength hpasses => simp
  | decides hpasses hdecides => simp
  | fails hpasses f => simp [eq_comm]

end

mutual

/-- A trial fails as a leaf that was asked does, and with no other. -/
theorem Follows.outcome_eq_error_iff (failure : Failure) (v : Validator σ) (t : Trial) (h : v.Follows t) :
    t.outcome = .error failure ↔ ∃ place, (place, .error failure) ∈ t.visits := by
  cases t with
  | leaf outcome => simp [Trial.outcome, Trial.visits, eq_comm]
  | node parts outcome =>
    cases v with
    | all validators description =>
      rw [Follows] at h
      rw [Trial.visits, ← FollowsEach.exists_error_iff failure 0 validators parts h.1]
      exact h.2.eq_error_iff failure
    | any validators description =>
      rw [Follows] at h
      rw [Trial.visits, ← FollowsEach.exists_error_iff failure 0 validators parts h.1]
      exact h.2.eq_error_iff failure
    | _ => simp [Follows] at h

theorem FollowsEach.exists_error_iff (failure : Failure) (n : Nat) (vs : List (Validator σ)) (parts : List Trial)
    (h : FollowsEach vs parts) : .error failure ∈ parts.map Trial.outcome ↔
      ∃ place, (place, .error failure) ∈ Trial.visitsFrom n parts := by
  cases parts with
  | nil => simp [Trial.visitsFrom]
  | cons t parts =>
    cases vs with
    | nil => simp [FollowsEach] at h
    | cons v rest =>
      rw [FollowsEach] at h
      have hhere := Follows.outcome_eq_error_iff failure v t h.1
      have hrest := FollowsEach.exists_error_iff failure (n + 1) rest parts h.2
      rw [List.map_cons, List.mem_cons, eq_comm, hhere, hrest, Trial.visitsFrom]
      simp only [List.mem_append, exists_or, List.mem_map]
      refine or_congr ⟨fun ⟨place, hvisit⟩ => ⟨n :: place, _, hvisit, rfl⟩, ?_⟩ Iff.rfl
      rintro ⟨_, ⟨place, _⟩, hvisit, hsame⟩
      obtain ⟨-, rfl⟩ := Prod.mk.inj hsame
      exact ⟨place, hvisit⟩

end

/-! ### The value of the formula -/

/-- The verdict of a combination tells whether the value that decides is among the values of its children. -/
theorem Reports.isValid_eq {decisive : Bool} {undecided : List Verdict → Verdict}
    {outcomes : List (Except Failure Verdict)} {verdict : Verdict} {values : List Bool}
    (h : Reports decisive undecided values.length outcomes (.ok verdict))
    (hundecided : ∀ verdicts, (undecided verdicts).isValid = !decisive)
    (hvalues : ∀ verdicts : List Verdict, outcomes = verdicts.map .ok → verdicts.map (·.isValid) <+: values) :
    verdict.isValid = if decisive ∈ values then decisive else !decisive := by
  generalize hreport : (Except.ok verdict : Except Failure Verdict) = outcome at h
  cases h with
  | @passes verdicts hlength hpasses =>
    obtain rfl := Except.ok.inj hreport
    have hall : verdicts.map (·.isValid) = values :=
      (hvalues verdicts rfl).eq_of_length (by rw [List.length_map, hlength])
    have hnone : decisive ∉ values := by
      rw [← hall]
      simpa using fun u hu => by simp [hpasses u hu]
    rw [if_neg hnone, hundecided]
  | @decides before u hpasses hdecides =>
    obtain rfl := Except.ok.inj hreport
    have hprefix := hvalues (before ++ [verdict]) (by rw [List.map_append, List.map_singleton])
    have hmem : decisive ∈ values := hprefix.subset (by simp [hdecides])
    rw [if_pos hmem, hdecides]
  | fails hpasses failure => cases hreport

theorem all_id_eq (values : List Bool) : values.all id = if false ∈ values then false else true := by
  by_cases h : false ∈ values
  · rw [if_pos h, List.all_eq_false]
    exact ⟨false, h, nofun⟩
  · rw [if_neg h, List.all_eq_true]
    intro b hb
    cases b with
    | false => exact absurd hb h
    | true => rfl

theorem any_id_eq (values : List Bool) : values.any id = if true ∈ values then true else false := by
  by_cases h : true ∈ values
  · rw [if_pos h, List.any_eq_true]
    exact ⟨true, h, rfl⟩
  · rw [if_neg h, List.any_eq_false]
    intro b hb
    cases b with
    | false => exact nofun
    | true => exact absurd hb h

@[simp]
theorem length_truths (value : Place → Bool) (n : Nat) (vs : List (Validator σ)) :
    (truths value n vs).length = vs.length := by
  induction vs generalizing n with
  | nil => rfl
  | cons v rest ih => rw [truths, List.length_cons, List.length_cons, ih]

mutual

/-- Where no leaf fails, the verdict is the value of the formula. -/
theorem Follows.truth_eq (value : Place → Bool) (v : Validator σ) (t : Trial) (h : v.Follows t) {verdict : Verdict}
    (houtcome : t.outcome = .ok verdict)
    (hvalue : ∀ place asked, (place, .ok asked) ∈ t.visits → value place = asked.isValid) :
    v.truth value = verdict.isValid := by
  cases t with
  | leaf outcome =>
    have hhere : value [] = verdict.isValid := hvalue [] verdict (by rw [← houtcome]; exact List.mem_singleton_self _)
    cases v with
    | all validators description => simp [Follows] at h
    | any validators description => simp [Follows] at h
    | _ => simpa [truth] using hhere
  | node parts outcome =>
    have hreport : outcome = .ok verdict := houtcome
    cases v with
    | all validators description =>
      rw [Follows, hreport, ← length_truths value 0] at h
      rw [truth, all_id_eq]
      exact (h.2.isValid_eq (fun _ => rfl) fun verdicts houtcomes =>
        FollowsEach.isPrefix_truths value 0 validators parts h.1 verdicts houtcomes hvalue).symm
    | any validators description =>
      rw [Follows, hreport, ← length_truths value 0] at h
      rw [truth, any_id_eq]
      exact (h.2.isValid_eq (fun _ => rfl) fun verdicts houtcomes =>
        FollowsEach.isPrefix_truths value 0 validators parts h.1 verdicts houtcomes hvalue).symm
    | _ => simp [Follows] at h

theorem FollowsEach.isPrefix_truths (value : Place → Bool) (n : Nat) (vs : List (Validator σ)) (parts : List Trial)
    (h : FollowsEach vs parts) (verdicts : List Verdict) (houtcomes : parts.map Trial.outcome = verdicts.map .ok)
    (hvalue : ∀ place asked, (place, .ok asked) ∈ Trial.visitsFrom n parts → value place = asked.isValid) :
    verdicts.map (·.isValid) <+: truths value n vs := by
  cases parts with
  | nil =>
    obtain rfl : verdicts = [] := List.map_eq_nil_iff.1 houtcomes.symm
    exact List.nil_prefix
  | cons t parts =>
    cases vs with
    | nil => simp [FollowsEach] at h
    | cons v rest =>
      cases verdicts with
      | nil => cases houtcomes
      | cons verdict verdicts =>
        rw [FollowsEach] at h
        obtain ⟨hhere, hrest⟩ := List.cons.inj houtcomes
        simp only [Trial.visitsFrom, List.mem_append] at hvalue
        have htruth := Follows.truth_eq (fun place => value (n :: place)) v t h.1 hhere fun place asked hvisit =>
          hvalue (n :: place) asked (.inl (List.mem_map.2 ⟨_, hvisit, rfl⟩))
        have hprefix := FollowsEach.isPrefix_truths value (n + 1) rest parts h.2 verdicts hrest
          fun place asked hvisit => hvalue place asked (.inr hvisit)
        rw [List.map_cons, truths, htruth]
        exact List.cons_prefix_cons.2 ⟨rfl, hprefix⟩

end

/-- **Trees of validators are formulas.**  A judgement runs some of the leaves, from left to right and each at most
once, and nothing else.  In each combination the children behind the one that decides are not asked: a conjunction hands
on its first rejection, a disjunction its first acceptance or the instructions of all its children.  A leaf that fails
is the outcome; otherwise the verdict is the value of the formula for every valuation that gives the leaves that were
asked what they answered. -/
theorem judge_formula (v : Validator σ) (content : Value) (session : Session) (w : Surroundings σ) (st : State σ) :
    ∃ t st', (v.judge content session).exec w st = (t.outcome, st') ∧
      Visits v.leafAt? content session w st t.visits st' ∧ (t.visits.map (·.1)).Pairwise (· < ·) ∧ v.Follows t ∧
      (∀ failure, t.outcome = .error failure ↔ ∃ place, (place, .error failure) ∈ t.visits) ∧
      ∀ verdict value, t.outcome = .ok verdict →
        (∀ place asked, (place, .ok asked) ∈ t.visits → value place = asked.isValid) →
        v.truth value = verdict.isValid := by
  obtain ⟨t, st', hexec, hfollows, hvisits⟩ := exists_trial v st
  exact ⟨t, st', hexec, hvisits, t.visits_pairwise, hfollows,
    fun failure => hfollows.outcome_eq_error_iff failure v t,
    fun verdict value houtcome hvalue => hfollows.truth_eq value v t houtcome hvalue⟩

end Colloquy.Validator
