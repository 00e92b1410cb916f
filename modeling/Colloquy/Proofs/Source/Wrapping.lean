import Colloquy.Proofs.Budget.Meter
import Colloquy.Proofs.Retry.Found
import Colloquy.Proofs.Source.Delivery

/-!
# Failures of backends

What a backend raises reaches the pipeline as a failure of generation, unless it is a failure of orchestration
already: `wrapFailure` puts the name of its own kind in front of the description, which keeps all of the original
text.  Whether the attempt is repeated is then decided about the longer text (`isRetryable_wrapFailure`).

So a retry policy may decide otherwise than it would about the failure itself.  A pattern is found besides where it
begins in the name that was put in front, and a pattern that looks back may not be found any more.  For patterns that
do not look back the first of these is all (`isRetryable_wrapFailure_iff`), and the patterns that policies have by
default decide alike (`isRetryable_wrapFailure_passing`).  `again_after_raised` is what follows for the attempts of
a source.
-/

namespace Colloquy

variable {σ : Type} {policy : RetryPolicy σ} {f : Failure}

/-- What is put in front of the description of a failure that is no failure of orchestration. -/
def wrapping : String := "GenerationError: "

/-! ### Wrapped failures -/

theorem Failure.description_ne_empty (f : Failure) : f.description ≠ "" := by
  intro h
  have hlist := congrArg String.toList h
  simp [Failure.description] at hlist

namespace Source

theorem wrapFailure_eq (hf : f.isOrchestration = false) :
    wrapFailure f = .generation f.description (.bool false) (some f.kind) := by
  rw [wrapFailure, hf]
  rfl

theorem description_wrapFailure (hf : f.isOrchestration = false) :
    (wrapFailure f).description = wrapping ++ f.description := by
  rw [wrapFailure_eq hf]
  rfl

theorem isFinal_of_foreign (hf : f.isOrchestration = false) : RetryPolicy.isFinal f = false := by
  cases f with
  | configuration | generation | rejected | callLimit | emptyComposite | orchestration => exact nomatch hf
  | malformed | badPattern | badYaml | fault => rfl

/-- Whether a wrapped failure is worth another attempt is decided about its text, by the patterns. -/
theorem isRetryable_wrapFailure (hpatterns : policy.SearchesTexts) (hf : f.isOrchestration = false) :
    policy.isRetryable (wrapFailure f) = .ok true ↔ policy.Finds (wrapping ++ f.description) := by
  rw [← description_wrapFailure hf]
  refine RetryPolicy.isRetryable_iff_finds hpatterns ?_ ?_
  · rw [wrapFailure_eq hf]
    rfl
  · rw [wrapFailure_eq hf]
    rfl

/-- **What wrapping changes.**  For patterns that do not look back, a wrapped failure is worth another attempt if the
failure itself is, and otherwise only by a pattern that begins in what was put in front. -/
theorem isRetryable_wrapFailure_iff (hpatterns : policy.SearchesTexts) (hlook : policy.LooksAhead)
    (hf : f.isOrchestration = false) (hmarked : RetryPolicy.isMarked f = false) :
    policy.isRetryable (wrapFailure f) = .ok true ↔ policy.isRetryable f = .ok true ∨
      policy.FindsWithin wrapping.length (wrapping ++ f.description) := by
  have hword : ∀ ascii, Pattern.wordAt wrapping.toList.toArray ascii (wrapping.length - 1) = false := by
    decide +kernel
  rw [isRetryable_wrapFailure hpatterns hf, RetryPolicy.finds_append_iff hlook hword f.description_ne_empty,
    RetryPolicy.isRetryable_iff_finds hpatterns (isFinal_of_foreign hf) hmarked]

/-- The patterns that policies have by default begin nowhere in what is put in front. -/
theorem not_beginsWithin_passing (rest : String) :
    ∀ p ∈ RetryPattern.passing, ¬p.BeginsWithin wrapping.length (wrapping ++ rest) := by
  simp only [RetryPattern.passing, List.forall_mem_cons]
  refine ⟨?_, ?_, ?_, ?_, ?_, ?_, ?_, ?_, List.forall_mem_nil _⟩
  · exact RetryPattern.not_beginsWithin_sets rest _
      ("rate".toList.map fun d => { items := [.char d], ignoreCase := true }) _ (by decide +kernel)
  · exact RetryPattern.not_beginsWithin_caseless rest (by decide +kernel)
  · exact RetryPattern.not_beginsWithin_caseless rest (by decide +kernel)
  · exact RetryPattern.not_beginsWithin_caseless rest (by decide +kernel)
  · exact RetryPattern.not_beginsWithin_caseless rest (by decide +kernel)
  · exact RetryPattern.not_beginsWithin_edge rest _ _ [{ items := [.char '5'] }] _ (by decide +kernel)
  · exact RetryPattern.not_beginsWithin_part rest (by decide +kernel)
  · exact RetryPattern.not_beginsWithin_part rest (by decide +kernel)

theorem looksAhead_passing : ∀ p ∈ RetryPattern.passing, p.looksAhead = true := by
  decide +kernel

/-- By the patterns that policies have by default, a wrapped failure is worth another attempt just if the failure
itself is. -/
theorem isRetryable_wrapFailure_passing (hpassing : policy.patterns = some RetryPattern.passing)
    (hf : f.isOrchestration = false) (hmarked : RetryPolicy.isMarked f = false) :
    policy.isRetryable (wrapFailure f) = .ok true ↔ policy.isRetryable f = .ok true := by
  have hlook : policy.LooksAhead := by
    intro ps hps
    obtain rfl := Option.some.inj (hpassing.symm.trans hps)
    exact looksAhead_passing
  rw [isRetryable_wrapFailure_iff (RetryPolicy.searchesTexts_passing hpassing) hlook hf hmarked]
  refine or_iff_left ?_
  rintro ⟨ps, hps, p, hp, hbegins⟩
  obtain rfl := Option.some.inj (hpassing.symm.trans hps)
  exact not_beginsWithin_passing _ p hp hbegins

/-! ### Attempts -/

variable {src : Source σ} {access : ModelAccess σ} {feedback : Option String} {w : Surroundings σ}
  {t : Pipeline.Trial σ} {st : State σ} {limit : Nat} {trials : List (Pipeline.Trial σ)}

/-- In an attempt the backend of a model raises a failure: the hooks before the call leave the response to it, the
budget grants the call, and then it fails. -/
inductive Raises (src : Source σ) (access : ModelAccess σ) (w : Surroundings σ) (t : Pipeline.Trial σ)
    (f : Failure) : Prop
  | intro {ctx : Context} {asked charged raised : State σ} {count : Nat}
      (hbefore : (src.policy.pipeline.before t.start).exec w t.entered = (.ok ctx, asked))
      (hmark : ctx.usesCache = false)
      (hacquire : access.budget.acquire.exec w asked = (.ok count, charged))
      (hraise : (askBackend access ctx.session access.options).exec w charged = (.error f, raised))

/-- The attempt fails with the wrapped failure. -/
theorem Raises.outcome (horigin : src.origin = .model access) (h : src.Raises access w t f)
    (ht : t.Happened src.policy.pipeline (src.callFor feedback) w) :
    t.outcome = .error (wrapFailure f) := by
  obtain ⟨hbefore, hmark, hacquire, hraise⟩ := h
  rename_i ctx asked charged raised count
  have hcall : (src.callFor feedback ctx).exec w asked = (.error (wrapFailure f), raised) := by
    rw [callFor, horigin]
    show (askModel access ctx.session).exec w asked = _
    rw [askModel_eq, Run.exec_bind_ok _ hacquire, Run.exec_bind_ok _ (Run.exec_outcome _), hraise]
    rfl
  have hran := ht.ran
  rw [Pipeline.attempt, Run.exec_bind_ok _ hbefore, hmark, if_neg Bool.false_ne_true,
    Run.exec_bind_error _ hcall] at hran
  exact (Prod.mk.inj hran).1.symm

/-- **What becomes of a backend's failure.**  An attempt in which the backend raises a failure that is none of
orchestration, and that bears no mark, fails with the wrapped failure.  Unless a hook has mended that, another attempt
follows, as far as there may be one, just if some pattern of the policy is found in the description behind the name
that was put in front, or if the policy has no patterns.  For patterns that do not look back this is so if the
failure itself is worth another attempt, and otherwise only by a pattern that begins in this name; the patterns that
policies have by default decide about both alike. -/
theorem again_after_raised (horigin : src.origin = .model access)
    (hpatterns : src.policy.retry.SearchesTexts) {s : Session}
    (hhistory : Pipeline.History src.policy.pipeline (src.callFor feedback) src.policy.retry w limit 1
      ⟨src.contextFor s feedback, none⟩ st trials)
    {k : Nat} (hk : k < trials.length) (hraises : src.Raises access w trials[k] f)
    (hf : f.isOrchestration = false) (hmarked : RetryPolicy.isMarked f = false) :
    trials[k].outcome = .error (wrapFailure f) ∧
      (wrapFailure f).description = wrapping ++ f.description ∧
      (k + 1 < trials.length ↔ k + 1 < limit ∧
        (trials[k].mended.isSome = true ∨ src.policy.retry.isRetryable (wrapFailure f) = .ok true)) ∧
      (src.policy.retry.isRetryable (wrapFailure f) = .ok true ↔
        src.policy.retry.Finds (wrapping ++ f.description)) ∧
      (src.policy.retry.LooksAhead → (src.policy.retry.isRetryable (wrapFailure f) = .ok true ↔
        src.policy.retry.isRetryable f = .ok true ∨
          src.policy.retry.FindsWithin wrapping.length (wrapping ++ f.description))) ∧
      (src.policy.retry.patterns = some RetryPattern.passing →
        (src.policy.retry.isRetryable (wrapFailure f) = .ok true ↔
          src.policy.retry.isRetryable f = .ok true)) := by
  have houtcome := hraises.outcome horigin (hhistory.1.starts k hk).2
  have hagain : trials[k].AsksAgain src.policy.retry ↔ trials[k].mended.isSome = true ∨
      src.policy.retry.isRetryable (wrapFailure f) = .ok true := by
    constructor
    · rintro ⟨g, hg, hasks⟩
      obtain rfl := Except.error.inj (houtcome.symm.trans hg)
      exact hasks
    · exact fun hasks => ⟨_, houtcome, hasks⟩
  refine ⟨houtcome, description_wrapFailure hf, ?_, isRetryable_wrapFailure hpatterns hf,
    fun hlook => isRetryable_wrapFailure_iff hpatterns hlook hf hmarked,
    fun hpassing => isRetryable_wrapFailure_passing hpassing hf hmarked⟩
  exact (hhistory.1.continues k hk).trans (and_congr_right fun _ => hagain)

/-- A model whose backend runs into a timeout. -/
def slowAccess : ModelAccess Unit where
  options := {}
  backend := some (.computed 0 fun _ _ => throw (.fault .timeout "too slow"))
  attached := 1
  budget := { cell := 2 }

/-- A source that asks this model up to twice. -/
def slow : Source Unit where
  origin := .model slowAccess
  policy := { retry := { maxAttempts := .int 2 } }

/-- With the patterns by default the first timeout is followed by another attempt. -/
theorem again_after_raised_slow : ∃ trials,
    Pipeline.History slow.policy.pipeline (slow.callFor none) slow.policy.retry (.alone Unit) 2 1
      ⟨slow.contextFor {} none, none⟩ { host := () } trials ∧ trials.length = 2 ∧
      ∀ t ∈ trials.head?, t.outcome =
        .error (.generation "TimeoutError: too slow" (.bool false) (some "TimeoutError")) := by
  have hpatterns : slow.policy.retry.SearchesTexts := RetryPolicy.searchesTexts_passing rfl
  have hwaits : Pipeline.Payable slow.policy.retry (.alone Unit) (2 : Int).toNat := by
    refine Pipeline.payable_of_float fun k hk hk' n => ?_
    obtain rfl | rfl : k = 1 ∨ k = 2 := by omega
    all_goals exact ⟨_, rfl⟩
  obtain ⟨trials, last, hhistory, -⟩ := Pipeline.exists_history slow.policy.pipeline (slow.callFor none)
    (slow.contextFor {} none) slow.policy.retry (.alone Unit) rfl (by decide) hpatterns nofun nofun hwaits
    { host := () }
  have hpos : 0 < trials.length := List.length_pos_iff.2 hhistory.1.ne_nil
  have hmark : trials[0].start.usesCache = false := by
    rw [(hhistory.1.starts 0 hpos).1]
    rfl
  have hraises : slow.Raises slowAccess (.alone Unit) trials[0] (.fault .timeout "too slow") :=
    .intro rfl hmark rfl rfl
  obtain ⟨houtcome, -, hcontinues, hfinds, -⟩ := again_after_raised rfl hpatterns hhistory hpos hraises
    rfl rfl
  have htimeout : (RetryPattern.caseless "timeout").foundIn
      (wrapping ++ Failure.description (.fault .timeout "too slow")) = .ok true :=
    congrArg Except.ok (by decide +kernel)
  have hworth : 0 + 1 < trials.length := hcontinues.2 ⟨by decide, .inr (hfinds.2 fun ps hps =>
    ⟨_, Option.some.inj hps ▸ by simp [RetryPattern.passing], htimeout⟩)⟩
  have hlength := hhistory.1.length_le
  refine ⟨trials, hhistory, by omega, fun t ht => ?_⟩
  rw [List.head?_eq_getElem?, List.getElem?_eq_getElem hpos] at ht
  rw [← Option.some.inj ht, houtcome]
  rfl

/-- A policy with a single pattern. -/
def searching (p : RetryPattern) : RetryPolicy Unit where
  patterns := some [p]

/-- A regular expression as a pattern. -/
def expression (source : String) : RetryPattern :=
  match Pattern.ofText source {} with
  | .ok p => .pattern p
  | .error _ => .other (.str source)

/-- **A backend's failure and its wrapping may be judged differently.**  A pattern may be found just in the name that
was put in front, a pattern for the start of the description is not found behind it, and a mark on the failure does
not come through. -/
theorem isRetryable_wrapFailure_differs :
    ((searching (.part "GenerationError")).isRetryable (.fault .timeout "too slow")).toOption =
        some false ∧
      ((searching (.part "GenerationError")).isRetryable
        (wrapFailure (.fault .timeout "too slow"))).toOption = some true ∧
      ((searching (expression "^TimeoutError")).isRetryable (.fault .timeout "too slow")).toOption =
        some true ∧
      ((searching (expression "^TimeoutError")).isRetryable
        (wrapFailure (.fault .timeout "too slow"))).toOption = some false ∧
      ((searching (.part "timeout")).isRetryable
        (.fault (.custom "Overloaded" (.bool true)) "later")).toOption = some true ∧
      ((searching (.part "timeout")).isRetryable
        (wrapFailure (.fault (.custom "Overloaded" (.bool true)) "later"))).toOption = some false := by
  refine ⟨?_, ?_, ?_, ?_, ?_, ?_⟩ <;> decide +kernel

end Source

end Colloquy
