import Colloquy.Proofs.Retry.Conduct
import Colloquy.Proofs.Settings.Entries
import Colloquy.Proofs.Settings.Reference
import Colloquy.Settings.Derived

/-!
# Settings from variables

A scalar of a document is read by its form before references are looked at, so a value that comes from a variable is a
text where the file would have written a truth value or a number.  Two numbers are read from texts as well as from
numbers; everything else stays a text, which counts as true and with which there is no arithmetic.  So a reference to a
variable with the same text means the same wherever the text survives this (`Survives`): for switches that are on, and
for the two numbers if the text is the decimal numeral of what it writes (`Settings.load_references`).
-/

namespace Colloquy

variable {env env' : Environment}

/-! ### What a setting is read for -/

namespace Settings

/-- Where settings are written: in the document itself, or in its part on repeated attempts. -/
inductive Place where
  | root
  | retry

/-- The names under which something is looked up that decides about calls, rounds and attempts. -/
def Place.names : Place → List String
  | root => ["debug", "echo", "max_llm_calls", "loop_max_iterations", "llm", "retry"]
  | retry => ["max_attempts", "base_delay", "max_delay", "backoff_factor", "jitter", "retryable_patterns"]

/-- A text that means the same as the value that it writes, for the setting that it is given for. -/
inductive Survives : Place → String → String → Value → Prop
  | switch {name t v} (hname : name ∈ ["debug", "echo"]) (htrue : v.truthy = true) : Survives .root name t v
  | count {name t v} (hname : name ∈ ["max_llm_calls", "loop_max_iterations"])
    (hcount : Number.integerOf t = v.toInteger) : Survives .root name t v
  | jitter {t v} (htrue : v.truthy = true) : Survives .retry "jitter" t v

/-- Values that a setting for repeated attempts may have without any difference for these. -/
inductive RetryFits : String → Value → Value → Prop
  | same (name : String) (v : Value) : RetryFits name v v
  | jitter {v v'} (h : v'.truthy = v.truthy) : RetryFits "jitter" v v'
  | unread {name v v'} (hname : name ∉ Place.retry.names) : RetryFits name v v'

/-- Values that a setting may have without any difference for calls, rounds and attempts. -/
inductive Fits : String → Value → Value → Prop
  | same (name : String) (v : Value) : Fits name v v
  | switch {name v v'} (hname : name ∈ ["debug", "echo"]) (h : v'.truthy = v.truthy) : Fits name v v'
  | count {name v v'} (hname : name ∈ ["max_llm_calls", "loop_max_iterations"]) (h : v'.toInteger = v.toInteger) :
    Fits name v v'
  | retry {entries entries'} (h : Related RetryFits entries entries') :
    Fits "retry" (.object entries) (.object entries')
  | unread {name v v'} (hname : name ∉ Place.root.names) : Fits name v v'

/-- The values that fit at a place. -/
def Place.Fits : Place → String → Value → Value → Prop
  | root => Settings.Fits
  | retry => RetryFits

theorem Place.fits_same (place : Place) (name : String) (v : Value) : place.Fits name v v := by
  cases place with
  | root => exact .same name v
  | retry => exact .same name v

theorem Place.fits_unread {place : Place} {name : String} (hname : name ∉ place.names) (v v' : Value) :
    place.Fits name v v' := by
  cases place with
  | root => exact .unread hname
  | retry => exact .unread hname

/-- Digits without a zero in front survive as a number. -/
theorem Survives.digits {name t : String} {v : Value} (hname : name ∈ ["max_llm_calls", "loop_max_iterations"])
    (hfirst : t.toList.head? ≠ some '0') (hdigits : ∀ c ∈ t.toList, c.isDigit = true)
    (hread : Yaml.Tag.int.read t = .ok v) : Survives .root name t v := by
  refine .count hname ?_
  rw [Yaml.Tag.read_digits hfirst hdigits] at hread
  obtain ⟨n, hn, rfl⟩ := exists_of_map_ok hread
  exact hn

theorem Survives.fits {place : Place} {name t : String} {v : Value} (h : Survives place name t v) (ht : t ≠ "") :
    place.Fits name v (.str t) := by
  have htext : (Value.str t).truthy = true := by
    rw [Value.truthy]
    simpa using ht
  cases h with
  | switch hname htrue => exact .switch hname (htext.trans htrue.symm)
  | count hname hcount => exact .count hname hcount
  | jitter htrue => exact .jitter (htext.trans htrue.symm)

/-! ### References in the place of values -/

open Yaml (Node Tag)
open Environment (reference IsName)

/-- An entry whose values are filled in the same way from both environments. -/
def Unaffected (env env' : Environment) (entry : Node × Node) : Prop :=
  ∀ merged own, Node.entryValues [entry] = .ok (merged, own) → ∀ e ∈ merged ++ own, env'.fill e.2 = env.fill e.2

/-- Documents of which the second one refers to variables with the same texts where the first one writes truth values or
numbers for some settings, at their own place or in a mapping that is merged there.  What is not read for calls, rounds
and attempts may differ in any way. -/
inductive Exchanged (env env' : Environment) : Place → List (Node × Node) → List (Node × Node) → Prop
  | nil (place : Place) : Exchanged env env' place [] []
  | kept {place entry rest rest'} (hkept : Unaffected env env' entry) (hrest : Exchanged env env' place rest rest') :
    Exchanged env env' place (entry :: rest) (entry :: rest')
  | setting {place key name t v var isPlain rest rest'} (hkey : key.asKey = .ok name)
    (hkind : Tag.ofPlain t ∈ [.bool, .int, .float]) (hread : (Tag.ofPlain t).read t = .ok v)
    (hsurvives : Survives place name t v) (hvar : IsName var) (hvalue : env'.lookup var = some t)
    (hrest : Exchanged env env' place rest rest') :
    Exchanged env env' place ((key, .scalar none t true) :: rest) ((key, .scalar none (reference var) isPlain) :: rest')
  | retry {key tag entries entries' rest rest'} (hkey : key.asKey = .ok "retry")
    (hentries : Exchanged env env' .retry entries entries') (hrest : Exchanged env env' .root rest rest') :
    Exchanged env env' .root ((key, .mapping tag entries) :: rest) ((key, .mapping tag entries') :: rest')
  | merged {place key tag tag' entries entries' rest rest'} (hkey : key.isMerge = true)
    (hentries : Exchanged env env' place entries entries') (hrest : Exchanged env env' place rest rest') :
    Exchanged env env' place ((key, .mapping tag entries) :: rest) ((key, .mapping tag' entries') :: rest')
  | unread {place key name value value' v' rest rest'} (hkey : key.asKey = .ok name) (hname : name ∉ place.names)
    (hread : value'.toValue = .ok v') (hrest : Exchanged env env' place rest rest') :
    Exchanged env env' place ((key, value) :: rest) ((key, value') :: rest')

variable {place : Place} {entries entries' : List (Node × Node)}

/-- Values that fit once they are filled. -/
def Place.FitsFilled (env env' : Environment) (place : Place) (name : String) (v v' : Value) : Prop :=
  place.Fits name (env.fill v) (env'.fill v')

/-- A truth value or a number has nothing to fill. -/
theorem fill_eq_of_kind {t : String} {v : Value} (hkind : Tag.ofPlain t ∈ [.bool, .int, .float])
    (hread : (Tag.ofPlain t).read t = .ok v) (env : Environment) : env.fill v = v ∧ t ≠ "" := by
  have hne : t ≠ "" := by
    rintro rfl
    exact absurd hkind (by decide)
  refine ⟨?_, hne⟩
  simp only [List.mem_cons, List.not_mem_nil, or_false] at hkind
  rcases hkind with hkind | hkind | hkind
  · rw [hkind, Tag.read] at hread
    split at hread
    · cases hread
      rfl
    · split at hread
      · cases hread
        rfl
      · cases hread
  · rw [hkind, Tag.read] at hread
    obtain ⟨n, -, rfl⟩ := exists_of_map_ok hread
    rfl
  · rw [hkind, Tag.read] at hread
    obtain ⟨x, -, rfl⟩ := exists_of_map_ok hread
    rfl

theorem Unaffected.follows {entry : Node × Node} (h : Unaffected env env' entry) (place : Place) :
    Node.Follows (place.FitsFilled env env') [entry] [entry] := by
  intro merged own hvalues
  have hfilled : ∀ found : Entries, (∀ e ∈ found, env'.fill e.2 = env.fill e.2) →
      Related (place.FitsFilled env env') found found := by
    intro found hfound
    refine List.forall₂_same.2 fun e he => ⟨rfl, ?_⟩
    rw [Place.FitsFilled, hfound e he]
    exact place.fits_same _ _
  have hboth := List.forall_mem_append.1 (h merged own hvalues)
  exact ⟨merged, own, hvalues, hfilled merged hboth.1, hfilled own hboth.2⟩

/-- **Values of exchanged documents** fit once they are filled. -/
theorem Exchanged.follows (h : Exchanged env env' place entries entries') :
    Node.Follows (place.FitsFilled env env') entries entries' := by
  -- Each case is about the first entry; at the part on repeated attempts, the place changes with the induction.
  induction h with
  | nil place =>
    intro merged own hvalues
    cases hvalues
    exact ⟨[], [], rfl, .nil, .nil⟩
  | @kept place _ _ _ hkept hrest ih => exact (hkept.follows place).cons ih
  | @setting place key name t v var isPlain rest rest' hkey hkind hread hsurvives hvar hvalue hrest ih =>
    refine .cons (Node.follows_own hkey fun v₁ hv₁ => ⟨_, Node.toValue_reference var isPlain, ?_⟩) ih
    obtain rfl : v = v₁ := by
      rw [Node.toValue] at hv₁
      exact Except.ok.inj (hread.symm.trans hv₁)
    obtain ⟨hfill, hne⟩ := fill_eq_of_kind hkind hread env
    rw [Place.FitsFilled, hfill, Environment.fill, Environment.expand_reference hvar hvalue]
    exact hsurvives.fits hne
  | @retry key tag entries entries' rest rest' hkey hentries hrest ihentries ih =>
    refine .cons (Node.follows_own hkey fun v hv => ?_) ih
    obtain ⟨found, found', rfl, hvalue', hrelated⟩ := ihentries.toValue hv
    refine ⟨_, hvalue', ?_⟩
    rw [Place.FitsFilled, Environment.fill, Environment.fill]
    exact .retry hrelated.fillEntries
  | merged hkey hentries hrest ihentries ih => exact .cons (ihentries.merge hkey) ih
  | @unread place key name value value' v' rest rest' hkey hname hread hrest ih =>
    exact .cons (Node.follows_own hkey fun _ _ => ⟨v', hread, Place.fits_unread hname _ _⟩) ih

/-! ### Settings -/

/-- Settings that are the same for calls, rounds and attempts. -/
structure Alike (a b : Settings) : Prop where
  callLimit : b.callLimit = a.callLimit
  maxRounds : b.maxRounds = a.maxRounds
  debug : b.debug.truthy = a.debug.truthy
  echo : b.echo.truthy = a.echo.truthy
  /-- Policies that cannot be told apart by any call, or the same failure to make one. -/
  retry : ∀ {σ : Type}, (∀ policy : RetryPolicy σ, a.retryPolicy = .ok policy → ∃ other, b.retryPolicy = .ok other ∧
      policy.Alike other ∧ other.jitter.truthy = policy.jitter.truthy ∧
      ∀ (p : Pipeline σ) (call : Context → Run σ Content) (ctx : Context),
        p.execute call ctx other = p.execute call ctx policy) ∧
    ∀ f, (a.retryPolicy : Except Failure (RetryPolicy σ)) = .error f →
      (b.retryPolicy : Except Failure (RetryPolicy σ)) = .error f

variable {a b : Settings}

/-- Settings for repeated attempts that differ in nothing but a jitter that counts as the same. -/
structure RetryMatches (r r' : RetrySettings) : Prop where
  eq : r' = { r with jitter := r'.jitter }
  jitter : r'.jitter.truthy = r.jitter.truthy

/-- Settings that differ in nothing that is read but values that count as the same; overrides keep them so. -/
structure Matches (a b : Settings) : Prop where
  debug : b.debug.truthy = a.debug.truthy
  echo : b.echo.truthy = a.echo.truthy
  maxCalls : b.maxCalls = a.maxCalls
  maxRounds : b.maxRounds = a.maxRounds
  retry : RetryMatches a.retry b.retry

theorem Matches.alike (h : a.Matches b) : a.Alike b where
  callLimit := by rw [Settings.callLimit, Settings.callLimit, h.debug, h.maxCalls]
  maxRounds := h.maxRounds
  debug := h.debug
  echo := h.echo
  retry := by
    intro σ
    have hpatterns : b.patterns = a.patterns := by
      rw [patterns, patterns, h.retry.eq]
    have hjitter : ∀ policy : RetryPolicy σ, policy.jitter = a.retry.jitter →
        policy.Alike { policy with jitter := b.retry.jitter } := fun policy hpolicy =>
      RetryPolicy.alike_jitter (hpolicy ▸ h.retry.jitter)
    rw [retryPolicy, retryPolicy, hpatterns, h.retry.eq]
    cases a.patterns with
    | error f => exact ⟨nofun, fun g hg => hg⟩
    | ok found =>
      refine ⟨fun policy hpolicy => ?_, nofun⟩
      cases hpolicy
      exact ⟨_, rfl, hjitter _ rfl, h.retry.jitter, Pipeline.execute_alike (hjitter _ rfl)⟩

/-! ### Reading exchanged documents -/

/-- A setting for repeated attempts that fits is the same, or it is the jitter. -/
theorem RetryFits.eq {name : String} {v v' : Value} (h : RetryFits name v v') (hname : name ∈ Place.retry.names)
    (hjitter : name ≠ "jitter") : v' = v := by
  cases h with
  | same => rfl
  | jitter => exact absurd rfl hjitter
  | unread hunread => exact absurd hname hunread

theorem RetryFits.truthy_eq {v v' : Value} (h : RetryFits "jitter" v v') : v'.truthy = v.truthy := by
  cases h with
  | same => rfl
  | jitter h => exact h
  | unread hunread => exact absurd (by decide) hunread

theorem Fits.truthy_eq {name : String} {v v' : Value} (h : Fits name v v') (hname : name ∈ ["debug", "echo"]) :
    v'.truthy = v.truthy := by
  cases h with
  | same => rfl
  | switch _ h => exact h
  | count hcount =>
    rcases List.mem_pair.1 hname with rfl | rfl <;> exact absurd hcount (by decide)
  | retry => exact absurd hname (by decide)
  | unread hunread =>
    rcases List.mem_pair.1 hname with rfl | rfl <;> exact absurd (by decide) hunread

theorem Fits.toInteger_eq {name : String} {v v' : Value} (h : Fits name v v')
    (hname : name ∈ ["max_llm_calls", "loop_max_iterations"]) : v'.toInteger = v.toInteger := by
  cases h with
  | same => rfl
  | switch hswitch =>
    rcases List.mem_pair.1 hname with rfl | rfl <;> exact absurd hswitch (by decide)
  | count _ h => exact h
  | retry => exact absurd hname (by decide)
  | unread hunread =>
    rcases List.mem_pair.1 hname with rfl | rfl <;> exact absurd (by decide) hunread

theorem Fits.eq_of_llm {name : String} {v v' : Value} (h : Fits name v v') (hname : name = "llm") : v' = v := by
  cases h with
  | same => rfl
  | switch hswitch => exact absurd hswitch (hname ▸ by decide)
  | count hcount => exact absurd hcount (hname ▸ by decide)
  | retry => exact absurd hname (by decide)
  | unread hunread => exact absurd (hname ▸ by decide) hunread

theorem Fits.cases_retry {v v' : Value} (h : Fits "retry" v v') :
    v' = v ∨ ∃ entries entries', v = .object entries ∧ v' = .object entries' ∧ Related RetryFits entries entries' := by
  cases h with
  | same => exact .inl rfl
  | switch hname => exact absurd hname (by decide)
  | count hname => exact absurd hname (by decide)
  | retry h => exact .inr ⟨_, _, rfl, rfl, h⟩
  | unread hunread => exact absurd (by decide) hunread

variable {found found' : Entries}

theorem retryMatches_retryOf (h : Related RetryFits found found') : RetryMatches (retryOf found) (retryOf found') := by
  have hentry : ∀ name ∈ Place.retry.names, name ≠ "jitter" → ∀ default,
      entry found' name default = entry found name default := fun name hname hjitter default =>
    (h.entry name (.same name default)).eq hname hjitter
  constructor
  · simp only [retryOf, hentry "max_attempts" (by decide) (by decide), hentry "base_delay" (by decide) (by decide),
      hentry "max_delay" (by decide) (by decide), hentry "backoff_factor" (by decide) (by decide),
      hentry "retryable_patterns" (by decide) (by decide)]
  · exact (h.entry "jitter" (.same "jitter" _)).truthy_eq

theorem part_retry (h : Related Fits found found') {r : RetrySettings}
    (hpart : part found "retry" {} retryOf = .ok r) :
    ∃ r', part found' "retry" {} retryOf = .ok r' ∧ RetryMatches r r' := by
  rw [part] at hpart ⊢
  obtain ⟨hnone, hnone'⟩ | ⟨v, v', hv, hv', hfits⟩ := h.lookup "retry"
  · rw [hnone] at hpart
    rw [hnone']
    exact ⟨r, hpart, rfl, rfl⟩
  · rw [hv] at hpart
    rw [hv']
    obtain rfl | ⟨inner, inner', rfl, rfl, hinner⟩ := hfits.cases_retry
    · exact ⟨r, hpart, rfl, rfl⟩
    · cases hpart
      exact ⟨_, rfl, retryMatches_retryOf hinner⟩

theorem part_llm (h : Related Fits found found') (default : ModelSettings) :
    part found' "llm" default modelOf = part found "llm" default modelOf := by
  rw [part, part]
  obtain ⟨hnone, hnone'⟩ | ⟨v, v', hv, hv', hfits⟩ := h.lookup "llm"
  · rw [hnone, hnone']
  · rw [hv, hv', hfits.eq_of_llm rfl]

/-- Settings of entries that fit match. -/
theorem ofEntries_matches (h : Related Fits found found') (ha : ofEntries found = .ok a) :
    ∃ b, ofEntries found' = .ok b ∧ a.Matches b := by
  have hcalls := (h.entry "max_llm_calls" (.same _ (.int 100))).toInteger_eq (by decide)
  have hrounds := (h.entry "loop_max_iterations" (.same _ (.int 100))).toInteger_eq (by decide)
  rw [ofEntries] at ha ⊢
  obtain ⟨maxCalls, hmaxCalls, ha⟩ := exists_of_bind_ok ha
  obtain ⟨maxRounds, hmaxRounds, ha⟩ := exists_of_bind_ok ha
  obtain ⟨model, hmodel, ha⟩ := exists_of_bind_ok ha
  obtain ⟨retry, hretry, ha⟩ := exists_of_bind_ok ha
  cases ha
  obtain ⟨retry', hretry', hmatches⟩ := part_retry h hretry
  refine ⟨{
    debug := entry found' "debug" (.bool false)
    echo := entry found' "echo" (.bool false)
    maxCalls, maxRounds
    logLevel := entry found' "log_level" (.str "INFO")
    model
    retry := retry' }, ?_, ?_⟩
  · rw [hcalls.trans hmaxCalls, hrounds.trans hmaxRounds, (part_llm h _).trans hmodel, hretry']
    rfl
  · exact {
      debug := (h.entry "debug" (.same _ (.bool false))).truthy_eq (by decide)
      echo := (h.entry "echo" (.same _ (.bool false))).truthy_eq (by decide)
      maxCalls := rfl
      maxRounds := rfl
      retry := hmatches }

theorem ofDocument_object (env : Environment) (found : Entries) :
    ofDocument env (.object found) = ofEntries (env.fillEntries found) := by
  cases found <;> rfl

/-- Settings of exchanged documents match. -/
theorem ofText_matches {text text' : String} {tag : Option Tag}
    (htext : Node.ofText text = .ok (some (.mapping tag entries)))
    (htext' : Node.ofText text' = .ok (some (.mapping tag entries'))) (h : Exchanged env env' .root entries entries')
    (ha : ofText env text = .ok a) : ∃ b, ofText env' text' = .ok b ∧ a.Matches b := by
  have hread : Yaml.read text = (Node.mapping tag entries).toValue := by
    rw [Yaml.read, htext]
    rfl
  have hread' : Yaml.read text' = (Node.mapping tag entries').toValue := by
    rw [Yaml.read, htext']
    rfl
  rw [ofText, hread] at ha
  rw [ofText, hread']
  obtain ⟨v, hv, ha⟩ := exists_of_bind_ok ha
  obtain ⟨found, found', rfl, hv', hrelated⟩ := h.follows.toValue hv
  rw [ofDocument_object] at ha
  obtain ⟨b, hb, hmatches⟩ := ofEntries_matches hrelated.fillEntries ha
  refine ⟨b, ?_, hmatches⟩
  rw [hv']
  exact (ofDocument_object env' found').trans hb

/-- The variables whose values replace settings. -/
def overriding : List String := ["PROMPTWEAVE_DEBUG", "PROMPTWEAVE_ECHO", "PROMPTWEAVE_MAX_LLM_CALLS"]

/-- Overrides that are the same leave settings matching. -/
theorem Matches.override (h : a.Matches b) (hoverrides : ∀ name ∈ overriding, env'.lookup name = env.lookup name)
    {c : Settings} (hc : a.override env = .ok c) : ∃ d, b.override env' = .ok d ∧ c.Matches d := by
  have hdebug : env'.switch? "PROMPTWEAVE_DEBUG" = env.switch? "PROMPTWEAVE_DEBUG" := by
    rw [Environment.switch?, Environment.switch?, hoverrides _ (by decide)]
  have hecho : env'.switch? "PROMPTWEAVE_ECHO" = env.switch? "PROMPTWEAVE_ECHO" := by
    rw [Environment.switch?, Environment.switch?, hoverrides _ (by decide)]
  have htruthy : ∀ (found : Option Bool) {v v' : Value}, v'.truthy = v.truthy →
      ((found.map Value.bool).getD v').truthy = ((found.map Value.bool).getD v).truthy := by
    intro found v v' hv
    cases found with
    | none => exact hv
    | some on => rfl
  rw [Settings.override] at hc ⊢
  rw [hoverrides _ (by decide), h.maxCalls, hdebug, hecho]
  split at hc
  · cases hc
    exact ⟨_, rfl, htruthy _ h.debug, htruthy _ h.echo, rfl, h.maxRounds, h.retry⟩
  · obtain ⟨maxCalls, hmaxCalls, hc⟩ := exists_of_bind_ok hc
    cases hc
    dsimp only
    rw [hmaxCalls]
    exact ⟨_, rfl, htruthy _ h.debug, htruthy _ h.echo, rfl, h.maxRounds, h.retry⟩

/-- **References do not change the meaning of settings** whose texts survive: if a file can be loaded, it can be loaded
with references to variables that have the texts of these settings as values, and calls, rounds and attempts are limited
in the same way. -/
theorem load_references {files files' : Files} {given given' : Option String} {text text' : String} {tag : Option Tag}
    (hfile : files (path env given) = some text) (hfile' : files' (path env' given') = some text')
    (htext : Node.ofText text = .ok (some (.mapping tag entries)))
    (htext' : Node.ofText text' = .ok (some (.mapping tag entries'))) (h : Exchanged env env' .root entries entries')
    (hoverrides : ∀ name ∈ overriding, env'.lookup name = env.lookup name) (ha : load env files given = .ok a) :
    ∃ b, load env' files' given' = .ok b ∧ a.Alike b := by
  rw [load, hfile] at ha
  rw [load, hfile']
  obtain ⟨s, hs, ha⟩ := exists_of_bind_ok ha
  obtain ⟨s', hs', hmatches⟩ := ofText_matches htext htext' h hs
  obtain ⟨b, hb, hmatches⟩ := hmatches.override hoverrides ha
  refine ⟨b, ?_, hmatches.alike⟩
  dsimp only
  rw [hs']
  exact hb

/-! ### A file with three settings -/

/-- Files that all hold one text. -/
def holding (text : String) : Files := fun _ => some text

/-- A file with a switch, a number and a switch for repeated attempts. -/
def threeText (debug maxCalls jitter : String) : String :=
  "debug: " ++ debug ++ "\nmax_llm_calls: " ++ maxCalls ++ "\nretry:\n  jitter: " ++ jitter ++ "\n"

/-- What such a file is read as. -/
def threeEntries (debug maxCalls jitter : String) : List (Node × Node) := [
  (.scalar none "debug" true, .scalar none debug true),
  (.scalar none "max_llm_calls" true, .scalar none maxCalls true),
  (.scalar none "retry" true, .mapping none [(.scalar none "jitter" true, .scalar none jitter true)])]

/-- Whether something was read as such a file.  There is no equality of nodes that decides this. -/
def isThree (debug maxCalls jitter : String) : Except Failure (Option Node) → Bool
  | .ok (some (.mapping none [
      (.scalar none "debug" true, .scalar none d true),
      (.scalar none "max_llm_calls" true, .scalar none n true),
      (.scalar none "retry" true, .mapping none [(.scalar none "jitter" true, .scalar none j true)])])) =>
    d == debug && n == maxCalls && j == jitter
  | _ => false

theorem eq_of_isThree {debug maxCalls jitter : String} {x : Except Failure (Option Node)}
    (h : isThree debug maxCalls jitter x = true) :
    x = .ok (some (.mapping none (threeEntries debug maxCalls jitter))) := by
  rw [isThree.eq_def] at h
  split at h
  · simp only [Bool.and_eq_true, beq_iff_eq] at h
    obtain ⟨⟨rfl, rfl⟩, rfl⟩ := h
    rfl
  · exact absurd h Bool.false_ne_true

/-- Variables for the three settings. -/
def threeVariables : Environment := [("D", "true"), ("N", "5"), ("J", "true")]

theorem exchanged_three : Exchanged [] threeVariables .root (threeEntries "true" "5" "true")
    (threeEntries (reference "D") (reference "N") (reference "J")) := by
  have htrue : Tag.ofPlain "true" = .bool := by decide +kernel
  have hfive : Tag.ofPlain "5" = .int := by decide +kernel
  have hkind : Tag.ofPlain "true" ∈ [.bool, .int, .float] := htrue ▸ by decide
  have hread : (Tag.ofPlain "true").read "true" = .ok (.bool true) := htrue ▸ rfl
  have hname : ∀ c : Char, Text.isWord c = true → IsName (String.singleton c) := by
    intro c hc
    constructor
    · simp
    · simpa using hc
  have hjitter : Exchanged [] threeVariables .retry [(.scalar none "jitter" true, .scalar none "true" true)]
      [(.scalar none "jitter" true, .scalar none (reference "J") true)] :=
    .setting rfl hkind hread (.jitter rfl) (hname 'J' (by decide +kernel)) rfl (.nil _)
  have hdebug : Survives .root "debug" "true" (.bool true) := .switch List.mem_cons_self rfl
  have hcalls : Survives .root "max_llm_calls" "5" (.int 5) :=
    .digits List.mem_cons_self (by decide) (List.forall_mem_singleton.2 (by decide)) rfl
  refine .setting rfl hkind hread hdebug (hname 'D' (by decide +kernel)) rfl ?_
  refine .setting rfl (hfive ▸ by decide) (hfive ▸ rfl) hcalls (hname 'N' (by decide +kernel)) rfl ?_
  exact .retry rfl hjitter (.nil _)

theorem load_references_three : ∃ a b, load [] (holding (threeText "true" "5" "true")) none = .ok a ∧
    load threeVariables (holding (threeText (reference "D") (reference "N") (reference "J"))) none = .ok b ∧
    a.Alike b := by
  have hload : ∃ a, load [] (holding (threeText "true" "5" "true")) none = .ok a := by
    have hok : (load [] (holding (threeText "true" "5" "true")) none).isOk = true := by decide +kernel
    cases h : load [] (holding (threeText "true" "5" "true")) none with
    | error f =>
      rw [h] at hok
      exact nomatch hok
    | ok a => exact ⟨a, rfl⟩
  have hread : Node.ofText (threeText "true" "5" "true") =
      .ok (some (.mapping none (threeEntries "true" "5" "true"))) :=
    eq_of_isThree (by decide +kernel)
  have hread' : Node.ofText (threeText (reference "D") (reference "N") (reference "J")) =
      .ok (some (.mapping none (threeEntries (reference "D") (reference "N") (reference "J")))) :=
    eq_of_isThree (by decide +kernel)
  have hfile : ∀ text env, holding text (path env none) = some text := fun _ _ => rfl
  obtain ⟨a, ha⟩ := hload
  obtain ⟨b, hb, halike⟩ :=
    load_references (hfile _ _) (hfile _ threeVariables) hread hread' exchanged_three (by decide) ha
  exact ⟨a, b, ha, hb, halike⟩

/-- **A switch that is off is on** if this comes from a variable, and while debugging there is a limit on calls.  A
number of attempts that comes from a variable is none. -/
theorem load_references_lost :
    let env : Environment := [("D", "false"), ("N", "3")]
    let limits (text : String) : Option (Bool × Option Int) :=
      (load env (holding text) none).toOption.map fun s => (s.debug.truthy, s.callLimit)
    let attempts (text : String) : Option Nat := do
      let s ← (load env (holding text) none).toOption
      let policy ← (s.retryPolicy : Except Failure (RetryPolicy Unit)).toOption
      policy.attempts.toOption
    limits "debug: false\n" = some (false, none) ∧ limits "debug: $\x7bD\x7d\n" = some (true, some 100) ∧
      attempts "retry:\n  max_attempts: 3\n" = some 3 ∧ attempts "retry:\n  max_attempts: $\x7bN\x7d\n" = none := by
  decide +kernel

end Settings

end Colloquy
