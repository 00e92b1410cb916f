import Colloquy.Proofs.Budget.Meter
import Colloquy.Proofs.Echo.Silence
import Colloquy.Proofs.Pipeline.Requests
import Colloquy.Proofs.Source.Gate
import Mathlib.Data.List.Forall2

/-!
# Feedback

A model that is asked again after a rejection finds the instruction as one more message behind those of the session
(`Session.Corrected`).  `getContent_inquiries` says what its backend is asked on the whole, as a meter records it:
for each attempt at content one inquiry, made no more often than the pipeline may repeat it.  It differs from the
session only in the instruction of the rejection just before, so instructions do not pile up.

Nobody else is told of an instruction.  While a source is asked, observers and the log are shown what callers' code
shows them, and nothing besides (`getContent_shows`).
-/

namespace Colloquy

variable {σ : Type}

open Run

/-! ### What a model finds -/

/-- A session as a model finds it that is asked with some feedback: the session itself, or its messages and the
feedback behind them.  In the latter case it is quiet, so what is added to it is not shown. -/
structure Session.Corrected (s : Session) (feedback : Option String) (found : Session) : Prop where
  untold : (∀ hint ∈ feedback, hint = "") → found = s
  told : ∀ hint ∈ feedback, hint ≠ "" → found.messages = s.messages ++ [.user hint] ∧ found.echo = false
  vars : found.vars = s.vars
  attrs : found.attrs = s.attrs

theorem Source.corrected_prepare (access : ModelAccess σ) (s : Session) (feedback : Option String) :
    s.Corrected feedback (prepare (.model access) s feedback) := by
  have huntold : feedback.filter (· ≠ "") = none → prepare (.model access) s feedback = s := by
    intro h
    simp only [prepare, h]
  cases feedback with
  | none =>
    rw [huntold rfl]
    exact ⟨fun _ => rfl, fun hint hmem => absurd hmem (Option.not_mem_none hint), rfl, rfl⟩
  | some hint =>
    by_cases hblank : hint = ""
    · rw [huntold (by rw [Option.filter_some, if_neg (by simpa using hblank)])]
      refine ⟨fun _ => rfl, ?_, rfl, rfl⟩
      rintro other ⟨⟩ hne
      exact absurd hblank hne
    · have htold : prepare (.model access) s (some hint) = (s.withEcho false none).append (.user hint) := by
        simp only [prepare, Option.filter_some, decide_eq_true hblank, if_true]
      rw [htold]
      refine ⟨fun h => absurd (h hint rfl) hblank, ?_, rfl, rfl⟩
      rintro other ⟨⟩ _
      exact ⟨rfl, rfl⟩

/-! ### What callers hand over -/

/-- All that callers hand over to a source of a model maintains a property: the function by which a backend computes
its answers, the validator, the middleware, and what is told of failures. -/
structure CallersMaintain (P : State σ → Prop) (access : ModelAccess σ) (policy : Policy σ) : Prop where
  backend : ∀ cell respond, access.backend = some (.computed cell respond) → ∀ s o, (respond s o).Maintains P
  validator : ∀ v ∈ policy.validator, Validator.AllMaintain P v.functions
  middlewares : ∀ m ∈ policy.pipeline.middlewares, m.Maintains P
  retry : policy.retry.Maintains P

/-- No part of a source of a model touches the calls recorded in a cell: the backend keeps its own record elsewhere,
and callers' code leaves them as they are. -/
structure SparesRecord (meter : Nat) (access : ModelAccess σ) (policy : Policy σ) : Prop where
  elsewhere : ∀ b ∈ access.backend, meter ∉ b.record?
  callers : ∀ record, CallersMaintain (·.asked.get meter = record) access policy

namespace Source

variable {src : Source σ} {access : ModelAccess σ} {meter count : Nat} {w : Surroundings σ} {s : Session}
  {feedback : Option String} {st st' : State σ}

/-! ### The inquiries of an attempt -/

/-- What a backend is asked in an attempt. -/
def inquiry (src : Source σ) (access : ModelAccess σ) (s : Session) (feedback : Option String) : Session × Options :=
  (prepare src.origin s feedback, access.options)

/-- What the record of calls has got on top in an attempt. -/
def Inquires (src : Source σ) (access : ModelAccess σ) (s : Session) (meter count : Nat) (feedback : Option String)
    (st st' : State σ) : Prop :=
  ∃ n ≤ count, st'.asked.get meter = st.asked.get meter ++ List.replicate n (src.inquiry access s feedback)

/-- A metered model is asked once, unless its budget is spent. -/
theorem records_askModel {policy : Policy σ} (h : SparesRecord meter access policy) (s : Session) :
    (askModel (access.metered meter) s).Records meter (s, access.options) 1 := by
  have hacquire : (access.budget.acquire : Run σ Nat).KeepsRecord meter :=
    access.budget.keeps_acquire (fun _ _ => rfl) fun _ _ => .modify fun _ => rfl
  have hrecord : (Backend.recordCall meter s access.options : Run σ Unit).Records meter (s, access.options) 1 := by
    intro w st
    refine ⟨1, Nat.le_refl 1, ?_⟩
    show (st.asked.set meter _).get meter = _
    rw [Cells.get_set, if_pos rfl, List.replicate_one]
  have hask : (askBackend access s access.options).KeepsRecord meter := by
    refine keeps_iff_maintains.2 fun record => maintains_askBackend (booked_record meter record) fun b hb => ?_
    refine b.maintains_generate (booked_record meter record) s _ (fun cell hcell => ?_) fun cell respond hcomputed => ?_
    · -- The record of the backend itself is another one.
      have hne : cell ≠ meter := by
        rintro rfl
        exact h.elsewhere b hb hcell
      refine .modify fun st hst => ?_
      show (st.asked.set cell _).get meter = record
      rw [Cells.get_set, if_neg hne]
      exact hst
    · exact (h.callers record).backend cell respond (hb.trans (congrArg some hcomputed)) s _
  rw [askModel_metered]
  refine .after_keeps hacquire (.trivial _) fun _ _ => hrecord.before_keeps fun _ => ?_
  exact hask.outcome.bind fun ended => keeps_iff_maintains.2 fun _ => maintains_handOn ended

section

variable (hmodel : src.origin = .model (access.metered meter)) (h : SparesRecord meter access src.policy)

include hmodel h in
/-- However often the pipeline repeats the call, it makes the same inquiry. -/
theorem records_response (hkeep : src.policy.pipeline.KeepsSessions)
    (hcount : src.policy.retry.attempts = .ok count) (hpos : 0 < count) (s : Session) (feedback : Option String) :
    (src.response s feedback).Records meter (src.inquiry access s feedback) count := by
  have hcall : ∀ ctx : Context, ctx.session = prepare src.origin s feedback →
      (generate src.origin ctx.session feedback).Records meter (src.inquiry access s feedback) 1 := by
    intro ctx hctx
    rw [hctx, inquiry, hmodel]
    exact records_askModel h _
  have hmiddlewares : ∀ m ∈ src.policy.pipeline.middlewares, m.KeepsRecord meter := fun m hm record =>
    (h.callers record).middlewares m hm
  exact hkeep.records_execute hmiddlewares hcall (fun record => (h.callers record).retry) hcount hpos rfl

include h in
theorem keepsRecord_transformation (s : Session) (feedback : Option String) (raw : Content) :
    (src.transformation s feedback raw).KeepsRecord meter :=
  keeps_iff_maintains.2 fun record =>
    .foldlM (fun m hm content => ((h.callers record).middlewares m hm).transform content _) _

include h in
theorem keepsRecord_rejection (s : Session) (feedback : Option String) :
    (src.rejection s feedback).KeepsRecord meter :=
  keeps_iff_maintains.2 fun record => .forM fun m hm => ((h.callers record).middlewares m hm).onRejected _

include h in
theorem Judges.record_eq {candidate : Content} {judgement : Except Failure (Verdict × Content)}
    (hjudge : src.Judges w s candidate st judgement st') : st'.asked.get meter = st.asked.get meter := by
  have hinspect : ∀ {own content st₁}, src.Inspects w candidate st own content st₁ →
      st₁.asked.get meter = st.asked.get meter := by
    intro own content st₁ hinspects
    have hkeeps : (inspect src.origin candidate).KeepsRecord meter :=
      keeps_inspect (fun _ _ => .modify fun _ => rfl) (fun _ _ => rfl) src.origin candidate
    exact hkeeps.eq_of_exec hinspects.1
  cases hjudge with
  | refused hown _ => exact hinspect hown
  | unvalidated hown _ _ => exact hinspect hown
  | validated hown _ hsome hrun =>
    have hkeeps : (Validator.judge _ candidate.text s).KeepsRecord meter := keeps_iff_maintains.2 fun record =>
      Validator.maintains_judge _ ((h.callers record).validator _ hsome) candidate.text s
    exact (hkeeps.eq_of_exec hrun).trans (hinspect hown)

variable (hkeep : src.policy.pipeline.KeepsSessions) (hcount : src.policy.retry.attempts = .ok count)
  (hpos : 0 < count)
include hmodel h hkeep hcount hpos

theorem inquires_of_response {raw : Except Failure Content}
    (hresponse : (src.response s feedback).exec w st = (raw, st')) :
    src.Inquires access s meter count feedback st st' :=
  (records_response hmodel h hkeep hcount hpos s feedback).of_exec hresponse

theorem Produces.inquires {candidate : Content} (hproduce : src.Produces w s feedback st candidate st') :
    src.Inquires access s meter count feedback st st' := by
  obtain ⟨raw, generated, transformed, hresponse, htransform, -⟩ := hproduce
  obtain ⟨n, hn, hrecord⟩ := inquires_of_response hmodel h hkeep hcount hpos hresponse
  have hsame := (keepsRecord_transformation h s feedback raw).eq_of_exec htransform
  exact ⟨n, hn, hsame.trans hrecord⟩

theorem FailsToProduce.inquires {f : Failure} (hproduce : src.FailsToProduce w s feedback st f st') :
    src.Inquires access s meter count feedback st st' := by
  rcases hproduce with hresponse | ⟨raw, generated, hresponse, htransform⟩
  · exact inquires_of_response hmodel h hkeep hcount hpos hresponse
  · obtain ⟨n, hn, hrecord⟩ := inquires_of_response hmodel h hkeep hcount hpos hresponse
    have hsame := (keepsRecord_transformation h s feedback raw).eq_of_exec htransform
    exact ⟨n, hn, hsame.trans hrecord⟩

/-- In an attempt all inquiries are made by the pipeline: to judge a candidate and to tell of its rejection takes
none. -/
theorem Ends.inquires {outcome : Except Failure (Verdict × Content)}
    (hends : src.Ends w s feedback st outcome st') : src.Inquires access s meter count feedback st st' := by
  cases hends with
  | unproduced hproduce => exact FailsToProduce.inquires hmodel h hkeep hcount hpos hproduce
  | unjudged hproduce hjudge =>
    obtain ⟨n, hn, hrecord⟩ := Produces.inquires hmodel h hkeep hcount hpos hproduce
    exact ⟨n, hn, (hjudge.record_eq h).trans hrecord⟩
  | accepted hproduce hjudge _ =>
    obtain ⟨n, hn, hrecord⟩ := Produces.inquires hmodel h hkeep hcount hpos hproduce
    exact ⟨n, hn, (hjudge.record_eq h).trans hrecord⟩
  | rejected hproduce hjudge _ htell =>
    obtain ⟨n, hn, hrecord⟩ := Produces.inquires hmodel h hkeep hcount hpos hproduce
    have hsame := (keepsRecord_rejection h s feedback).eq_of_exec htell
    exact ⟨n, hn, hsame.trans ((hjudge.record_eq h).trans hrecord)⟩

end

/-! ### The inquiries of a run -/

/-- In an attempt the inquiry was recorded a number of times. -/
def Round.Inquires (src : Source σ) (access : ModelAccess σ) (s : Session) (meter : Nat) (r : Round σ) (n : Nat) :
    Prop :=
  r.left.asked.get meter = r.entered.asked.get meter ++ List.replicate n (src.inquiry access s r.feedback)

/-- The inquiries of attempts, each of which was made a number of times. -/
def inquiries (src : Source σ) (access : ModelAccess σ) (s : Session) (trials : List (Round σ)) (counts : List Nat) :
    List (Session × Options) :=
  (trials.zip counts).flatMap fun (r, n) => List.replicate n (src.inquiry access s r.feedback)

variable {trials : List (Round σ)} {counts : List Nat}

theorem exists_counts {R : Round σ → Nat → Prop} (h : ∀ r ∈ trials, ∃ n, R r n) :
    ∃ counts, List.Forall₂ R trials counts := by
  induction trials with
  | nil => exact ⟨[], .nil⟩
  | cons r rest ih =>
    rw [List.forall_mem_cons] at h
    obtain ⟨n, hn⟩ := h.1
    obtain ⟨counts, hcounts⟩ := ih h.2
    exact ⟨n :: counts, .cons hn hcounts⟩

theorem length_inquiries_le (h : List.Forall₂ (fun r n => n ≤ count ∧ r.Inquires src access s meter n) trials counts) :
    (src.inquiries access s trials counts).length ≤ trials.length * count := by
  induction h with
  | nil => exact Nat.zero_le _
  | @cons r n trials counts hr _ ih =>
    have hsplit : src.inquiries access s (r :: trials) (n :: counts) =
        List.replicate n (src.inquiry access s r.feedback) ++ src.inquiries access s trials counts := rfl
    rw [hsplit, List.length_append, List.length_replicate, List.length_cons, Nat.succ_mul, Nat.add_comm]
    exact Nat.add_le_add ih hr.1

/-- Between attempts nothing is asked, so the record at the end has the inquiries of all of them in order. -/
theorem record_of_rounds {last : Round σ}
    (hjoins : trials.IsChain fun r next => next.entered.asked = r.left.asked)
    (hinquired : List.Forall₂ (fun r n => n ≤ count ∧ r.Inquires src access s meter n) trials counts)
    (hentered : ∀ r ∈ trials.head?, r.entered.asked = st.asked) (hlast : trials.getLast? = some last) :
    last.left.asked.get meter = st.asked.get meter ++ src.inquiries access s trials counts := by
  induction hinquired generalizing st with
  | nil => exact nomatch hlast
  | @cons r n trials counts hr hrest ih =>
    have hsplit : src.inquiries access s (r :: trials) (n :: counts) =
        List.replicate n (src.inquiry access s r.feedback) ++ src.inquiries access s trials counts := rfl
    have hfirst : r.left.asked.get meter = st.asked.get meter ++
        List.replicate n (src.inquiry access s r.feedback) := by
      rw [hr.2, hentered r rfl]
    cases hrest with
    | nil =>
      obtain rfl : r = last := Option.some.inj hlast
      rw [hsplit, hfirst]
      exact (congrArg (st.asked.get meter ++ ·) (List.append_nil _)).symm
    | cons hnext htail =>
      -- The attempts behind the first one start from its record.
      obtain ⟨hjoin, hlaterJoins⟩ := List.isChain_cons_cons.1 hjoins
      have hlater := @ih r.left hlaterJoins (by rintro u ⟨⟩; exact hjoin)
        (by rwa [List.getLast?_cons_cons] at hlast)
      rw [hlater, hfirst, hsplit, List.append_assoc]

theorem Round.asked_answer (r : Round σ) : (r.answer src).2.asked = r.left.asked := by
  unfold Round.answer
  cases r.outcome with
  | error f => rfl
  | ok judged =>
    dsimp only
    split
    · rfl
    · split
      · rfl
      · rfl

/-- **What a backend is asked.**  A metered source makes a chain of attempts.  Each of them makes one inquiry, at most
as often as the pipeline may repeat it, and the record of the run has these inquiries and no other. -/
theorem getContent_inquiries (hmodel : src.origin = .model (access.metered meter))
    (h : SparesRecord meter access src.policy) (hkeep : src.policy.pipeline.KeepsSessions)
    (hcount : src.policy.retry.attempts = .ok count) (hpos : 0 < count) (s : Session) (w : Surroundings σ)
    (st : State σ) :
    ∃ trials last counts, (src.rounds w s).Chain src.policy.maxAttempts 1 none trials ∧
      (∀ r ∈ trials.head?, r.entered = st) ∧ trials.getLast? = some last ∧
      (src.getContent s).exec w st = last.answer src ∧
      List.Forall₂ (fun r n => n ≤ count ∧ r.Inquires src access s meter n) trials counts ∧
      ((src.getContent s).exec w st).2.asked.get meter =
        st.asked.get meter ++ src.inquiries access s trials counts ∧
      (src.inquiries access s trials counts).length ≤ src.policy.maxAttempts * count := by
  obtain ⟨trials, last, hchain, hentered, hlast, hanswer⟩ := getContent_gate src s w st
  have hrounds : ∀ r ∈ trials, ∃ n, n ≤ count ∧ r.Inquires src access s meter n := by
    intro r hr
    obtain ⟨k, hk, rfl⟩ := List.getElem_of_mem hr
    obtain ⟨n, hn, hrecord⟩ := (hchain.starts k hk).2.inquires hmodel h hkeep hcount hpos
    exact ⟨n, hn, hrecord⟩
  obtain ⟨counts, hinquired⟩ := exists_counts hrounds
  refine ⟨trials, last, counts, hchain, hentered, hlast, hanswer, hinquired, ?_, ?_⟩
  · rw [hanswer, Round.asked_answer]
    have hjoins : trials.IsChain fun r next => next.entered.asked = r.left.asked :=
      List.isChain_iff_getElem.2 fun k hk => by rw [hchain.joins k hk]
    exact record_of_rounds hjoins hinquired (fun r hr => by rw [hentered r hr]) hlast
  · exact Nat.le_trans (length_inquiries_le hinquired) (Nat.mul_le_mul_right count hchain.length_le)

/-! ### What is shown -/

section

variable {P : State σ → Prop}

/-- A source of a model maintains a property of the books if callers' code does, and if counting and recording calls
does. -/
theorem maintains_getContent (hP : Booked P) (hmodel : src.origin = .model access)
    (h : CallersMaintain P access src.policy) (hacquire : (access.budget.acquire : Run σ Nat).Maintains P)
    (hrecord : ∀ cell s o, (Backend.recordCall cell s o : Run σ Unit).Maintains P) (s : Session) :
    (src.getContent s).Maintains P := by
  have hgenerate : ∀ s feedback, (generate src.origin s feedback).Maintains P := by
    intro s feedback
    rw [hmodel]
    have hask : (askBackend access s access.options).Maintains P :=
      maintains_askBackend hP fun b hb => b.maintains_generate hP s _ (fun cell _ => hrecord cell s _)
        fun cell respond hcomputed => h.backend cell respond (hb.trans (congrArg some hcomputed)) s _
    exact hacquire.bind fun _ => hask.outcome.bind maintains_handOn
  have hsource : src.Maintains P := ⟨hgenerate, h.validator, h.middlewares, h.retry⟩
  exact hsource.getContent hP s

end

/-- All that an observer was shown behind some messages, or that the log was, has a property. -/
def ShownSince (target : Option Observer) (Q : Message → Prop) (before : List Message) (st : State σ) : Prop :=
  ∃ ms, st.echoes target = before ++ ms ∧ ∀ m ∈ ms, Q m

variable {target : Option Observer} {Q : Message → Prop} {before : List Message}

theorem ShownSince.of_echoes (h : ShownSince target Q before st) (hechoes : st'.echoes target = st.echoes target) :
    ShownSince target Q before st' := by
  obtain ⟨ms, hms, hQ⟩ := h
  exact ⟨ms, hechoes.trans hms, hQ⟩

/-- **What is shown.**  While a source of a model is asked for content, all messages that are shown are shown by code of
its callers. -/
theorem getContent_shows (hmodel : src.origin = .model access)
    (h : ∀ before, CallersMaintain (ShownSince target Q before) access src.policy) (s : Session)
    (w : Surroundings σ) (st : State σ) :
    ShownSince target Q (st.echoes target) ((src.getContent s).exec w st).2 := by
  have hbooked : Booked (σ := σ) (ShownSince target Q (st.echoes target)) := fun st₁ st₂ hbooks hst =>
    hst.of_echoes (congrFun (congrArg Prod.snd hbooks) target)
  have hacquire : (access.budget.acquire : Run σ Nat).Maintains (ShownSince target Q (st.echoes target)) :=
    fun w st₁ hst => hst.of_echoes (access.budget.silent_acquire w st₁)
  have hrecord : ∀ cell s o, (Backend.recordCall cell s o : Run σ Unit).Maintains
      (ShownSince target Q (st.echoes target)) := fun cell s o => .modify fun st₁ hst => hst.of_echoes rfl
  exact maintains_getContent hbooked hmodel (h _) hacquire hrecord s w st ⟨[], (List.append_nil _).symm, nofun⟩

end Source

end Colloquy
