import Colloquy.Proofs.Template.Lexical

/-!
# Resolving default sources

`Template.resolved` writes into every message without a source the one that the nearest template around it
declares, and erases all declarations.  `alike_resolved` says that a template and its resolution cannot be told
apart: they end in the same way and leave the same state, whatever the sources record in it of being asked, and
neither changes what is in scope.  Where no source is declared around a message, it fails.

The proof goes through `runIn`, where the scope is an argument.  The declarations around a template amount to
one scope (`Defaults.nested`), and a resolved template does not care about a scope that adds nothing to it
(`runIn_resolved`).
-/

namespace Colloquy

variable {σ : Type}

/-! ### Nested declarations -/

namespace Defaults

/-- What several declarations amount to, the innermost of which comes first. -/
def nested (enclosing : List (Defaults σ)) : Defaults σ :=
  enclosing.foldr within {}

/-- Default sources, each changed. -/
def mapSources (change : Source σ → Source σ) (d : Defaults σ) : Defaults σ where
  user := d.user.map change
  assistant := d.assistant.map change

theorem nothing_within (d : Defaults σ) : within {} d = d := by
  simp only [within, Option.none_or]

theorem within_nothing (d : Defaults σ) : d.within {} = d := by
  simp only [within, Option.or_none]

theorem within_self (d : Defaults σ) : d.within d = d := by
  simp only [within, Option.or_self]

theorem within_assoc (a b c : Defaults σ) : (a.within b).within c = a.within (b.within c) := by
  simp only [within, Option.or_assoc]

theorem nested_singleton (d : Defaults σ) : nested [d] = d :=
  within_nothing d

/-- The user's or the assistant's source. -/
structure IsField (field : Defaults σ → Option (Source σ)) : Prop where
  within : ∀ own outer, field (own.within outer) = (field own).or (field outer)
  nothing : field {} = none
  mapSources : ∀ change d, field (mapSources change d) = (field d).map change

theorem isField_user : IsField (σ := σ) user := ⟨fun _ _ => rfl, rfl, fun _ _ => rfl⟩

theorem isField_assistant : IsField (σ := σ) assistant := ⟨fun _ _ => rfl, rfl, fun _ _ => rfl⟩

variable {field : Defaults σ → Option (Source σ)} {enclosing : List (Defaults σ)} {scope : Defaults σ}

theorem IsField.nested (hfield : IsField field) (enclosing : List (Defaults σ)) :
    field (nested enclosing) = enclosing.findSome? field := by
  induction enclosing with
  | nil => exact hfield.nothing
  | cons d rest ih =>
    show field (d.within (Defaults.nested rest)) = _
    rw [hfield.within, ih, List.findSome?_cons]
    cases field d with
    | none => rfl
    | some source => rfl

/-- A source that was resolved is found again in a scope that adds nothing to the declarations. -/
theorem IsField.or_nested (hfield : IsField field)
    (h : (Defaults.nested enclosing).within scope = .nested enclosing) (source : Option (Source σ)) :
    (source.or (enclosing.findSome? field)).or (field scope) =
      source.or (field (.nested enclosing)) := by
  have hscope : (field (.nested enclosing)).or (field scope) = field (.nested enclosing) := by
    rw [← hfield.within, h]
  rw [← hfield.nested, Option.or_assoc, hscope]

theorem IsField.findSome?_mapSources (hfield : IsField field) (change : Source σ → Source σ)
    (source : Option (Source σ)) (enclosing : List (Defaults σ)) :
    (source.map change).or ((enclosing.map (·.mapSources change)).findSome? field) =
      (source.or (enclosing.findSome? field)).map change := by
  have hcomp : field ∘ Defaults.mapSources change = Option.map change ∘ field :=
    funext fun d => hfield.mapSources change d
  rw [List.findSome?_map, hcomp, ← List.map_findSome?, Option.map_or]

/-- A scope that adds nothing to the declarations around a template adds nothing to further ones. -/
theorem nested_cons_within (h : (Defaults.nested enclosing).within scope = .nested enclosing)
    (own : Defaults σ) :
    (Defaults.nested (own :: enclosing)).within scope = .nested (own :: enclosing) := by
  show (own.within (.nested enclosing)).within scope = own.within (.nested enclosing)
  rw [within_assoc, h]

end Defaults

/-! ### Other sources -/

/-- The sources of a strategy, each changed. -/
def Strategy.mapSources (change : Source σ → Source σ) : Strategy σ → Strategy σ
  | .judged judge => .judged (change judge)
  | strategy => strategy

/-- The sources of branches, each changed. -/
def Parallel.mapSources (change : Source σ → Source σ) (p : Parallel σ) : Parallel σ :=
  { p with
    branches := p.branches.map fun b => { b with source := change b.source }
    strategy := p.strategy.mapSources change }

namespace Template

mutual

/-- The template with each of its sources changed. -/
def mapSources (change : Source σ → Source σ) : Template σ → Template σ
  | system source => system (change source)
  | user source => user (source.map change)
  | assistant source extract => assistant (source.map change) extract
  | conditional condition positive negative =>
    conditional condition (mapSources change positive) (mapSourcesOption change negative)
  | transform functions => transform functions
  | sequence body defaults => sequence (mapSourcesAll change body) (defaults.mapSources change)
  | loop body done rounds defaults =>
    loop (mapSourcesAll change body) done rounds (defaults.mapSources change)
  | subroutine body start squash defaults =>
    subroutine (mapSourcesAll change body) start squash (defaults.mapSources change)
  | parallel p => parallel (p.mapSources change)
  | agent steps defaults => agent (mapSourcesAll change steps) (defaults.mapSources change)

/-- The templates of a body, with each of their sources changed. -/
def mapSourcesAll (change : Source σ → Source σ) : List (Template σ) → List (Template σ)
  | [] => []
  | t :: rest => mapSources change t :: mapSourcesAll change rest

/-- A template that may be missing, with each of its sources changed. -/
def mapSourcesOption (change : Source σ → Source σ) : Option (Template σ) → Option (Template σ)
  | none => none
  | some t => some (mapSources change t)

end

/-! ### Resolution -/

mutual

/-- The template in which every message without a source has got the one that the nearest of the declarations
around it gives, and nothing is declared any more.  The innermost of the declarations comes first. -/
def resolved : Template σ → List (Defaults σ) → Template σ
  | system source, _ => system source
  | user source, enclosing => user (source.or (enclosing.findSome? (·.user)))
  | assistant source extract, enclosing =>
    assistant (source.or (enclosing.findSome? (·.assistant))) extract
  | conditional condition positive negative, enclosing =>
    conditional condition (resolved positive enclosing) (resolvedOption negative enclosing)
  | transform functions, _ => transform functions
  | sequence body defaults, enclosing => sequence (resolvedAll body (defaults :: enclosing)) {}
  | loop body done rounds defaults, enclosing =>
    loop (resolvedAll body (defaults :: enclosing)) done rounds {}
  | subroutine body start squash defaults, enclosing =>
    subroutine (resolvedAll body (defaults :: enclosing)) start squash {}
  | parallel p, _ => parallel p
  | agent steps defaults, enclosing => agent (resolvedAll steps (defaults :: enclosing)) {}

/-- The templates of a body, resolved. -/
def resolvedAll : List (Template σ) → List (Defaults σ) → List (Template σ)
  | [], _ => []
  | t :: rest, enclosing => resolved t enclosing :: resolvedAll rest enclosing

/-- A template that may be missing, resolved. -/
def resolvedOption : Option (Template σ) → List (Defaults σ) → Option (Template σ)
  | none, _ => none
  | some t, enclosing => some (resolved t enclosing)

end

theorem isEmpty_resolvedAll (body : List (Template σ)) (enclosing : List (Defaults σ)) :
    (resolvedAll body enclosing).isEmpty = body.isEmpty := by
  cases body with
  | nil => rfl
  | cons t rest => rfl

mutual

/-- Resolution hands sources on without looking into them. -/
theorem resolved_mapSources (change : Source σ → Source σ) (t : Template σ)
    (enclosing : List (Defaults σ)) :
    (t.mapSources change).resolved (enclosing.map (·.mapSources change)) =
      (t.resolved enclosing).mapSources change := by
  cases t with
  | system source => rw [mapSources, resolved, resolved, mapSources]
  | user source =>
    rw [mapSources, resolved, resolved, mapSources]
    rw [Defaults.isField_user.findSome?_mapSources]
  | assistant source extract =>
    rw [mapSources, resolved, resolved, mapSources]
    rw [Defaults.isField_assistant.findSome?_mapSources]
  | conditional condition positive negative =>
    rw [mapSources, resolved, resolved, mapSources, resolved_mapSources change positive enclosing,
      resolvedOption_mapSources change negative enclosing]
  | transform functions => rw [mapSources, resolved, resolved, mapSources]
  | sequence body defaults =>
    rw [mapSources, resolved, resolved, mapSources]
    rw [resolvedAll_mapSources change body defaults enclosing]
    rfl
  | loop body done rounds defaults =>
    rw [mapSources, resolved, resolved, mapSources]
    rw [resolvedAll_mapSources change body defaults enclosing]
    rfl
  | subroutine body start squash defaults =>
    rw [mapSources, resolved, resolved, mapSources]
    rw [resolvedAll_mapSources change body defaults enclosing]
    rfl
  | parallel p => rw [mapSources, resolved, resolved, mapSources]
  | agent steps defaults =>
    rw [mapSources, resolved, resolved, mapSources]
    rw [resolvedAll_mapSources change steps defaults enclosing]
    rfl

theorem resolvedAll_mapSources (change : Source σ → Source σ) (body : List (Template σ))
    (own : Defaults σ) (enclosing : List (Defaults σ)) :
    resolvedAll (mapSourcesAll change body)
        (own.mapSources change :: enclosing.map (·.mapSources change)) =
      mapSourcesAll change (resolvedAll body (own :: enclosing)) := by
  cases body with
  | nil => rw [mapSourcesAll, resolvedAll, resolvedAll, mapSourcesAll]
  | cons t rest =>
    rw [mapSourcesAll, resolvedAll, resolvedAll, mapSourcesAll]
    rw [resolvedAll_mapSources change rest own enclosing]
    rw [← resolved_mapSources change t (own :: enclosing)]
    rfl

theorem resolvedOption_mapSources (change : Source σ → Source σ) (t : Option (Template σ))
    (enclosing : List (Defaults σ)) :
    resolvedOption (mapSourcesOption change t) (enclosing.map (·.mapSources change)) =
      mapSourcesOption change (resolvedOption t enclosing) := by
  cases t with
  | none => rw [mapSourcesOption, resolvedOption, resolvedOption, mapSourcesOption]
  | some t =>
    rw [mapSourcesOption, resolvedOption, resolvedOption, mapSourcesOption]
    rw [resolved_mapSources change t enclosing]

end

/-! ### Running what was resolved -/

mutual

/-- In a scope that adds nothing to the declarations around a template, its resolution runs as the template
does within these. -/
theorem runIn_resolved (t : Template σ) (enclosing : List (Defaults σ)) (scope : Defaults σ)
    (h : (Defaults.nested enclosing).within scope = .nested enclosing) :
    (t.resolved enclosing).runIn scope = t.runIn (.nested enclosing) := by
  funext s
  cases t with
  | system source => rw [resolved, runIn, runIn]
  | user source => rw [resolved, runIn, runIn, Defaults.isField_user.or_nested h]
  | assistant source extract => rw [resolved, runIn, runIn, Defaults.isField_assistant.or_nested h]
  | conditional condition positive negative =>
    rw [resolved, runIn, runIn, runIn_resolved positive enclosing scope h,
      runOptionIn_resolved negative enclosing scope h]
  | transform functions => rw [resolved, runIn, runIn]
  | sequence body defaults =>
    rw [resolved, runIn, runIn, runAllIn_resolved body defaults enclosing scope h]
  | loop body done rounds defaults =>
    rw [resolved, runIn, runIn, runAllIn_resolved body defaults enclosing scope h]
    -- A loop looks at its body once more, to refuse an empty one.
    simp only [runLoop, isEmpty_resolvedAll]
  | subroutine body start squash defaults =>
    rw [resolved, runIn, runIn, runAllIn_resolved body defaults enclosing scope h]
  | parallel p => rw [resolved, runIn, runIn]
  | agent steps defaults =>
    rw [resolved, runIn, runIn, runAllIn_resolved steps defaults enclosing scope h]

/-- The body of a template runs within the declarations of the template; its resolution needs none. -/
theorem runAllIn_resolved (body : List (Template σ)) (own : Defaults σ)
    (enclosing : List (Defaults σ)) (scope : Defaults σ)
    (h : (Defaults.nested enclosing).within scope = .nested enclosing) :
    runAllIn (resolvedAll body (own :: enclosing)) (Defaults.within {} scope) =
      runAllIn body (own.within (.nested enclosing)) := by
  funext s
  have hown := Defaults.nested_cons_within h own
  cases body with
  | nil => rw [resolvedAll, runAllIn, runAllIn]
  | cons t rest =>
    -- The declarations of the template are the nearest ones, and where they were erased nothing hides the scope.
    rw [resolvedAll, runAllIn, runAllIn, runAllIn_resolved rest own enclosing scope h,
      Defaults.nothing_within, runIn_resolved t (own :: enclosing) scope hown]
    rfl

theorem runOptionIn_resolved (t : Option (Template σ)) (enclosing : List (Defaults σ))
    (scope : Defaults σ) (h : (Defaults.nested enclosing).within scope = .nested enclosing) :
    runOptionIn (resolvedOption t enclosing) scope = runOptionIn t (.nested enclosing) := by
  funext s
  cases t with
  | none => rw [resolvedOption, runOptionIn, runOptionIn]
  | some t => rw [resolvedOption, runOptionIn, runOptionIn, runIn_resolved t enclosing scope h]

end

/-! ### Messages without any source -/

/-- A message for which neither it nor a declaration around it names a source, and the failure that this
is. -/
inductive Sourceless (enclosing : List (Defaults σ)) : Template σ → Failure → Prop
  | user (h : ∀ d ∈ enclosing, d.user = none) : Sourceless enclosing (.user none)
      (.configuration "User template has no source and no default user source" none)
  | assistant (extract : Extract) (h : ∀ d ∈ enclosing, d.assistant = none) :
    Sourceless enclosing (.assistant none extract)
      (.configuration "Assistant template has no source and no default assistant source" none)

theorem Sourceless.runIn {enclosing : List (Defaults σ)} {leaf : Template σ} {f : Failure}
    (h : Sourceless enclosing leaf f) (s : Session) :
    leaf.runIn (.nested enclosing) s = throw f := by
  cases h with
  | user h =>
    have hnone : (Defaults.nested enclosing).user = none := by
      rw [Defaults.isField_user.nested, List.findSome?_eq_none_iff]
      exact h
    rw [Template.runIn, hnone]
    rfl
  | assistant extract h =>
    have hnone : (Defaults.nested enclosing).assistant = none := by
      rw [Defaults.isField_assistant.nested, List.findSome?_eq_none_iff]
      exact h
    rw [Template.runIn, hnone]
    rfl

/-! ### The law of default sources -/

/-- A template in one scope and another one in another scope cannot be told apart: from every session and
state they end in the same way and leave the same state, and what was in scope is in scope again. -/
def Alike (t : Template σ) (outer : Defaults σ) (t' : Template σ) (outer' : Defaults σ) : Prop :=
  ∀ s w st, ∃ x st', (t.run s).exec w outer st = (x, outer, st') ∧
    (t'.run s).exec w outer' st = (x, outer', st')

theorem alike_of_runIn_eq {t t' : Template σ} {outer outer' : Defaults σ}
    (h : t'.runIn outer' = t.runIn outer) : t.Alike outer t' outer' := by
  intro s w st
  refine ⟨((t.runIn outer s).exec w st).1, ((t.runIn outer s).exec w st).2, ?_, ?_⟩
  · rw [run_eq_reading, Scoped.exec_reading]
  · rw [run_eq_reading, Scoped.exec_reading, h]

/-- A template in the scope of the declarations around it cannot be told apart from its resolution in a scope
that adds nothing to these declarations. -/
theorem alike_resolved_of_within (t : Template σ) (enclosing : List (Defaults σ)) {scope : Defaults σ}
    (h : (Defaults.nested enclosing).within scope = .nested enclosing) :
    t.Alike (.nested enclosing) (t.resolved enclosing) scope :=
  alike_of_runIn_eq (runIn_resolved t enclosing scope h)

/-- **Default sources.** A template in a scope cannot be told apart from its resolution, neither in this scope
nor in an empty one, and also not if every source is changed in any way in both of them, as by one that
records that it was asked.  A message without a source fails if nothing around it declares one. -/
theorem alike_resolved (t : Template σ) (outer : Defaults σ) :
    t.Alike outer (t.resolved [outer]) outer ∧
    t.Alike outer (t.resolved [outer]) {} ∧
    (∀ change : Source σ → Source σ, (t.mapSources change).Alike (outer.mapSources change)
      ((t.resolved [outer]).mapSources change) {}) ∧
    ∀ (enclosing : List (Defaults σ)) leaf f, Sourceless enclosing leaf f → ∀ s w st,
      (leaf.run s).exec w (.nested enclosing) st = (.error f, .nested enclosing, st) := by
  have hempty : ∀ d : Defaults σ, (Defaults.nested [d]).within {} = .nested [d] := fun d =>
    Defaults.within_nothing _
  have houter : (Defaults.nested [outer]).within outer = .nested [outer] := by
    rw [Defaults.nested_singleton, Defaults.within_self]
  have halike : ∀ (t : Template σ) (d : Defaults σ), t.Alike d (t.resolved [d]) {} := by
    intro t d
    have h := alike_resolved_of_within t [d] (hempty d)
    rwa [Defaults.nested_singleton] at h
  refine ⟨?_, halike t outer, ?_, ?_⟩
  · have h := alike_resolved_of_within t [outer] houter
    rwa [Defaults.nested_singleton] at h
  · intro change
    -- To change the sources of what was resolved is to resolve what has changed sources.
    rw [← resolved_mapSources change t [outer]]
    exact halike (t.mapSources change) (outer.mapSources change)
  · intro enclosing leaf f hleaf s w st
    rw [run_eq_reading, Scoped.exec_reading, hleaf.runIn s]
    rfl

end Template

end Colloquy
