import Chatik.Library.Runs

/-!
# Refinement with internal steps

A system refines a specification along an abstraction function when each of its
steps is invisible and keeps the abstract state, or is visible as an event of
the specification and is a step of it.  A system realizes the specification when
it can answer every step of it with a visible step and some invisible ones
before.  Two systems that refine and realize one specification have the same
traces.
-/

namespace Chatik.Library

variable {σ ε α ν ω : Type*}

/-- The visible events of a run, each with what is observed right after it. -/
def trace (step : σ → ε → Option σ) (visible : ε → Option ν) (observe : σ → ω) :
    σ → List ε → List (ν × ω)
  | _, [] => []
  | s, e :: es =>
      match step s e with
      | none => []
      | some s' =>
          match visible e with
          | none => trace step visible observe s' es
          | some event => (event, observe s') :: trace step visible observe s' es

structure Refines (step : σ → ε → Option σ) (spec : α → ν → Option α)
    (visible : ε → Option ν) (abstraction : σ → α) (Inv : σ → Prop) : Prop where
  keeps : ∀ s e s', Inv s → step s e = some s' → Inv s'
  internal : ∀ s e s', Inv s → step s e = some s' → visible e = none →
    abstraction s' = abstraction s
  simulates : ∀ s e s' event, Inv s → step s e = some s' → visible e = some event →
    spec (abstraction s) event = some (abstraction s')

namespace Refines

variable {step : σ → ε → Option σ} {spec : α → ν → Option α}
  {visible : ε → Option ν} {abstraction : σ → α} {Inv : σ → Prop}

theorem invariant (h : Refines step spec visible abstraction Inv) {s t : σ}
    {es : List ε} (hs : Inv s) (hrun : run step s es = some t) : Inv t :=
  run_invariant (fun s e s' hstep hs => h.keeps s e s' hs hstep) hrun hs

theorem run_spec (h : Refines step spec visible abstraction Inv) {s t : σ}
    {es : List ε} (hs : Inv s) (hrun : run step s es = some t) :
    run spec (abstraction s) (es.filterMap visible) = some (abstraction t) := by
  induction es generalizing s with
  | nil =>
      cases hrun
      rfl
  | cons e es ih =>
      obtain ⟨s', hstep, hrest⟩ := run_cons_eq_some.mp hrun
      have hspec := ih (h.keeps s e s' hs hstep) hrest
      cases he : visible e with
      | none =>
          rw [List.filterMap_cons_none he, ← h.internal s e s' hs hstep he]
          exact hspec
      | some event =>
          rw [List.filterMap_cons_some he]
          exact run_cons_eq_some.mpr ⟨_, h.simulates s e s' event hs hstep he, hspec⟩

theorem trace_spec (h : Refines step spec visible abstraction Inv)
    (observe : α → ω) {s t : σ} {es : List ε} (hs : Inv s)
    (hrun : run step s es = some t) :
    trace step visible (fun s => observe (abstraction s)) s es =
      trace spec some observe (abstraction s) (es.filterMap visible) := by
  induction es generalizing s with
  | nil => rfl
  | cons e es ih =>
      obtain ⟨s', hstep, hrest⟩ := run_cons_eq_some.mp hrun
      have htrace := ih (h.keeps s e s' hs hstep) hrest
      cases he : visible e with
      | none =>
          rw [List.filterMap_cons_none he, ← h.internal s e s' hs hstep he]
          simpa only [trace, hstep, he] using htrace
      | some event =>
          have hspec := h.simulates s e s' event hs hstep he
          rw [List.filterMap_cons_some he]
          simp only [trace, hstep, he, hspec, htrace]

end Refines

/-- From every state in `Rel` each step of the specification can be answered by
a run that ends in `Rel`. -/
def Realizes (step : σ → ε → Option σ) (spec : α → ν → Option α)
    (visible : ε → Option ν) (abstraction : σ → α) (Rel : σ → Prop) : Prop :=
  ∀ s event a, Rel s → spec (abstraction s) event = some a →
    ∃ es t, run step s es = some t ∧ es.filterMap visible = [event] ∧
      abstraction t = a ∧ Rel t

section

variable {step : σ → ε → Option σ} {spec : α → ν → Option α}
  {visible : ε → Option ν} {abstraction : σ → α}

theorem Realizes.run_realizes {Rel : σ → Prop}
    (h : Realizes step spec visible abstraction Rel) {s : σ} {a : α}
    {events : List ν} (hs : Rel s)
    (hrun : run spec (abstraction s) events = some a) :
    ∃ es t, run step s es = some t ∧ es.filterMap visible = events ∧
      abstraction t = a := by
  induction events generalizing s with
  | nil =>
      obtain rfl := Option.some.inj hrun
      exact ⟨[], s, rfl, rfl, rfl⟩
  | cons event events ih =>
      obtain ⟨a', hstep, hrest⟩ := run_cons_eq_some.mp hrun
      obtain ⟨es, t, hes, hvisible, rfl, ht⟩ := h s event a' hs hstep
      obtain ⟨fs, u, hfs, hvisible', hu⟩ := ih ht hrest
      refine ⟨es ++ fs, u, run_append_eq_some.mpr ⟨t, hes, hfs⟩, ?_, hu⟩
      rw [List.filterMap_append, hvisible, hvisible', List.singleton_append]

/-- What one system shows, another one that realizes the same specification
from the same abstract state can show. -/
theorem Refines.trace_realized {σ' ε' : Type*} {step' : σ' → ε' → Option σ'}
    {visible' : ε' → Option ν} {abstraction' : σ' → α} {Inv : σ → Prop}
    {Inv' Rel' : σ' → Prop} (h : Refines step spec visible abstraction Inv)
    (h' : Refines step' spec visible' abstraction' Inv')
    (hrealizes : Realizes step' spec visible' abstraction' Rel')
    (observe : α → ω) {s t : σ} {s' : σ'} {es : List ε} (hs : Inv s)
    (hs' : Inv' s') (hrel : Rel' s') (hsame : abstraction' s' = abstraction s)
    (hrun : run step s es = some t) :
    ∃ es' t', run step' s' es' = some t' ∧ abstraction' t' = abstraction t ∧
      trace step' visible' (fun s => observe (abstraction' s)) s' es' =
        trace step visible (fun s => observe (abstraction s)) s es := by
  have hspec := h.run_spec hs hrun
  rw [← hsame] at hspec
  obtain ⟨es', t', hrun', hvisible, ht'⟩ := hrealizes.run_realizes hrel hspec
  refine ⟨es', t', hrun', ht', ?_⟩
  rw [h'.trace_spec observe hs' hrun', h.trace_spec observe hs hrun, hvisible, hsame]

end

end Chatik.Library
