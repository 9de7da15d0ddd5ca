import Mathlib.Data.List.Induction

/-!
# Runs of a partial step function

A system is given by its states, its events and a partial step function; an
event that is not enabled in a state has no successor there.  Everything that
a scheduler, a user or a network may choose is part of the event, so a run is
determined by its list of events.  The rules below carry a fact about one step
to whole runs.
-/

namespace Chatik.Library

variable {σ ε : Type*}

/-- Execute the events in order; `none` means that one of them was not enabled. -/
def run (step : σ → ε → Option σ) : σ → List ε → Option σ
  | s, [] => some s
  | s, e :: es => (step s e).bind fun s' => run step s' es

variable {step : σ → ε → Option σ}

@[simp] theorem run_nil (s : σ) : run step s [] = some s := rfl

theorem run_cons (s : σ) (e : ε) (es : List ε) :
    run step s (e :: es) = (step s e).bind fun s' => run step s' es := rfl

@[simp] theorem run_cons_eq_some {s t : σ} {e : ε} {es : List ε} :
    run step s (e :: es) = some t ↔
      ∃ s', step s e = some s' ∧ run step s' es = some t := by
  rw [run_cons, Option.bind_eq_some_iff]

theorem run_append (s : σ) (es fs : List ε) :
    run step s (es ++ fs) = (run step s es).bind fun s' => run step s' fs := by
  induction es generalizing s with
  | nil => rfl
  | cons e es ih =>
      rw [List.cons_append, run_cons, run_cons, Option.bind_assoc]
      exact congrArg _ (funext ih)

theorem run_append_eq_some {s t : σ} {es fs : List ε} :
    run step s (es ++ fs) = some t ↔
      ∃ s', run step s es = some s' ∧ run step s' fs = some t := by
  rw [run_append, Option.bind_eq_some_iff]

theorem run_singleton {s t : σ} {e : ε} :
    run step s [e] = some t ↔ step s e = some t := by
  simp

/-! ## Invariants -/

/-- An invariant of the steps whose events meet a condition holds after a run of
such events. -/
theorem run_invariant_of_forall {I : σ → Prop} {A : ε → Prop}
    (hstep : ∀ s e s', A e → step s e = some s' → I s → I s')
    {s t : σ} {es : List ε} (hrun : run step s es = some t) (hes : ∀ e ∈ es, A e)
    (hs : I s) : I t := by
  induction es generalizing s with
  | nil =>
      cases hrun
      exact hs
  | cons e es ih =>
      obtain ⟨s', he, hrest⟩ := run_cons_eq_some.mp hrun
      obtain ⟨hfirst, hlater⟩ := List.forall_mem_cons.mp hes
      exact ih hrest hlater (hstep s e s' hfirst he hs)

theorem run_invariant {I : σ → Prop}
    (hstep : ∀ s e s', step s e = some s' → I s → I s')
    {s t : σ} {es : List ε} (hrun : run step s es = some t) (hs : I s) :
    I t :=
  run_invariant_of_forall (A := fun _ => True) (fun s e s' _ => hstep s e s') hrun
    (fun _ _ => trivial) hs

/-- What every step computes from its own last value and the event, a run computes
so from its first value. -/
theorem run_foldl {α : Type*} {f : σ → α} {g : α → ε → α}
    (hstep : ∀ s e s', step s e = some s' → f s' = g (f s) e)
    {s t : σ} {es : List ε} (hrun : run step s es = some t) :
    f t = es.foldl g (f s) := by
  induction es generalizing s with
  | nil =>
      cases hrun
      rfl
  | cons e es ih =>
      obtain ⟨s', he, hrest⟩ := run_cons_eq_some.mp hrun
      rw [List.foldl_cons, ← hstep s e s' he, ih hrest]

theorem run_relates {R : σ → σ → Prop} (hrefl : ∀ s, R s s)
    (htrans : ∀ s t u, R s t → R t u → R s u)
    (hstep : ∀ s e s', step s e = some s' → R s s')
    {s t : σ} {es : List ε} (hrun : run step s es = some t) : R s t := by
  induction es generalizing s with
  | nil =>
      cases hrun
      exact hrefl _
  | cons e es ih =>
      obtain ⟨s', he, hes⟩ := run_cons_eq_some.mp hrun
      exact htrans s s' t (hstep s e s' he) (ih hes)

/-- A collection that each step adds to, whatever the order, holds what was added. -/
theorem run_collects {α : Type*} {f : σ → List α} {g : ε → Option α}
    (hstep : ∀ s e s', step s e = some s' → (f s').Perm (f s ++ (g e).toList))
    {s t : σ} {es : List ε} (hrun : run step s es = some t) :
    (f t).Perm (f s ++ es.filterMap g) := by
  induction es generalizing s with
  | nil =>
      cases hrun
      simp
  | cons e es ih =>
      obtain ⟨s', he, hrest⟩ := run_cons_eq_some.mp hrun
      have hfirst : (g e).toList ++ es.filterMap g = (e :: es).filterMap g := by
        cases hg : g e <;> simp [hg]
      refine (ih hrest).trans (((hstep s e s' he).append_right _).trans ?_)
      rw [List.append_assoc, hfirst]

/-! ## What is written along a run -/

/-- What the events of a run write, in order. -/
def written {β : Type*} (step : σ → ε → Option σ) (wrote : σ → ε → Option β) :
    σ → List ε → List β
  | _, [] => []
  | s, e :: es =>
      match step s e with
      | none => []
      | some s' => (wrote s e).toList ++ written step wrote s' es

section

variable {β : Type*} {wrote : σ → ε → Option β}

theorem written_append {s t : σ} {es : List ε} (hrun : run step s es = some t)
    (fs : List ε) :
    written step wrote s (es ++ fs) = written step wrote s es ++ written step wrote t fs := by
  induction es generalizing s with
  | nil =>
      cases hrun
      rfl
  | cons e es ih =>
      obtain ⟨s', he, hrest⟩ := run_cons_eq_some.mp hrun
      rw [List.cons_append, written, written, he]
      simp only [ih hrest, List.append_assoc]

theorem written_singleton {s t : σ} {e : ε} (hstep : step s e = some t) :
    written step wrote s [e] = (wrote s e).toList := by
  rw [written, hstep]
  exact List.append_nil _

/-- A value that each step changes by what it writes is made of all that was written. -/
theorem run_written {α : Type*} {f : σ → α} {g : α → β → α}
    (hstep : ∀ s e s', step s e = some s' → f s' = (wrote s e).toList.foldl g (f s))
    {s t : σ} {es : List ε} (hrun : run step s es = some t) :
    f t = (written step wrote s es).foldl g (f s) := by
  induction es generalizing s with
  | nil =>
      cases hrun
      rfl
  | cons e es ih =>
      obtain ⟨s', he, hrest⟩ := run_cons_eq_some.mp hrun
      rw [ih hrest, hstep s e s' he, written, he, List.foldl_append]

/-- A list to which each step appends what it writes. -/
theorem run_written_append {f : σ → List β}
    (hstep : ∀ s e s', step s e = some s' → f s' = f s ++ (wrote s e).toList)
    {s t : σ} {es : List ε} (hrun : run step s es = some t) :
    f t = f s ++ written step wrote s es := by
  have hfold : ∀ writes kept : List β,
      writes.foldl (fun out new => out ++ [new]) kept = kept ++ writes := by
    intro writes
    induction writes with
    | nil => simp
    | cons new writes ih => simp [ih]
  rw [run_written (f := f) (g := fun out new => out ++ [new]) (fun s e s' he => ?_) hrun,
    hfold]
  rw [hstep s e s' he, hfold]

/-- What an event of a run writes in its state has been written. -/
theorem exists_written_of_mem {s t : σ} {es : List ε} (hrun : run step s es = some t) {e : ε}
    (he : e ∈ es) : ∃ u, ∀ x, wrote u e = some x → x ∈ written step wrote s es := by
  obtain ⟨before, after, rfl⟩ := List.append_of_mem he
  obtain ⟨u, hbefore, hrest⟩ := run_append_eq_some.mp hrun
  obtain ⟨v, hstep, -⟩ := run_cons_eq_some.mp hrest
  refine ⟨u, fun x hx => ?_⟩
  rw [written_append hbefore, written, hstep]
  exact List.mem_append_right _ (List.mem_append_left _ (by rw [hx]; simp))

/-- What was written, some event of the run wrote. -/
theorem exists_of_mem_written {s : σ} {es : List ε} {x : β}
    (hx : x ∈ written step wrote s es) :
    ∃ before e after t, es = before ++ e :: after ∧ run step s before = some t ∧
      wrote t e = some x := by
  induction es generalizing s with
  | nil => cases hx
  | cons e es ih =>
      rw [written] at hx
      cases he : step s e with
      | none =>
          rw [he] at hx
          cases hx
      | some s' =>
          rw [he] at hx
          rcases List.mem_append.mp hx with hfirst | hlater
          · exact ⟨[], e, es, s, rfl, rfl, Option.mem_toList.mp hfirst⟩
          · obtain ⟨before, e', after, t, rfl, hrun, hwrote⟩ := ih hlater
            exact ⟨e :: before, e', after, t, rfl,
              run_cons_eq_some.mpr ⟨s', he, hrun⟩, hwrote⟩

/-- A value that each step replaces by what it writes is what was written last. -/
theorem run_written_last {f : σ → Option β}
    (hstep : ∀ s e s', step s e = some s' → f s' = (wrote s e).or (f s))
    {s t : σ} {es : List ε} (hrun : run step s es = some t) :
    f t = (written step wrote s es).getLast?.or (f s) := by
  have hfold : ∀ (writes : List β) (kept : Option β),
      writes.foldl (fun _ new => some new) kept = writes.getLast?.or kept := by
    intro writes
    induction writes using List.reverseRecOn with
    | nil => exact fun _ => rfl
    | append_singleton writes new ih => simp
  rw [run_written (f := f) (g := fun _ new => some new) (fun s e s' he => ?_) hrun, hfold]
  rw [hstep s e s' he]
  cases wrote s e <;> rfl

end

/-! ## Properties of every step of a run -/

def EveryStep (step : σ → ε → Option σ) (P : σ → ε → σ → Prop) :
    σ → List ε → Prop
  | _, [] => True
  | s, e :: es => ∀ s', step s e = some s' → P s e s' ∧ EveryStep step P s' es

/-- Two step properties that agree wherever an invariant holds agree on whole
runs, provided that a step with the first property keeps the invariant. -/
theorem everyStep_congr {I : σ → Prop} {P Q : σ → ε → σ → Prop}
    (hagree : ∀ s e s', I s → step s e = some s' → (P s e s' ↔ Q s e s'))
    (hkeep : ∀ s e s', I s → step s e = some s' → P s e s' → I s')
    {s : σ} (hs : I s) (es : List ε) :
    EveryStep step P s es ↔ EveryStep step Q s es := by
  induction es generalizing s with
  | nil => rfl
  | cons e es ih =>
      constructor
      · intro h s' he
        obtain ⟨hP, hes⟩ := h s' he
        exact ⟨(hagree s e s' hs he).mp hP, (ih (hkeep s e s' hs he hP)).mp hes⟩
      · intro h s' he
        obtain ⟨hQ, hes⟩ := h s' he
        have hP := (hagree s e s' hs he).mpr hQ
        exact ⟨hP, (ih (hkeep s e s' hs he hP)).mpr hes⟩

/-- An invariant of the steps with a property holds after a run of such steps. -/
theorem run_invariant_of_everyStep {I : σ → Prop} {P : σ → ε → σ → Prop}
    (hstep : ∀ s e s', P s e s' → step s e = some s' → I s → I s')
    {s t : σ} {es : List ε} (hrun : run step s es = some t) (hes : EveryStep step P s es)
    (hs : I s) : I t := by
  induction es generalizing s with
  | nil =>
      cases hrun
      exact hs
  | cons e es ih =>
      obtain ⟨s', he, hrest⟩ := run_cons_eq_some.mp hrun
      obtain ⟨hP, hlater⟩ := hes s' he
      exact ih hrest hlater (hstep s e s' hP he hs)

theorem everyStep_append {P : σ → ε → σ → Prop} {s t : σ} {es fs : List ε}
    (h : EveryStep step P s (es ++ fs)) (hrun : run step s es = some t) :
    EveryStep step P s es ∧ EveryStep step P t fs := by
  induction es generalizing s with
  | nil =>
      cases hrun
      exact ⟨trivial, h⟩
  | cons e es ih =>
      obtain ⟨s', he, hes⟩ := run_cons_eq_some.mp hrun
      have hrest := ih (h s' he).2 hes
      refine ⟨fun u hu => ?_, hrest.2⟩
      obtain rfl := Option.some.inj (he.symm.trans hu)
      exact ⟨(h s' he).1, hrest.1⟩

end Chatik.Library
