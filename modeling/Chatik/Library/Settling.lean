import Chatik.Library.Runs
import Mathlib.Order.WellFounded

/-!
# Activity that runs out

Some events of a system are its own, they come without a user or a network that
wants them.  Where each of them brings a measure down in a well-founded order,
the system cannot be busy with them for ever, and from every state it can go on
with them until none is left.
-/

namespace Chatik.Library

variable {σ ε α : Type*}

/-- None of the system's own events is enabled. -/
def Quiet (step : σ → ε → Option σ) (own : ε → Prop) (s : σ) : Prop :=
  ∀ e, own e → step s e = none

structure Settles (step : σ → ε → Option σ) (own : ε → Prop) (Inv : σ → Prop)
    (r : α → α → Prop) (measure : σ → α) : Prop where
  wellFounded : WellFounded r
  keeps : ∀ s e s', own e → step s e = some s' → Inv s → Inv s'
  decreases : ∀ s e s', own e → step s e = some s' → Inv s → r (measure s') (measure s)

namespace Settles

variable {step : σ → ε → Option σ} {own : ε → Prop} {Inv : σ → Prop}
  {r : α → α → Prop} {measure : σ → α}

theorem invariant (h : Settles step own Inv r measure) {s t : σ} {es : List ε}
    (hrun : run step s es = some t) (hes : ∀ e ∈ es, own e) (hs : Inv s) : Inv t :=
  run_invariant_of_forall h.keeps hrun hes hs

theorem exists_quiet (h : Settles step own Inv r measure) {s : σ} (hs : Inv s) :
    ∃ es t, run step s es = some t ∧ (∀ e ∈ es, own e) ∧ Quiet step own t := by
  induction hm : measure s using h.wellFounded.induction generalizing s with
  | _ m ih =>
      subst hm
      by_cases hquiet : Quiet step own s
      · exact ⟨[], s, rfl, by simp, hquiet⟩
      · -- an event that is left brings the measure down
        simp only [Quiet, not_forall] at hquiet
        obtain ⟨e, hown, henabled⟩ := hquiet
        obtain ⟨s', hstep⟩ := Option.ne_none_iff_exists'.mp henabled
        obtain ⟨es, t, hrun, hes, ht⟩ :=
          ih _ (h.decreases s e s' hown hstep hs) (h.keeps s e s' hown hstep hs) rfl
        exact ⟨e :: es, t, run_cons_eq_some.mpr ⟨s', hstep, hrun⟩,
          List.forall_mem_cons.mpr ⟨hown, hes⟩, ht⟩

theorem not_infinite (h : Settles step own Inv r measure) (states : Nat → σ)
    (events : Nat → ε) (hs : Inv (states 0)) :
    ¬ ∀ n, own (events n) ∧ step (states n) (events n) = some (states (n + 1)) := by
  intro hsteps
  have hinv : ∀ n, Inv (states n) := by
    intro n
    induction n with
    | zero => exact hs
    | succ n ih => exact h.keeps _ _ _ (hsteps n).1 (hsteps n).2 ih
  have : IsWellFounded α r := ⟨h.wellFounded⟩
  obtain ⟨n, hn⟩ := WellFounded.not_rel_apply_succ (r := r) fun n => measure (states n)
  exact hn (h.decreases _ _ _ (hsteps n).1 (hsteps n).2 (hinv n))

end Settles

end Chatik.Library
