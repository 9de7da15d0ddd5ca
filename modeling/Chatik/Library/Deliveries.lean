import Chatik.Library.Observed
import Mathlib.Data.List.Perm.Basic
import Mathlib.Data.List.TakeDrop

/-!
# What deliveries leave behind

Every delivery runs a body on the key of the listener and the state.  What all
bodies have made so far is accounted for by the listeners alone, each with the
states it has received.  A receiver that keeps only what its bodies made last
holds a view of the state that one of its listeners received last, and so, when
no delivery is outstanding, a view of the current state.
-/

namespace Chatik.Library

namespace Observed

variable {κ σ β ω : Type*}

/-! ## What the bodies have made -/

def made (o : Observed κ σ) (body : κ → σ → List ω) (l : Listener κ) : List ω :=
  (o.delivered l).flatMap (body l.key)

def madeByAll (o : Observed κ σ) (body : κ → σ → List ω) : List ω :=
  o.listeners.flatMap (o.made body)

variable (body : κ → σ → List ω)

@[simp] theorem madeByAll_attach (o : Observed κ σ) (key : κ) :
    (o.attach key).madeByAll body = o.madeByAll body := by
  have hmade : (o.attach key).made body = o.made body := rfl
  have hnone : o.made body ⟨key, o.changes.length, o.changes.length⟩ = [] := by
    simp [made]
  rw [madeByAll, hmade, attach, List.flatMap_append, List.flatMap_singleton, hnone,
    List.append_nil]
  rfl

@[simp] theorem madeByAll_change (o : Observed κ σ) (s : σ) :
    (o.change s).madeByAll body = o.madeByAll body := by
  refine List.flatMap_congr fun l hl => ?_
  rw [made, made, delivered_change o s hl]

theorem madeByAll_deliver {o o' : Observed κ σ} {i : Nat} {key : κ} {s : σ}
    (h : o.deliver i = some (key, s, o')) :
    (o'.madeByAll body).Perm (o.madeByAll body ++ body key s) := by
  obtain ⟨l, hl, hs, rfl, hhistory, hlisteners⟩ := deliver_eq_some h
  have hmade : o'.made body = o.made body := by
    funext m
    rw [made, made, delivered_of_history_eq hhistory]
  have hadvanced : o.made body { l with next := l.next + 1 } =
      o.made body l ++ body l.key s := by
    rw [made, delivered_advance o (List.mem_of_getElem? hl) hs]
    simp [made]
  obtain ⟨hi, rfl⟩ := List.getElem?_eq_some_iff.mp hl
  rw [madeByAll, madeByAll, hlisteners, hmade]
  -- the listener stands first in both lists, with one state more in one of them
  have hold := (List.getElem_cons_eraseIdx_perm hi).flatMap_right (o.made body)
  have hnew := (List.set_perm_cons_eraseIdx hi
    { o.listeners[i] with next := o.listeners[i].next + 1 }).flatMap_right (o.made body)
  refine hnew.trans (List.Perm.trans ?_ (hold.append_right _))
  rw [List.flatMap_cons, List.flatMap_cons, hadvanced, List.append_assoc,
    List.append_assoc]
  exact List.perm_append_comm.append_left _

theorem length_delivered {o : Observed κ σ} {l : Listener κ} (hl : l ∈ o.listeners) :
    (o.delivered l).length = l.next - l.since := by
  have hnext := (o.ordered l hl).2
  rw [delivered, List.length_drop, List.length_take, length_history]
  omega

theorem delivered_subset (o : Observed κ σ) (l : Listener κ) :
    o.delivered l ⊆ o.history.drop l.since :=
  ((List.take_sublist l.next o.history).drop l.since).subset

theorem drop_changes_history (o : Observed κ σ) :
    o.history.drop o.changes.length = [o.current] := by
  have hlast := List.drop_length_sub_one (l := o.history) (by simp [history])
  rwa [length_history, Nat.add_sub_cancel] at hlast

/-! ## What a receiver keeps -/

/-- What is kept is what was there first, every own listener waiting for a state, or a
view of the state that some own listener received last. -/
def Keeps (o : Observed κ σ) (own : κ → Prop) (view : σ → β) (first kept : β) : Prop :=
  (kept = first ∧ ∀ l ∈ o.listeners, own l.key → l.next < o.history.length) ∨
    ∃ l ∈ o.listeners, own l.key ∧ l.since < l.next ∧
      ∃ s, o.history[l.next - 1]? = some s ∧ kept = view s

variable {own : κ → Prop} {view : σ → β} {first kept : β} {o o' : Observed κ σ}

theorem keeps_start (own : κ → Prop) (view : σ → β) (first : β) (s : σ) :
    (start s : Observed κ σ).Keeps own view first first :=
  Or.inl ⟨rfl, fun l hl => by cases hl⟩

theorem Keeps.attach (h : o.Keeps own view first kept) (key : κ) :
    (o.attach key).Keeps own view first kept := by
  rcases h with ⟨hkept, hnone⟩ | ⟨l, hl, hlast⟩
  · refine Or.inl ⟨hkept, List.forall_mem_append.mpr ⟨hnone, ?_⟩⟩
    exact List.forall_mem_singleton.mpr fun _ => Nat.lt_succ_self _
  · exact Or.inr ⟨l, List.mem_append_left _ hl, hlast⟩

theorem Keeps.change (h : o.Keeps own view first kept) (s : σ) :
    (o.change s).Keeps own view first kept := by
  rcases h with ⟨hkept, hnone⟩ | ⟨l, hl, hown, hreceived, state, hstate, hkept⟩
  · refine Or.inl ⟨hkept, fun l hl hown => ?_⟩
    rw [history_change, List.length_append]
    exact Nat.lt_add_right _ (hnone l hl hown)
  · refine Or.inr ⟨l, hl, hown, hreceived, state, ?_, hkept⟩
    rw [history_change, List.getElem?_append_left (List.getElem?_eq_some_iff.mp hstate).1,
      hstate]

/-- A delivery to an own listener replaces what is kept. -/
theorem keeps_deliver {i : Nat} {key : κ} {s : σ} (h : o.deliver i = some (key, s, o'))
    (hown : own key) : o'.Keeps own view first (view s) := by
  obtain ⟨l, hl, hs, rfl, hhistory, hlisteners⟩ := deliver_eq_some h
  have hi : i < o.listeners.length := (List.getElem?_eq_some_iff.mp hl).1
  have hsince := (o.ordered l (List.mem_of_getElem? hl)).1
  refine Or.inr ⟨{ l with next := l.next + 1 }, ?_, hown, Nat.lt_succ_of_le hsince, s, ?_, rfl⟩
  · rw [hlisteners]
    exact List.mem_set hi _
  · rw [hhistory, Nat.add_sub_cancel, hs]

/-- A delivery to another listener leaves it. -/
theorem Keeps.deliver_other (h : o.Keeps own view first kept) {i : Nat} {key : κ} {s : σ}
    (hdeliver : o.deliver i = some (key, s, o')) (hother : ¬ own key) :
    o'.Keeps own view first kept := by
  obtain ⟨m, hm, -, rfl, hhistory, hlisteners⟩ := deliver_eq_some hdeliver
  rcases h with ⟨hkept, hnone⟩ | ⟨l, hl, hown, hreceived, state, hstate, hkept⟩
  · refine Or.inl ⟨hkept, ?_⟩
    rw [hlisteners, hhistory]
    exact forall_mem_set hnone fun hown => absurd hown hother
  · obtain ⟨j, hj⟩ := List.getElem?_of_mem hl
    have hij : i ≠ j := by
      rintro rfl
      obtain rfl := Option.some.inj (hm.symm.trans hj)
      exact hother hown
    have hmem : l ∈ o'.listeners := by
      refine List.mem_of_getElem? (i := j) ?_
      rw [hlisteners, List.getElem?_set_ne hij, hj]
    exact Or.inr ⟨l, hmem, hown, hreceived, state, hhistory ▸ hstate, hkept⟩

theorem Keeps.eq_first_or_view (h : o.Keeps own view first kept) :
    kept = first ∨ ∃ s ∈ o.history, kept = view s := by
  rcases h with ⟨hkept, -⟩ | ⟨l, -, -, -, s, hs, hkept⟩
  · exact Or.inl hkept
  · exact Or.inr ⟨s, List.mem_of_getElem? hs, hkept⟩

/-! ## Listeners stay -/

/-- Every listener is still there, with its key and the position it was attached at, and
the history has only grown. -/
structure Continues (o o' : Observed κ σ) : Prop where
  listeners : ∀ (i : Nat) (l : Listener κ), o.listeners[i]? = some l →
    ∃ l', o'.listeners[i]? = some l' ∧ l'.key = l.key ∧ l'.since = l.since
  changes : o.changes.length ≤ o'.changes.length

theorem Continues.refl (o : Observed κ σ) : o.Continues o :=
  ⟨fun _ l hl => ⟨l, hl, rfl, rfl⟩, Nat.le_refl _⟩

theorem Continues.trans {o'' : Observed κ σ} (h : o.Continues o') (h' : o'.Continues o'') :
    o.Continues o'' where
  listeners i l hl := by
    obtain ⟨m, hm, hkey, hsince⟩ := h.listeners i l hl
    obtain ⟨n, hn, hkey', hsince'⟩ := h'.listeners i m hm
    exact ⟨n, hn, hkey'.trans hkey, hsince'.trans hsince⟩
  changes := h.changes.trans h'.changes

theorem continues_attach (o : Observed κ σ) (key : κ) : o.Continues (o.attach key) where
  listeners i l hl := by
    have hi := (List.getElem?_eq_some_iff.mp hl).1
    exact ⟨l, (List.getElem?_append_left hi).trans hl, rfl, rfl⟩
  changes := Nat.le_refl _

theorem continues_change (o : Observed κ σ) (s : σ) : o.Continues (o.change s) where
  listeners _ l hl := ⟨l, hl, rfl, rfl⟩
  changes := by simp [Observed.change]

theorem continues_deliver {i : Nat} {key : κ} {s : σ} (h : o.deliver i = some (key, s, o')) :
    o.Continues o' := by
  obtain ⟨m, hm, -, rfl, hhistory, hlisteners⟩ := deliver_eq_some h
  refine ⟨fun j l hl => ?_, ?_⟩
  · rw [hlisteners]
    by_cases hij : i = j
    · subst hij
      obtain rfl := Option.some.inj (hm.symm.trans hl)
      exact ⟨_, List.getElem?_set_self (List.getElem?_eq_some_iff.mp hm).1, rfl, rfl⟩
    · exact ⟨l, by rw [List.getElem?_set_ne hij, hl], rfl, rfl⟩
  · have hlength := congrArg List.length hhistory
    simp only [length_history] at hlength
    omega

/-! ## No delivery is outstanding -/

def Settled (o : Observed κ σ) : Prop := ∀ l ∈ o.listeners, l.next = o.history.length

theorem getElem?_history_last (o : Observed κ σ) :
    o.history[o.history.length - 1]? = some o.current := by
  rw [← List.getLast?_eq_getElem?]
  exact List.getLast?_eq_some_getLast _

/-- Whatever the order of the deliveries was, when all have been made to its own
listeners the receiver holds a view of the current state. -/
theorem Keeps.settled (h : o.Keeps own view first kept)
    (hsettled : ∀ l ∈ o.listeners, own l.key → l.next = o.history.length)
    (hlistens : ∃ l ∈ o.listeners, own l.key) : kept = view o.current := by
  rcases h with ⟨-, hnone⟩ | ⟨l, hl, hown, -, s, hs, hkept⟩
  · obtain ⟨l, hl, hown⟩ := hlistens
    exact absurd (hsettled l hl hown) (Nat.ne_of_lt (hnone l hl hown))
  · rw [hsettled l hl hown, getElem?_history_last, Option.some.injEq] at hs
    rw [hkept, hs]

/-- The number of deliveries that are outstanding. -/
def outstanding (o : Observed κ σ) : Nat :=
  (o.listeners.map fun l => o.history.length - l.next).sum

theorem outstanding_deliver {i : Nat} {key : κ} {s : σ}
    (h : o.deliver i = some (key, s, o')) : o'.outstanding < o.outstanding := by
  obtain ⟨l, hl, hs, -, hhistory, hlisteners⟩ := deliver_eq_some h
  have hnext := (List.getElem?_eq_some_iff.mp hs).1
  rw [outstanding, outstanding, hlisteners, hhistory]
  exact sum_map_set_lt hl (by simp only; omega)

theorem deliver_eq_none {i : Nat} :
    o.deliver i = none ↔ ∀ l, o.listeners[i]? = some l → l.next = o.history.length := by
  unfold deliver
  split
  · rename_i hi
    have hordered := (o.ordered o.listeners[i] (List.getElem_mem hi)).2
    rw [List.getElem?_eq_getElem hi]
    simp only [Option.some.injEq, forall_eq']
    split
    · rename_i hnext
      simpa only [reduceCtorEq, false_iff] using Nat.ne_of_lt hnext
    · rename_i hnext
      simp only [length_history] at hnext ⊢
      simp only [true_iff]
      omega
  · rename_i hi
    rw [List.getElem?_eq_none (Nat.le_of_not_lt hi)]
    simp

theorem settled_iff : o.Settled ↔ ∀ i, o.deliver i = none := by
  simp only [deliver_eq_none]
  constructor
  · exact fun h i l hl => h l (List.mem_of_getElem? hl)
  · intro h l hl
    obtain ⟨i, hi⟩ := List.getElem?_of_mem hl
    exact h i l hi

end Observed

end Chatik.Library
