import Chatik.Library.Sequences
import Mathlib.Data.List.MinMax

/-!
# A value observed by listeners

A shared value passes through a history of states.  A listener that is attached
receives the state that is current then, and after it every later state, one by
one and each of them once; between a change and its delivery to a listener any
time may pass.  A listener is stored as two positions in the history, the
position `since` of the state that was current when it was attached and the
position `next` of the first state it has not received, so that what it has
received so far is a segment of the history.
-/

namespace Chatik.Library

structure Listener (κ : Type*) where
  key : κ
  since : Nat
  next : Nat

def Listener.reached {κ : Type*} (l : Listener κ) : Nat :=
  if l.since < l.next then l.next else 0

structure Observed (κ σ : Type*) where
  initial : σ
  changes : List σ
  listeners : List (Listener κ)
  ordered : ∀ l ∈ listeners, l.since ≤ l.next ∧ l.next ≤ changes.length + 1

namespace Observed

variable {κ σ : Type*}

def history (o : Observed κ σ) : List σ := o.initial :: o.changes

@[simp] theorem length_history (o : Observed κ σ) :
    o.history.length = o.changes.length + 1 := rfl

def start (s : σ) : Observed κ σ := ⟨s, [], [], by simp⟩

def current (o : Observed κ σ) : σ := o.history.getLast (by simp [history])

def attach (o : Observed κ σ) (key : κ) : Observed κ σ where
  initial := o.initial
  changes := o.changes
  listeners := o.listeners ++ [⟨key, o.changes.length, o.changes.length⟩]
  ordered := by
    intro l hl
    rcases List.mem_append.mp hl with hl | hl
    · exact o.ordered l hl
    · obtain rfl := List.mem_singleton.mp hl
      exact ⟨le_rfl, Nat.le_succ _⟩

def change (o : Observed κ σ) (s : σ) : Observed κ σ where
  initial := o.initial
  changes := o.changes ++ [s]
  listeners := o.listeners
  ordered := by
    intro l hl
    obtain ⟨hsince, hnext⟩ := o.ordered l hl
    refine ⟨hsince, ?_⟩
    simp only [List.length_append, List.length_singleton]
    omega

def advance (o : Observed κ σ) (i : Nat) (l : Listener κ) (hi : l ∈ o.listeners)
    (hnext : l.next < o.history.length) : Observed κ σ where
  initial := o.initial
  changes := o.changes
  listeners := o.listeners.set i { l with next := l.next + 1 }
  ordered := by
    intro m hm
    rcases List.mem_or_eq_of_mem_set hm with hm | rfl
    · exact o.ordered m hm
    · have hsince := (o.ordered l hi).1
      simp only [length_history] at hnext
      exact ⟨by simp only; omega, by simp only; omega⟩

def deliver (o : Observed κ σ) (i : Nat) : Option (κ × σ × Observed κ σ) :=
  if hi : i < o.listeners.length then
    if hnext : o.listeners[i].next < o.history.length then
      some (o.listeners[i].key, o.history[o.listeners[i].next],
        o.advance i o.listeners[i] (List.getElem_mem hi) hnext)
    else none
  else none

/-! ## What a listener has received -/

def delivered (o : Observed κ σ) (l : Listener κ) : List σ :=
  (o.history.take l.next).drop l.since

theorem deliver_eq_some {o o' : Observed κ σ} {i : Nat} {key : κ} {s : σ}
    (h : o.deliver i = some (key, s, o')) :
    ∃ l, o.listeners[i]? = some l ∧ o.history[l.next]? = some s ∧
      key = l.key ∧ o'.history = o.history ∧
      o'.listeners = o.listeners.set i { l with next := l.next + 1 } := by
  unfold deliver at h
  split at h
  · rename_i hi
    split at h
    · rename_i hnext
      simp only [Option.some.injEq, Prod.mk.injEq] at h
      obtain ⟨rfl, rfl, rfl⟩ := h
      exact ⟨o.listeners[i], List.getElem?_eq_getElem hi,
        List.getElem?_eq_getElem hnext, rfl, rfl, rfl⟩
    · cases h
  · cases h

@[simp] theorem delivered_attached (o : Observed κ σ) (key : κ) (n : Nat) :
    o.delivered ⟨key, n, n⟩ = [] := by
  simp [delivered]

@[simp] theorem delivered_attach (o : Observed κ σ) (key : κ) (l : Listener κ) :
    (o.attach key).delivered l = o.delivered l := rfl

theorem delivered_change (o : Observed κ σ) (s : σ) {l : Listener κ}
    (hl : l ∈ o.listeners) : (o.change s).delivered l = o.delivered l := by
  have hnext : l.next ≤ o.history.length := (o.ordered l hl).2
  have hhistory : (o.change s).history = o.history ++ [s] := rfl
  rw [delivered, delivered, hhistory, List.take_append_of_le_length hnext]

theorem delivered_of_history_eq {o o' : Observed κ σ}
    (h : o'.history = o.history) (l : Listener κ) :
    o'.delivered l = o.delivered l := by
  rw [delivered, delivered, h]

/-- A delivery appends one state to what the listener has received. -/
theorem delivered_advance (o : Observed κ σ) {l : Listener κ} {s : σ}
    (hl : l ∈ o.listeners) (hs : o.history[l.next]? = some s) :
    o.delivered { l with next := l.next + 1 } = o.delivered l ++ [s] := by
  obtain ⟨hlt, hs⟩ := List.getElem?_eq_some_iff.mp hs
  have hsince : l.since ≤ (o.history.take l.next).length := by
    rw [List.length_take]
    have := (o.ordered l hl).1
    omega
  rw [delivered, delivered, List.take_succ_eq_append_getElem hlt, hs,
    List.drop_append_of_le_length hsince]

/-! ## The history through the operations -/

@[simp] theorem history_change (o : Observed κ σ) (s : σ) :
    (o.change s).history = o.history ++ [s] := rfl

theorem current_of_history_eq {o o' : Observed κ σ} (h : o'.history = o.history) :
    o'.current = o.current := by
  simp only [current, h]

@[simp] theorem current_change (o : Observed κ σ) (s : σ) :
    (o.change s).current = s := by
  simp only [current, history_change, List.getLast_append_singleton]

theorem state_mem_history {o o' : Observed κ σ} {i : Nat} {key : κ} {s : σ}
    (h : o.deliver i = some (key, s, o')) : s ∈ o.history := by
  obtain ⟨l, -, hs, -, -, -⟩ := deliver_eq_some h
  exact List.mem_of_getElem? hs

/-! ## One listener through the operations -/

theorem getElem?_attach (o : Observed κ σ) (key : κ) (i : Nat) :
    (o.attach key).listeners[i]? =
      if i = o.listeners.length then
        some ⟨key, o.changes.length, o.changes.length⟩
      else o.listeners[i]? := by
  simp only [attach, List.getElem?_append]
  split
  · rename_i hlt
    rw [if_neg (by omega)]
  · rename_i hle
    split
    · simp_all
    · rw [List.getElem?_eq_none (by simp; omega),
        List.getElem?_eq_none (by omega)]

theorem getElem?_attach_self (o : Observed κ σ) (key : κ) :
    (o.attach key).listeners[o.listeners.length]? =
      some ⟨key, o.changes.length, o.changes.length⟩ := by
  rw [getElem?_attach, if_pos rfl]

theorem getElem?_deliver_self {o o' : Observed κ σ} {i : Nat} {key : κ} {s : σ}
    {l : Listener κ} (hdeliver : o.deliver i = some (key, s, o'))
    (hl : o.listeners[i]? = some l) :
    o'.listeners[i]? = some { l with next := l.next + 1 } := by
  obtain ⟨m, hm, -, -, -, hlisteners⟩ := deliver_eq_some hdeliver
  obtain rfl : m = l := Option.some.inj (hm.symm.trans hl)
  have hi : i < o.listeners.length := (List.getElem?_eq_some_iff.mp hl).1
  rw [hlisteners, List.getElem?_set_self hi]

theorem getElem?_deliver_ne {o o' : Observed κ σ} {i j : Nat} {key : κ} {s : σ}
    (hdeliver : o.deliver i = some (key, s, o')) (hij : i ≠ j) :
    o'.listeners[j]? = o.listeners[j]? := by
  obtain ⟨m, -, -, -, -, hlisteners⟩ := deliver_eq_some hdeliver
  rw [hlisteners, List.getElem?_set_ne hij]

/-! ## Other keys

Listeners are told apart by their positions; what their keys are makes no difference.
-/

def Listener.mapKey {κ' : Type*} (f : κ → κ') (l : Listener κ) : Listener κ' :=
  ⟨f l.key, l.since, l.next⟩

def mapKeys {κ' : Type*} (f : κ → κ') (o : Observed κ σ) : Observed κ' σ where
  initial := o.initial
  changes := o.changes
  listeners := o.listeners.map (Listener.mapKey f)
  ordered := by
    intro l hl
    obtain ⟨m, hm, rfl⟩ := List.mem_map.mp hl
    exact o.ordered m hm

section

variable {κ' : Type*} (f : κ → κ')

theorem mapKeys_attach (o : Observed κ σ) (key : κ) :
    (o.attach key).mapKeys f = (o.mapKeys f).attach (f key) := by
  simp [mapKeys, attach, Listener.mapKey]

theorem mapKeys_change (o : Observed κ σ) (s : σ) :
    (o.change s).mapKeys f = (o.mapKeys f).change s := rfl

theorem deliver_mapKeys {o o' : Observed κ σ} {i : Nat} {key : κ} {s : σ}
    (h : o.deliver i = some (key, s, o')) :
    (o.mapKeys f).deliver i = some (f key, s, o'.mapKeys f) := by
  unfold deliver at h
  split at h
  · rename_i hi
    split at h
    · rename_i hnext
      simp only [Option.some.injEq, Prod.mk.injEq] at h
      obtain ⟨rfl, rfl, rfl⟩ := h
      have hi' : i < (o.mapKeys f).listeners.length := by
        simpa only [mapKeys, List.length_map] using hi
      have hget : (o.mapKeys f).listeners[i] = Listener.mapKey f o.listeners[i] := by
        simp only [mapKeys, List.getElem_map]
      unfold deliver
      rw [dif_pos hi', dif_pos (hget ▸ hnext)]
      simp [mapKeys, advance, history, Listener.mapKey]
    · cases h
  · cases h

end

/-! ## Delivery in order

A listener that has stopped receives nothing more.  The guard `oldestFirst` lets a
state reach a listener only when no other that goes on is waiting for an older one.
Under it none of these lags more than one state behind any listener, and the newest
state that any listener has received, `latest`, is the one received last.
-/

def oldestFirst (o : Observed κ σ) (stopped : List Nat) (i : Nat) : Bool :=
  match o.listeners[i]? with
  | none => true
  | some l => o.listeners.zipIdx.all fun (m, j) => decide (j ∈ stopped ∨ l.next ≤ m.next)

def newest (o : Observed κ σ) : Nat :=
  (o.listeners.map Listener.reached).foldr max 0

def latest (o : Observed κ σ) : Option σ :=
  if o.newest = 0 then none else o.history[o.newest - 1]?

def InOrder (o : Observed κ σ) (stopped : List Nat) : Prop :=
  ∀ l ∈ o.listeners, ∀ (j : Nat) (m : Listener κ), o.listeners[j]? = some m →
    j ∉ stopped → l.reached ≤ m.next + 1

theorem oldestFirst_iff {o : Observed κ σ} {stopped : List Nat} {i : Nat}
    {l : Listener κ} (hl : o.listeners[i]? = some l) :
    o.oldestFirst stopped i = true ↔ ∀ (j : Nat) (m : Listener κ),
      o.listeners[j]? = some m → j ∉ stopped → l.next ≤ m.next := by
  simp only [oldestFirst, hl, List.all_eq_true, decide_eq_true_eq, Prod.forall,
    List.mem_zipIdx_iff_getElem?, or_iff_not_imp_left]
  exact forall_comm

theorem newest_le_iff {o : Observed κ σ} {n : Nat} :
    o.newest ≤ n ↔ ∀ l ∈ o.listeners, l.reached ≤ n := by
  simp [newest, foldr_max_le_iff]

theorem reached_le_newest {o : Observed κ σ} {l : Listener κ}
    (hl : l ∈ o.listeners) : l.reached ≤ o.newest :=
  newest_le_iff.mp le_rfl l hl

theorem newest_le_length (o : Observed κ σ) : o.newest ≤ o.history.length := by
  refine newest_le_iff.mpr fun l hl => ?_
  have hnext := (o.ordered l hl).2
  unfold Listener.reached
  split
  · exact hnext
  · exact Nat.zero_le _

@[simp] theorem latest_attach (o : Observed κ σ) (key : κ) :
    (o.attach key).latest = o.latest := by
  have hnewest : (o.attach key).newest = o.newest := by
    simp [newest, attach, Listener.reached]
  rw [latest, latest, hnewest]
  rfl

@[simp] theorem latest_change (o : Observed κ σ) (s : σ) :
    (o.change s).latest = o.latest := by
  have hnewest : (o.change s).newest = o.newest := rfl
  have hhistory : (o.change s).history = o.history ++ [s] := rfl
  have hlength := o.newest_le_length
  rw [latest, latest, hnewest, hhistory]
  split
  · rfl
  · rw [List.getElem?_append_left (by omega)]

theorem inOrder_start (s : σ) (stopped : List Nat) :
    (start s : Observed κ σ).InOrder stopped := by
  intro l hl
  cases hl

theorem InOrder.attach {o : Observed κ σ} {stopped : List Nat} (h : o.InOrder stopped)
    (key : κ) : (o.attach key).InOrder stopped := by
  intro l hl j m hm hj
  rw [getElem?_attach] at hm
  rcases List.mem_append.mp hl with hl | hl
  · split at hm
    · -- the new listener waits for the current state, the newest there is
      obtain rfl := Option.some.inj hm
      exact (reached_le_newest hl).trans o.newest_le_length
    · exact h l hl j m hm hj
  · obtain rfl := List.mem_singleton.mp hl
    simp [Listener.reached]

theorem InOrder.change {o : Observed κ σ} {stopped : List Nat} (h : o.InOrder stopped)
    (s : σ) : (o.change s).InOrder stopped := h

/-- A listener that stops holds nobody back. -/
theorem InOrder.stop {o : Observed κ σ} {stopped : List Nat} (h : o.InOrder stopped)
    (i : Nat) : o.InOrder (i :: stopped) := by
  intro l hl j m hm hj
  exact h l hl j m hm (List.not_mem_of_not_mem_cons hj)

theorem InOrder.deliver {o o' : Observed κ σ} {stopped : List Nat} {i : Nat} {key : κ}
    {s : σ} (h : o.InOrder stopped) (hguard : o.oldestFirst stopped i = true)
    (hdeliver : o.deliver i = some (key, s, o')) : o'.InOrder stopped := by
  obtain ⟨l, hl, -, -, -, hlisteners⟩ := deliver_eq_some hdeliver
  have hoff := (oldestFirst_iff hl).mp hguard
  have hadvanced : ({ l with next := l.next + 1 } : Listener κ).reached ≤
      l.next + 1 := by
    unfold Listener.reached
    split <;> simp
  intro a ha j b hb hj
  have hbefore : ∃ c, o.listeners[j]? = some c ∧ c.next ≤ b.next := by
    by_cases hij : i = j
    · subst hij
      rw [getElem?_deliver_self hdeliver hl] at hb
      obtain rfl := Option.some.inj hb
      exact ⟨l, hl, Nat.le_succ _⟩
    · rw [getElem?_deliver_ne hdeliver hij] at hb
      exact ⟨b, hb, Nat.le_refl _⟩
  obtain ⟨c, hc, hle⟩ := hbefore
  rw [hlisteners] at ha
  rcases List.mem_or_eq_of_mem_set ha with ha | rfl
  · exact (h a ha j c hc hj).trans (Nat.succ_le_succ hle)
  · exact hadvanced.trans (Nat.succ_le_succ ((hoff j c hc hj).trans hle))

/-- In order, the state delivered last is the newest one delivered so far. -/
theorem InOrder.latest_deliver {o o' : Observed κ σ} {stopped : List Nat} {i : Nat}
    {key : κ} {s : σ} (h : o.InOrder stopped) (hactive : i ∉ stopped)
    (hdeliver : o.deliver i = some (key, s, o')) : o'.latest = some s := by
  obtain ⟨l, hl, hs, -, hhistory, hlisteners⟩ := deliver_eq_some hdeliver
  have hmem : l ∈ o.listeners := List.mem_of_getElem? hl
  have hsince := (o.ordered l hmem).1
  have hreached : ({ l with next := l.next + 1 } : Listener κ).reached =
      l.next + 1 := by
    unfold Listener.reached
    rw [if_pos (Nat.lt_succ_of_le hsince)]
  have hnewest : o'.newest = l.next + 1 := by
    apply Nat.le_antisymm
    · refine newest_le_iff.mpr fun m hm => ?_
      rw [hlisteners] at hm
      rcases List.mem_or_eq_of_mem_set hm with hm | rfl
      · exact h m hm i l hl hactive
      · exact hreached.le
    · have hi : i < o.listeners.length := (List.getElem?_eq_some_iff.mp hl).1
      rw [← hreached]
      apply reached_le_newest
      rw [hlisteners]
      exact List.mem_set hi _
  rw [latest, hnewest, hhistory, if_neg (Nat.succ_ne_zero _)]
  exact hs

/-! ## One listener after another

A state that follows the one a listener was attached in is a change to it.
Listeners are successive when each is attached after its predecessors have
received their last state; a change then has at most one receiver.
-/

/-- The number of listeners that have received the state at a position as a
change. -/
def receivers (o : Observed κ σ) (n : Nat) : Nat :=
  o.listeners.countP fun l => decide (l.since < n ∧ n < l.next)

@[simp] theorem receivers_attach (o : Observed κ σ) (key : κ) (n : Nat) :
    (o.attach key).receivers n = o.receivers n := by
  simp only [receivers, attach, List.countP_append, List.countP_singleton]
  rw [if_neg (by simp only [decide_eq_true_eq]; omega), Nat.add_zero]

theorem receivers_deliver {o o' : Observed κ σ} {i : Nat} {key : κ} {s : σ}
    {l : Listener κ} (hdeliver : o.deliver i = some (key, s, o'))
    (hl : o.listeners[i]? = some l) (n : Nat) :
    o'.receivers n = o.receivers n + if l.since < n ∧ l.next = n then 1 else 0 := by
  obtain ⟨m, hm, -, -, -, hlisteners⟩ := deliver_eq_some hdeliver
  obtain rfl : m = l := Option.some.inj (hm.symm.trans hl)
  obtain ⟨hi, hget⟩ := List.getElem?_eq_some_iff.mp hl
  rw [receivers, receivers, hlisteners, List.countP_set hi, hget]
  by_cases hbefore : m.since < n ∧ n < m.next
  · -- the position was received before: the listener counts as it did
    have hpos : 0 < o.listeners.countP fun l => decide (l.since < n ∧ n < l.next) :=
      List.countP_pos_iff.mpr ⟨m, List.mem_of_getElem? hl, decide_eq_true hbefore⟩
    rw [if_pos (decide_eq_true hbefore),
      if_pos (decide_eq_true ⟨hbefore.1, Nat.lt_succ_of_lt hbefore.2⟩),
      if_neg (by omega)]
    omega
  · rw [if_neg (by simpa only [decide_eq_true_eq] using hbefore), Nat.sub_zero]
    congr 1
    simp only [decide_eq_true_eq]
    split <;> split <;> omega

def Successive (o : Observed κ σ) : Prop :=
  o.listeners.Pairwise fun l m => l.next ≤ m.since + 1

theorem successive_start (s : σ) : (start s : Observed κ σ).Successive :=
  List.Pairwise.nil

theorem Successive.attach {o : Observed κ σ} (h : o.Successive) (key : κ) :
    (o.attach key).Successive := by
  refine List.pairwise_append.mpr ⟨h, List.pairwise_singleton _ _, ?_⟩
  intro l hl m hm
  obtain rfl := List.mem_singleton.mp hm
  exact (o.ordered l hl).2

theorem Successive.change {o : Observed κ σ} (h : o.Successive) (s : σ) :
    (o.change s).Successive := h

/-- A delivery to the listener attached last keeps the listeners successive. -/
theorem Successive.deliver {o o' : Observed κ σ} {i : Nat} {key : κ} {s : σ}
    (h : o.Successive) (hlast : o.listeners.length ≤ i + 1)
    (hdeliver : o.deliver i = some (key, s, o')) : o'.Successive := by
  obtain ⟨l, hl, -, -, -, hlisteners⟩ := deliver_eq_some hdeliver
  rw [Successive, List.pairwise_iff_getElem] at h ⊢
  intro a b ha hb hab
  simp only [hlisteners, List.length_set] at ha hb
  obtain ⟨hi, rfl⟩ := List.getElem?_eq_some_iff.mp hl
  have hpair := h a b ha hb hab
  simp only [hlisteners, List.getElem_set]
  rw [if_neg (by omega)]
  split
  · rename_i hib
    subst hib
    exact hpair
  · exact hpair

theorem Successive.receivers_le_one {o : Observed κ σ} (h : o.Successive)
    (n : Nat) : o.receivers n ≤ 1 := by
  apply countP_le_one
  refine h.imp ?_
  intro l m hlm hl hm
  simp only [decide_eq_true_eq] at hl hm
  omega

theorem receivers_pos {o : Observed κ σ} {l : Listener κ} (hl : l ∈ o.listeners)
    {n : Nat} (hsince : l.since < n) (hnext : n < l.next) : 0 < o.receivers n :=
  List.countP_pos_iff.mpr ⟨l, hl, decide_eq_true ⟨hsince, hnext⟩⟩

end Observed

end Chatik.Library
