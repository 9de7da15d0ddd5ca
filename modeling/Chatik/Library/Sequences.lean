import Mathlib.Algebra.Order.Ring.Nat
import Mathlib.Data.List.Perm.Subperm

/-!
# Loops and sorting over sequences

`forEach` runs a closure over a sequence for its effect on an accumulator; a
closure that returns early skips its own element and nothing else.  `safe` is
the subscript that answers nil for an index out of range.  `sorted` sorts by a
strict comparator, `areInIncreasingOrder`, and keeps the order of elements that
the comparator does not separate.
-/

namespace Chatik.Library

variable {α β γ : Type*}

def forEach (xs : List α) (init : β) (body : β → α → β) : β :=
  xs.foldl body init

/-- A loop that appends what `f` makes of an element and skips the elements
on which `f` fails collects the results in order. -/
theorem forEach_collect {f : α → Option β} {body : List β → α → List β}
    (hbody : ∀ out x, body out x = out ++ (f x).toList)
    (xs : List α) (acc : List β) :
    forEach xs acc body = acc ++ xs.filterMap f := by
  unfold forEach
  induction xs generalizing acc with
  | nil => simp
  | cons x xs ih =>
      rw [List.foldl_cons, ih, hbody]
      cases hx : f x <;> simp [hx]

theorem forEach_append_if (p : α → Bool) (f : α → β) (xs : List α) (acc : List β) :
    forEach xs acc (fun out x => if p x then out ++ [f x] else out) =
      acc ++ (xs.filter p).map f := by
  unfold forEach
  induction xs generalizing acc with
  | nil => simp
  | cons x xs ih =>
      rw [List.foldl_cons, ih]
      cases hx : p x <;> simp [hx]

/-- Where `f` finds in every element what `g` says, it collects that of each. -/
theorem map_some_filterMap {f g : α → Option β} {xs : List α}
    (h : ∀ x ∈ xs, ∃ y, g x = some y ∧ f x = some y) :
    (xs.filterMap f).map some = xs.map g := by
  induction xs with
  | nil => rfl
  | cons x xs ih =>
      obtain ⟨⟨y, hg, hf⟩, hxs⟩ := List.forall_mem_cons.mp h
      rw [List.filterMap_cons_some hf, List.map_cons, List.map_cons, ih hxs, hg]

def safe (xs : List α) (index : Nat) : Option α :=
  if h : index < xs.length then some xs[index] else none

@[simp] theorem safe_eq_getElem? (xs : List α) (index : Nat) :
    safe xs index = xs[index]? := by
  unfold safe
  split
  · rename_i h
    rw [List.getElem?_eq_getElem h]
  · rename_i h
    rw [List.getElem?_eq_none (Nat.le_of_not_lt h)]

/-- What is found after an assignment was there before or has been assigned. -/
theorem getElem?_set_cases {xs : List α} {i j : Nat} {x y : α}
    (h : (xs.set i x)[j]? = some y) : (i ≠ j ∧ xs[j]? = some y) ∨ (i = j ∧ y = x) := by
  by_cases hij : i = j
  · subst hij
    have hi : i < xs.length := by
      simpa using (List.getElem?_eq_some_iff.mp h).1
    rw [List.getElem?_set_self hi, Option.some.injEq] at h
    exact Or.inr ⟨rfl, h.symm⟩
  · rw [List.getElem?_set_ne hij] at h
    exact Or.inl ⟨hij, h⟩

theorem forall_mem_set {p : α → Prop} {xs : List α} {i : Nat} {y : α}
    (h : ∀ x ∈ xs, p x) (hy : p y) : ∀ x ∈ xs.set i y, p x := by
  intro x hx
  rcases List.mem_or_eq_of_mem_set hx with hx | rfl
  · exact h x hx
  · exact hy

theorem map_set_same {f : α → β} {xs : List α} {i : Nat} {x y : α}
    (hx : xs[i]? = some x) (h : f y = f x) : (xs.set i y).map f = xs.map f := by
  obtain ⟨hi, rfl⟩ := List.getElem?_eq_some_iff.mp hx
  rw [List.map_set, h, ← List.map_set, List.set_getElem_self]

theorem sum_map_set_lt {f : α → Nat} {xs : List α} {i : Nat} {x y : α}
    (hx : xs[i]? = some x) (h : f y < f x) :
    ((xs.set i y).map f).sum < (xs.map f).sum := by
  induction xs generalizing i with
  | nil => cases hx
  | cons z zs ih =>
      cases i with
      | zero =>
          obtain rfl := Option.some.inj hx
          simp only [List.set_cons_zero, List.map_cons, List.sum_cons]
          omega
      | succ i =>
          have hlt := ih hx
          simp only [List.set_cons_succ, List.map_cons, List.sum_cons]
          omega

theorem foldr_max_le_iff [LinearOrder γ] {xs : List γ} {a b : γ} :
    xs.foldr max a ≤ b ↔ a ≤ b ∧ ∀ x ∈ xs, x ≤ b := by
  induction xs with
  | nil => simp
  | cons x xs ih =>
      rw [List.foldr_cons, max_le_iff, ih, List.forall_mem_cons]
      exact and_left_comm

/-- A predicate that one element of a list without repetitions satisfies picks it out. -/
theorem filter_eq_singleton {p : α → Bool} {xs : List α} {x : α} (hnodup : xs.Nodup)
    (hx : x ∈ xs) (hp : ∀ y ∈ xs, p y = true ↔ y = x) : xs.filter p = [x] := by
  obtain ⟨before, after, rfl⟩ := List.append_of_mem hx
  obtain ⟨-, hafter, hdisjoint⟩ := List.nodup_append.mp hnodup
  obtain ⟨hxafter, -⟩ := List.nodup_cons.mp hafter
  have hbefore : before.filter p = [] := by
    refine List.filter_eq_nil_iff.mpr fun y hy hpy => ?_
    have hyx := (hp y (List.mem_append_left _ hy)).mp hpy
    exact hdisjoint y hy x List.mem_cons_self hyx
  have hrest : after.filter p = [] := by
    refine List.filter_eq_nil_iff.mpr fun y hy hpy => ?_
    have hmem : y ∈ before ++ x :: after :=
      List.mem_append_right _ (List.mem_cons_of_mem _ hy)
    exact hxafter ((hp y hmem).mp hpy ▸ hy)
  rw [List.filter_append, List.filter_cons_of_pos ((hp x hx).mpr rfl), hbefore, hrest,
    List.nil_append]

/-- A predicate that no two elements share is satisfied at most once. -/
theorem countP_le_one {p : α → Bool} {xs : List α}
    (h : xs.Pairwise fun x y => p x = true → p y = true → False) :
    xs.countP p ≤ 1 := by
  induction xs with
  | nil => simp
  | cons x xs ih =>
      obtain ⟨hx, hxs⟩ := List.pairwise_cons.mp h
      by_cases hpx : p x = true
      · have hnone : xs.countP p = 0 :=
          List.countP_eq_zero.mpr fun y hy hpy => hx y hy hpx hpy
        rw [List.countP_cons_of_pos hpx, hnone]
      · rw [List.countP_cons_of_neg hpx]
        exact ih hxs

/-! ## Sorting by a strict comparator -/

def sorted (areInIncreasingOrder : α → α → Bool) (xs : List α) : List α :=
  xs.mergeSort fun a b => !areInIncreasingOrder b a

theorem sorted_perm (lt : α → α → Bool) (xs : List α) :
    (sorted lt xs).Perm xs :=
  List.mergeSort_perm xs _

theorem subperm_filterMap (f : α → Option β) {xs ys : List α} (h : xs.Subperm ys) :
    (xs.filterMap f).Subperm (ys.filterMap f) := by
  obtain ⟨zs, hperm, hsublist⟩ := h
  exact ⟨zs.filterMap f, hperm.filterMap f, hsublist.filterMap f⟩

theorem subperm_map (f : α → β) {xs ys : List α} (h : xs.Subperm ys) :
    (xs.map f).Subperm (ys.map f) := by
  simpa only [List.filterMap_eq_map] using subperm_filterMap (some ∘ f) h

theorem subperm_sorted (lt : α → α → Bool) {xs ys : List α} (h : xs.Subperm ys) :
    (sorted lt xs).Subperm (sorted lt ys) :=
  ((sorted_perm lt xs).subperm.trans h).trans (sorted_perm lt ys).symm.subperm

@[simp] theorem length_sorted (lt : α → α → Bool) (xs : List α) :
    (sorted lt xs).length = xs.length :=
  (sorted_perm lt xs).length_eq

/-- For a strict weak order no element of the sorted list precedes a smaller one. -/
theorem sorted_pairwise {r : α → α → Bool}
    (hasymm : ∀ a b, r a b = true → r b a = false)
    (htrans : ∀ a b c, r b a = false → r c b = false → r c a = false)
    (xs : List α) : (sorted r xs).Pairwise fun a b => r b a = false := by
  have htotal : ∀ a b, (!r b a || !r a b) = true := by
    intro a b
    cases hab : r a b with
    | false => simp
    | true => simp [hasymm a b hab]
  have htrans' : ∀ a b c, (!r b a) = true → (!r c b) = true →
      (!r c a) = true := by
    intro a b c hba hcb
    simp only [Bool.not_eq_true'] at hba hcb ⊢
    exact htrans a b c hba hcb
  refine (List.pairwise_mergeSort htrans' htotal xs).imp ?_
  intro a b hab
  simpa using hab

theorem sorted_pairwise_key [LinearOrder γ] (key : α → γ) (xs : List α) :
    (sorted (fun a b => decide (key a > key b)) xs).Pairwise
      fun a b => key b ≤ key a := by
  have hle : ∀ {a b : α}, decide (key b > key a) = false → key b ≤ key a :=
    fun h => not_lt.mp (of_decide_eq_false h)
  have hpairwise := sorted_pairwise (r := fun a b => decide (key a > key b))
    (fun a b hab => decide_eq_false (not_lt_of_gt (of_decide_eq_true hab)))
    (fun a b c hba hcb =>
      decide_eq_false (not_lt.mpr (le_trans (hle hcb) (hle hba))))
    xs
  exact hpairwise.imp hle

/-- A list sorted by distinct keys is in the order of a relation exactly if the
relation follows the keys. -/
theorem pairwise_iff_of_sorted [LinearOrder γ] {key : α → γ} {r : α → α → Prop}
    {xs : List α} (hsorted : xs.Pairwise fun a b => key b ≤ key a)
    (hdistinct : xs.Pairwise fun a b => key a ≠ key b) :
    xs.Pairwise r ↔ ∀ a ∈ xs, ∀ b ∈ xs, key b < key a → r a b := by
  induction xs with
  | nil => simp
  | cons x xs ih =>
      obtain ⟨hx, hxs⟩ := List.pairwise_cons.mp hsorted
      obtain ⟨hne, hnes⟩ := List.pairwise_cons.mp hdistinct
      rw [List.pairwise_cons, ih hxs hnes]
      constructor
      · rintro ⟨hfirst, hrest⟩ a ha b hb hlt
        rcases List.mem_cons.mp ha with rfl | hlater
        · rcases List.mem_cons.mp hb with rfl | hafter
          · exact absurd hlt (lt_irrefl _)
          · exact hfirst b hafter
        · rcases List.mem_cons.mp hb with rfl | hafter
          · exact absurd hlt (not_lt.mpr (hx a hlater))
          · exact hrest a hlater b hafter hlt
      · intro hall
        refine ⟨fun b hb => ?_, fun a ha b hb => hall a ?_ b ?_⟩
        · have hlt := lt_of_le_of_ne (hx b hb) (Ne.symm (hne b hb))
          exact hall x List.mem_cons_self b (List.mem_cons_of_mem x hb) hlt
        · exact List.mem_cons_of_mem x ha
        · exact List.mem_cons_of_mem x hb

/-! ## Sorting what was collected from sources

What `f` makes of the elements, sorted, with the element that each came from.
-/

def sortedWithSources (areInIncreasingOrder : β → β → Bool) (f : α → Option β)
    (xs : List α) : List (α × β) :=
  sorted (fun a b => areInIncreasingOrder a.2 b.2)
    (xs.filterMap fun x => (f x).map (x, ·))

theorem mem_sortedWithSources {lt : β → β → Bool} {f : α → Option β} {xs : List α}
    {x : α} {y : β} : (x, y) ∈ sortedWithSources lt f xs ↔ x ∈ xs ∧ f x = some y := by
  rw [sortedWithSources, (sorted_perm _ _).mem_iff, List.mem_filterMap]
  constructor
  · rintro ⟨source, hsource, hmap⟩
    obtain ⟨made, hmade, heq⟩ := Option.map_eq_some_iff.mp hmap
    obtain ⟨rfl, rfl⟩ := Prod.mk.inj heq
    exact ⟨hsource, hmade⟩
  · rintro ⟨hx, hy⟩
    exact ⟨x, hx, by rw [hy]; rfl⟩

/-- The sources do not change the order. -/
theorem map_snd_sortedWithSources (lt : β → β → Bool) (f : α → Option β) (xs : List α) :
    (sortedWithSources lt f xs).map Prod.snd = sorted lt (xs.filterMap f) := by
  have hmap : (xs.filterMap fun x => (f x).map (x, ·)).map Prod.snd = xs.filterMap f := by
    rw [List.map_filterMap]
    refine List.filterMap_congr fun x _ => ?_
    cases f x <;> rfl
  rw [← hmap]
  exact List.map_mergeSort (fun _ _ _ _ => rfl)

theorem map_fst_sortedWithSources_perm (lt : β → β → Bool) {f : α → Option β}
    {xs : List α} (h : ∀ x ∈ xs, ∃ y, f x = some y) :
    ((sortedWithSources lt f xs).map Prod.fst).Perm xs := by
  have hmap : (xs.filterMap fun x => (f x).map (x, ·)).map Prod.fst = xs := by
    rw [List.map_filterMap]
    refine (List.filterMap_congr fun x hx => ?_).trans List.filterMap_some
    obtain ⟨y, hy⟩ := h x hx
    rw [hy]
    rfl
  exact ((sorted_perm _ _).map Prod.fst).trans (List.Perm.of_eq hmap)

end Chatik.Library
