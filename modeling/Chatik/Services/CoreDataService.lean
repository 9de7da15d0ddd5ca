import Chatik.Library.ParentChain
import Mathlib.Logic.Function.Basic

/-!
# The Core Data service

`CoreDataServiceImp`.  Managed object contexts are objects with an identity; the
parent of a context never changes, its pending changes do.  A save that succeeds
moves the pending changes of the context behind those of its parent or, for a
context without a parent, into the store; a save that throws moves nothing.  The
calls of `save()` are logged.  What `save()` does and which calls throw belongs to
Core Data and is a parameter.
-/

namespace Chatik

open Chatik.Library

structure CoreData (Context Change Contents Error : Type) where
  parent : Context → Option Context
  apply : Contents → Change → Contents
  saveError : Context → Option Error

structure Contexts (Context Change Contents : Type) where
  changes : Context → List Change
  store : Contents
  saved : List Context

namespace Contexts

variable {Context Change Contents Error : Type} [DecidableEq Context]

def hasChanges (s : Contexts Context Change Contents) (context : Context) : Bool :=
  !(s.changes context).isEmpty

/-- A call of `save()` on the context. -/
def logged (s : Contexts Context Change Contents) (context : Context) :
    Contexts Context Change Contents :=
  { s with saved := s.saved ++ [context] }

/-- The pending changes leave the context. -/
def move (data : CoreData Context Change Contents Error)
    (s : Contexts Context Change Contents) (context : Context) :
    Contexts Context Change Contents :=
  let emptied := Function.update s.changes context []
  match data.parent context with
  | some parent => { s with
      changes := Function.update emptied parent (emptied parent ++ s.changes context) }
  | none => { s with
      changes := emptied, store := (s.changes context).foldl data.apply s.store }

def save (data : CoreData Context Change Contents Error)
    (s : Contexts Context Change Contents) (context : Context) :
    Contexts Context Change Contents × Except Error Unit :=
  let s := s.logged context
  match data.saveError context with
  | some error => (s, .error error)
  | none => (s.move data context, .ok ())

/-- `performSave(in:)`; `none` means that the fuel has run out. -/
def performSaveIn (data : CoreData Context Change Contents Error) :
    Nat → Contexts Context Change Contents → Context →
      Option (Contexts Context Change Contents × Except Error Unit)
  | 0, _, _ => none
  | fuel + 1, s, context =>
      match s.save data context with
      | (s, .error error) => some (s, .error error)
      | (s, .ok ()) =>
          match data.parent context with
          | none => some (s, .ok ())
          | some parent => performSaveIn data fuel s parent

/-- The context after a block that makes the changes in it. -/
def perform (s : Contexts Context Change Contents) (context : Context)
    (block : List Change) : Contexts Context Change Contents :=
  { s with changes := Function.update s.changes context (s.changes context ++ block) }

/-- `performSave(_:)`; a release build goes on after the assertion on the failing
path. -/
def performSave (data : CoreData Context Change Contents Error) (fuel : Nat)
    (s : Contexts Context Change Contents) (context : Context) (block : List Change) :
    Option (Contexts Context Change Contents) :=
  let s := s.perform context block
  if s.hasChanges context then
    (s.performSaveIn data fuel context).map Prod.fst
  else some s

/-! ## The changes on their way up -/

/-- What is pending in the contexts of a chain, what is pending above first. -/
def pending (s : Contexts Context Change Contents) : List Context → List Change
  | [] => []
  | context :: above => s.pending above ++ s.changes context

omit [DecidableEq Context] in
theorem pending_congr {s s' : Contexts Context Change Contents} {chain : List Context}
    (h : ∀ context ∈ chain, s'.changes context = s.changes context) :
    s'.pending chain = s.pending chain := by
  induction chain with
  | nil => rfl
  | cons context above ih =>
      obtain ⟨hcontext, habove⟩ := List.forall_mem_cons.mp h
      rw [pending, pending, ih habove, hcontext]

omit [DecidableEq Context] in
theorem pending_of_empty {s : Contexts Context Change Contents} {above : List Context}
    (h : ∀ context ∈ above, s.changes context = []) : s.pending above = [] := by
  induction above with
  | nil => rfl
  | cons context above ih =>
      obtain ⟨hcontext, habove⟩ := List.forall_mem_cons.mp h
      rw [pending, ih habove, hcontext]
      rfl

omit [DecidableEq Context] in
@[simp] theorem pending_logged (s : Contexts Context Change Contents)
    (context : Context) (chain : List Context) :
    (s.logged context).pending chain = s.pending chain :=
  pending_congr fun _ _ => rfl

variable {data : CoreData Context Change Contents Error}
  {s : Contexts Context Change Contents}

/-- A save of the lowest context keeps what is pending in the chain. -/
theorem pending_move {context parent : Context} {above : List Context}
    (h : ParentChain data.parent (context :: parent :: above)) :
    (s.move data context).pending (parent :: above) =
      s.pending (context :: parent :: above) := by
  have hnodup := h.nodup
  simp only [List.nodup_cons, List.mem_cons, not_or] at hnodup
  obtain ⟨⟨hne, hcontext⟩, hparent, -⟩ := hnodup
  have habove : (s.move data context).pending above = s.pending above := by
    refine pending_congr fun other hother => ?_
    have hother_context : other ≠ context := ne_of_mem_of_not_mem hother hcontext
    have hother_parent : other ≠ parent := ne_of_mem_of_not_mem hother hparent
    simp only [move, h.1, Function.update_of_ne hother_parent,
      Function.update_of_ne hother_context]
  have hmoved : (s.move data context).changes parent =
      s.changes parent ++ s.changes context := by
    simp only [move, h.1, Function.update_self, Function.update_of_ne (Ne.symm hne)]
  rw [pending, pending, pending, habove, hmoved, List.append_assoc]

theorem store_move {context parent : Context} (h : data.parent context = some parent) :
    (s.move data context).store = s.store := by
  simp only [move, h]

theorem store_move_root {root : Context} (h : data.parent root = none) :
    (s.move data root).store = (s.changes root).foldl data.apply s.store := by
  simp only [move, h]

theorem saved_move (context : Context) : (s.move data context).saved = s.saved := by
  unfold move
  split <;> rfl

/-! ## All or nothing -/

/-- What a save of a whole chain does.  The contexts are saved in the order of the
chain; the store gets all that was pending in it, or the save stops at the first
context that throws and the store gets nothing. -/
structure AllOrNothing (data : CoreData Context Change Contents Error)
    (chain : List Context) (s s' : Contexts Context Change Contents)
    (result : Except Error Unit) : Prop where
  savedOnce : ∃ called, s'.saved = s.saved ++ called ∧ called <+: chain ∧ called.Nodup
  complete : (∀ context ∈ chain, data.saveError context = none) →
    result = .ok () ∧ s'.saved = s.saved ++ chain ∧
      s'.store = (s.pending chain).foldl data.apply s.store
  failed : (∃ context ∈ chain, data.saveError context ≠ none) →
    ∃ below context above error, chain = below ++ context :: above ∧
      (∀ child ∈ below, data.saveError child = none) ∧
      data.saveError context = some error ∧ result = .error error ∧
      s'.saved = s.saved ++ (below ++ [context]) ∧ s'.store = s.store

omit [DecidableEq Context] in
theorem allOrNothing_throws {context : Context} {error : Error}
    (herror : data.saveError context = some error) (above : List Context) :
    AllOrNothing data (context :: above) s (s.logged context) (.error error) where
  savedOnce := ⟨[context], rfl, by simp, List.nodup_singleton _⟩
  complete h := by
    have hnone := h context List.mem_cons_self
    rw [herror] at hnone
    cases hnone
  failed _ := ⟨[], context, above, error, rfl, by simp, herror, rfl, rfl, rfl⟩

theorem allOrNothing_root {root : Context} (hroot : data.parent root = none)
    (hok : data.saveError root = none) :
    AllOrNothing data [root] s
      ((s.logged root).move data root)
      (.ok ()) where
  savedOnce := ⟨[root], saved_move root, List.prefix_rfl, List.nodup_singleton _⟩
  complete _ := by
    refine ⟨rfl, saved_move root, ?_⟩
    rw [store_move_root hroot]
    rfl
  failed := by
    rintro ⟨context, hcontext, herror⟩
    rw [List.mem_singleton.mp hcontext] at herror
    exact absurd hok herror

/-- One level: the child's changes are with the parent, where the rest of the save
finds them. -/
theorem AllOrNothing.cons {child parent : Context} {above : List Context}
    {s' : Contexts Context Change Contents} {result : Except Error Unit}
    (hchain : ParentChain data.parent (child :: parent :: above))
    (hok : data.saveError child = none)
    (h : AllOrNothing data (parent :: above)
      ((s.logged child).move data child)
      s' result) :
    AllOrNothing data (child :: parent :: above) s s' result where
  savedOnce := by
    obtain ⟨called, hsaved, hprefix, -⟩ := h.savedOnce
    rw [saved_move, logged, List.append_assoc] at hsaved
    have hcalled : child :: called <+: child :: parent :: above :=
      List.cons_prefix_cons.mpr ⟨rfl, hprefix⟩
    exact ⟨child :: called, hsaved, hcalled, hchain.nodup.sublist hcalled.sublist⟩
  complete hall := by
    obtain ⟨-, habove⟩ := List.forall_mem_cons.mp hall
    obtain ⟨hresult, hsaved, hstore⟩ := h.complete habove
    rw [saved_move, logged, List.append_assoc] at hsaved
    rw [pending_move hchain, pending_logged, store_move hchain.1] at hstore
    exact ⟨hresult, hsaved, hstore⟩
  failed hsome := by
    obtain ⟨context, hcontext, herror⟩ := hsome
    have habove : context ∈ parent :: above := by
      rcases List.mem_cons.mp hcontext with rfl | hcontext
      · exact absurd hok herror
      · exact hcontext
    obtain ⟨below, context, above', error, hsplit, hbelow, herror, hresult, hsaved,
      hstore⟩ := h.failed ⟨context, habove, herror⟩
    rw [saved_move, logged, List.append_assoc] at hsaved
    rw [store_move hchain.1] at hstore
    refine ⟨child :: below, context, above', error, ?_, ?_, herror, hresult, hsaved,
      hstore⟩
    · rw [hsplit, List.cons_append]
    · exact List.forall_mem_cons.mpr ⟨hok, hbelow⟩

/-- With fuel for each context of its chain a save ends, and is all or nothing. -/
theorem exists_performSaveIn {context : Context} {above : List Context}
    (hchain : ParentChain data.parent (context :: above))
    (s : Contexts Context Change Contents) :
    ∃ s' result, (∀ fuel, (context :: above).length ≤ fuel →
        performSaveIn data fuel s context = some (s', result)) ∧
      AllOrNothing data (context :: above) s s' result := by
  induction above generalizing context s with
  | nil =>
      cases herror : data.saveError context with
      | some error =>
          refine ⟨_, _, fun fuel hfuel => ?_, allOrNothing_throws herror []⟩
          obtain ⟨fuel, rfl⟩ := Nat.exists_eq_add_of_le' hfuel
          rw [List.length_cons, ← Nat.add_assoc]
          simp only [performSaveIn, save, herror]
      | none =>
          refine ⟨_, _, fun fuel hfuel => ?_, allOrNothing_root hchain herror⟩
          obtain ⟨fuel, rfl⟩ := Nat.exists_eq_add_of_le' hfuel
          have hroot : data.parent context = none := hchain
          rw [List.length_cons, ← Nat.add_assoc]
          simp only [performSaveIn, save, herror, hroot]
  | cons parent above ih =>
      cases herror : data.saveError context with
      | some error =>
          refine ⟨_, _, fun fuel hfuel => ?_, allOrNothing_throws herror _⟩
          obtain ⟨fuel, rfl⟩ := Nat.exists_eq_add_of_le' hfuel
          rw [List.length_cons, ← Nat.add_assoc]
          simp only [performSaveIn, save, herror]
      | none =>
          obtain ⟨s', result, hsave, hrest⟩ := ih hchain.2
            ((s.logged context).move data context)
          refine ⟨s', result, fun fuel hfuel => ?_, hrest.cons hchain herror⟩
          obtain ⟨fuel, rfl⟩ := Nat.exists_eq_add_of_le' hfuel
          rw [List.length_cons, ← Nat.add_assoc]
          simp only [performSaveIn, save, herror, hchain.1]
          exact hsave _ (Nat.le_add_left _ _)

@[simp] theorem changes_perform_self (s : Contexts Context Change Contents)
    (context : Context) (block : List Change) :
    (s.perform context block).changes context = s.changes context ++ block :=
  Function.update_self ..

/-- Above a context that is new, and in it, there is nothing but what the block did. -/
theorem pending_perform {context : Context} {above : List Context}
    (hnot : context ∉ above)
    (hnew : ∀ other ∈ context :: above, s.changes other = []) (block : List Change) :
    (s.perform context block).pending (context :: above) = block := by
  obtain ⟨hcontext, habove⟩ := List.forall_mem_cons.mp hnew
  have hempty : (s.perform context block).pending above = [] := by
    refine pending_of_empty fun other hother => ?_
    have hne : other ≠ context := ne_of_mem_of_not_mem hother hnot
    exact (Function.update_of_ne hne _ _).trans (habove other hother)
  rw [pending, hempty, changes_perform_self, hcontext, List.nil_append, List.nil_append]

/-- Whatever a block changes and whichever saves throw, `performSave(in:)` ends and
is all or nothing; the changes that a block makes in a new context are then the
changes that the store gets. -/
theorem performSaveIn_allOrNothing (data : CoreData Context Change Contents Error)
    (s : Contexts Context Change Contents) (context : Context) (above : List Context)
    (block : List Change) (hchain : ParentChain data.parent (context :: above)) :
    ∃ s' result, (∀ fuel, (context :: above).length ≤ fuel →
        performSaveIn data fuel (s.perform context block) context = some (s', result)) ∧
      AllOrNothing data (context :: above) (s.perform context block) s' result ∧
      ((∀ other ∈ context :: above, s.changes other = []) →
        (∀ other ∈ context :: above, data.saveError other = none) →
        s'.store = block.foldl data.apply s.store) := by
  obtain ⟨s', result, hsave, hall⟩ := exists_performSaveIn hchain (s.perform context block)
  refine ⟨s', result, hsave, hall, fun hnew hok => ?_⟩
  obtain ⟨-, -, hstore⟩ := hall.complete hok
  rwa [pending_perform (List.nodup_cons.mp hchain.nodup).1 hnew] at hstore

/-- `performSave(_:)` in a new context leaves the store with all that its block did
or as it was, an error or not. -/
theorem exists_performSave {context : Context} {above : List Context}
    (hchain : ParentChain data.parent (context :: above))
    (hnew : ∀ other ∈ context :: above, s.changes other = []) (block : List Change)
    {fuel : Nat} (hfuel : (context :: above).length ≤ fuel) :
    ∃ s', performSave data fuel s context block = some s' ∧
      ((∀ other ∈ context :: above, data.saveError other = none) →
        s'.store = block.foldl data.apply s.store) ∧
      ((∃ other ∈ context :: above, data.saveError other ≠ none) →
        s'.store = s.store) := by
  obtain ⟨s', result, hsave, hall⟩ := exists_performSaveIn hchain (s.perform context block)
  simp only [performSave]
  split
  · rw [hsave fuel hfuel]
    refine ⟨s', rfl, fun hok => ?_, fun hthrows => ?_⟩
    · obtain ⟨-, -, hstore⟩ := hall.complete hok
      rwa [pending_perform (List.nodup_cons.mp hchain.nodup).1 hnew] at hstore
    · obtain ⟨_, _, _, _, -, -, -, -, -, hstore⟩ := hall.failed hthrows
      exact hstore
  · rename_i hchanges
    -- the block has changed nothing
    have hblock : block = [] := by
      have hcontext := hnew context List.mem_cons_self
      simpa [hasChanges, hcontext] using hchanges
    subst hblock
    exact ⟨_, rfl, fun _ => rfl, fun _ => rfl⟩

end Contexts

/-! ## A chain of three contexts

The contexts are numbered from the root.  The middle one throws, or none does.
-/

def numberedContexts (throwing : Option Nat) : CoreData Nat Nat (List Nat) String where
  parent context := if context = 0 then none else some (context - 1)
  apply contents change := contents ++ [change]
  saveError context := if throwing = some context then some "conflict" else none

def unchangedContexts : Contexts Nat Nat (List Nat) where
  changes _ := []
  store := [7]
  saved := []

theorem performSaveIn_allOrNothing_numbered :
    (∃ s' result, (∀ fuel, [2, 1, 0].length ≤ fuel →
        Contexts.performSaveIn (numberedContexts (some 1)) fuel
          (unchangedContexts.perform 2 [8, 9]) 2 = some (s', result)) ∧
      Contexts.AllOrNothing (numberedContexts (some 1)) [2, 1, 0]
        (unchangedContexts.perform 2 [8, 9]) s' result) ∧
    ∃ s' result, (∀ fuel, [2, 1, 0].length ≤ fuel →
        Contexts.performSaveIn (numberedContexts none) fuel
          (unchangedContexts.perform 2 [8, 9]) 2 = some (s', result)) ∧
      Contexts.AllOrNothing (numberedContexts none) [2, 1, 0]
        (unchangedContexts.perform 2 [8, 9]) s' result ∧
      s'.store = [7, 8, 9] := by
  constructor
  · obtain ⟨s', result, hsave, hall, -⟩ := Contexts.performSaveIn_allOrNothing
      (numberedContexts (some 1)) unchangedContexts 2 [1, 0] [8, 9] ⟨rfl, rfl, rfl⟩
    exact ⟨s', result, hsave, hall⟩
  · obtain ⟨s', result, hsave, hall, hstore⟩ := Contexts.performSaveIn_allOrNothing
      (numberedContexts none) unchangedContexts 2 [1, 0] [8, 9] ⟨rfl, rfl, rfl⟩
    exact ⟨s', result, hsave, hall, hstore (fun _ _ => rfl) (fun _ _ => rfl)⟩

end Chatik
