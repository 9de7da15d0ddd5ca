import Chatik.Library.Runs
import Chatik.Services.CoreDataService

/-!
# Saves side by side

Every call of `performSave(_:)` gets a new background context, which has no parent, and
queues its block and the save after it on a queue of that context.  Between the block and
the save other contexts may save, and `fetchChannels` may read in the view context at any
time; it finds the rows that the store holds then, whatever their objects have cached.
What a block changes is up to its caller, and whether a save throws belongs to Core Data;
a release build goes on after it.  The contexts are numbered by their calls.
-/

namespace Chatik

open Chatik.Library

structure PersistentContainer (Change Contents Rows Error : Type) where
  apply : Contents → Change → Contents
  fetch : Contents → Rows
  saveError : Nat → Option Error

inductive SaveStage where
  | queued
  | changed
  | ended
  deriving DecidableEq

structure CoreDataServiceImp (Change Contents Rows : Type) where
  contexts : Contexts Nat Change Contents
  stages : List SaveStage
  fetched : List Rows

inductive CoreDataEvent (Change : Type) where
  | performSave
  | block (call : Nat) (changes : List Change)
  | save (call : Nat)
  | fetchChannels

variable {Change Contents Rows Error : Type}

/-- `newBackgroundContext()` gives contexts without a parent. -/
def PersistentContainer.backgroundContexts
    (container : PersistentContainer Change Contents Rows Error) :
    CoreData Nat Change Contents Error where
  parent _ := none
  apply := container.apply
  saveError := container.saveError

namespace CoreDataServiceImp

def start (store : Contents) : CoreDataServiceImp Change Contents Rows where
  contexts := ⟨fun _ => [], store, []⟩
  stages := []
  fetched := []

/-- The end of what `performSave(_:)` queues. -/
def saveIfChanged (container : PersistentContainer Change Contents Rows Error)
    (contexts : Contexts Nat Change Contents) (context : Nat) :
    Contexts Nat Change Contents :=
  if contexts.hasChanges context then
    ((contexts.performSaveIn container.backgroundContexts 1 context).map Prod.fst).getD contexts
  else contexts

def step (container : PersistentContainer Change Contents Rows Error)
    (s : CoreDataServiceImp Change Contents Rows) :
    CoreDataEvent Change → Option (CoreDataServiceImp Change Contents Rows)
  | .performSave => some { s with stages := s.stages ++ [.queued] }
  | .block i changes =>
      if s.stages[i]? = some .queued then
        some { s with
          contexts := s.contexts.perform i changes
          stages := s.stages.set i .changed }
      else none
  | .save i =>
      if s.stages[i]? = some .changed then
        some { s with
          contexts := saveIfChanged container s.contexts i
          stages := s.stages.set i .ended }
      else none
  | .fetchChannels =>
      some { s with fetched := s.fetched ++ [container.fetch s.contexts.store] }

/-- The call whose save succeeds in the event, with all that its block changed. -/
def committed (container : PersistentContainer Change Contents Rows Error)
    (s : CoreDataServiceImp Change Contents Rows) :
    CoreDataEvent Change → Option (Nat × List Change)
  | .save i =>
      if s.contexts.hasChanges i ∧ (container.saveError i).isNone then
        some (i, s.contexts.changes i)
      else none
  | _ => none

/-- The store after the changes of a call. -/
def commit (container : PersistentContainer Change Contents Rows Error) (store : Contents)
    (call : Nat × List Change) : Contents :=
  call.2.foldl container.apply store

variable {container : PersistentContainer Change Contents Rows Error}
  {s s' : CoreDataServiceImp Change Contents Rows}

/-! ## One save -/

/-- A save that succeeds empties its context into the store. -/
theorem saveIfChanged_of_ok {contexts : Contexts Nat Change Contents} {i : Nat}
    (hok : container.saveError i = none) :
    (saveIfChanged container contexts i).changes = Function.update contexts.changes i [] ∧
      (saveIfChanged container contexts i).store =
        (contexts.changes i).foldl container.apply contexts.store := by
  have hparent : container.backgroundContexts.parent i = none := rfl
  have herror : container.backgroundContexts.saveError i = none := hok
  unfold saveIfChanged
  split
  · simp only [Contexts.performSaveIn, Contexts.save, herror, hparent, Option.map_some,
      Option.getD_some]
    exact ⟨rfl, rfl⟩
  · rename_i hchanges
    have hempty : contexts.changes i = [] := by simpa [Contexts.hasChanges] using hchanges
    rw [hempty]
    refine ⟨?_, rfl⟩
    rw [← hempty, Function.update_eq_self]

/-- A save that throws leaves every context and the store. -/
theorem saveIfChanged_of_error {contexts : Contexts Nat Change Contents} {i : Nat}
    {error : Error} (herror : container.saveError i = some error) :
    (saveIfChanged container contexts i).changes = contexts.changes ∧
      (saveIfChanged container contexts i).store = contexts.store := by
  have hthrows : container.backgroundContexts.saveError i = some error := herror
  unfold saveIfChanged
  split
  · simp only [Contexts.performSaveIn, Contexts.save, hthrows, Option.map_some,
      Option.getD_some]
    exact ⟨rfl, rfl⟩
  · exact ⟨rfl, rfl⟩

/-- A save touches no context but its own. -/
theorem changes_saveIfChanged (contexts : Contexts Nat Change Contents) {i other : Nat}
    (hother : other ≠ i) :
    (saveIfChanged container contexts i).changes other = contexts.changes other := by
  cases herror : container.saveError i with
  | none => rw [(saveIfChanged_of_ok herror).1, Function.update_of_ne hother]
  | some error => rw [(saveIfChanged_of_error herror).1]

theorem step_block {i : Nat} {changes : List Change} :
    step container s (.block i changes) = some s' ↔
      s.stages[i]? = some .queued ∧
        { s with
          contexts := s.contexts.perform i changes
          stages := s.stages.set i .changed } = s' := by
  simp only [step, Option.ite_none_right_eq_some, Option.some.injEq]

theorem step_save {i : Nat} :
    step container s (.save i) = some s' ↔
      s.stages[i]? = some .changed ∧
        { s with
          contexts := saveIfChanged container s.contexts i
          stages := s.stages.set i .ended } = s' := by
  simp only [step, Option.ite_none_right_eq_some, Option.some.injEq]

/-- Only commits change the store, each by all the changes of its call. -/
theorem store_step {e : CoreDataEvent Change} (hstep : step container s e = some s') :
    s'.contexts.store =
      (committed container s e).toList.foldl (commit container) s.contexts.store := by
  cases e with
  | performSave =>
      obtain rfl := Option.some.inj hstep
      rfl
  | fetchChannels =>
      obtain rfl := Option.some.inj hstep
      rfl
  | block i changes =>
      obtain ⟨-, rfl⟩ := step_block.mp hstep
      rfl
  | save i =>
      obtain ⟨-, rfl⟩ := step_save.mp hstep
      cases herror : container.saveError i with
      | some error => simp [committed, herror, (saveIfChanged_of_error herror).2]
      | none =>
          rw [(saveIfChanged_of_ok herror).2]
          simp only [committed, herror, Option.isNone_none, and_true]
          split
          · rfl
          · rename_i hchanges
            have hempty : s.contexts.changes i = [] := by
              simpa [Contexts.hasChanges] using hchanges
            rw [hempty]
            rfl

/-! ## Every call is one transaction -/

/-- The run so far as a sequence of transactions: what the contexts and the store hold, and
what has been fetched, in terms of the blocks and of the commits in their order. -/
structure Serialized (container : PersistentContainer Change Contents Rows Error)
    (store : Contents) (es : List (CoreDataEvent Change))
    (s : CoreDataServiceImp Change Contents Rows) (commits : List (Nat × List Change)) :
    Prop where
  store_eq : s.contexts.store = commits.foldl (commit container) store
  fetched : ∀ rows ∈ s.fetched, ∃ earlier, earlier <+: commits ∧
    rows = container.fetch (earlier.foldl (commit container) store)
  once : (commits.map Prod.fst).Nodup
  commits_ended : ∀ call ∈ commits.map Prod.fst, s.stages[call]? = some .ended
  commits_sound : ∀ call ∈ commits, .block call.1 call.2 ∈ es ∧ call.2 ≠ [] ∧
    container.saveError call.1 = none
  untouched : ∀ i, s.stages[i]? ≠ some .changed → s.stages[i]? ≠ some .ended →
    s.contexts.changes i = []
  blocks : ∀ i changes, .block i changes ∈ es →
    (s.stages[i]? = some .changed ∧ s.contexts.changes i = changes) ∨
    (s.stages[i]? = some .ended ∧
      (changes ≠ [] → container.saveError i = none → (i, changes) ∈ commits))
  changed : ∀ i, s.stages[i]? = some .changed → .block i (s.contexts.changes i) ∈ es

variable {store : Contents} {es : List (CoreDataEvent Change)}
  {commits : List (Nat × List Change)}

theorem serialized_start (container : PersistentContainer Change Contents Rows Error)
    (store : Contents) : Serialized container store [] (start store) [] where
  store_eq := rfl
  fetched rows hrows := by cases hrows
  once := List.nodup_nil
  commits_ended call hcall := by cases hcall
  commits_sound call hcall := by cases hcall
  untouched i _ _ := rfl
  blocks i changes hblock := by cases hblock
  changed i hstage := by cases hstage

theorem getElem?_append_queued {stages : List SaveStage} {i : Nat} {stage : SaveStage}
    (hqueued : stage ≠ .queued) :
    (stages ++ [.queued])[i]? = some stage ↔ stages[i]? = some stage := by
  rcases Nat.lt_or_ge i stages.length with hi | hi
  · rw [List.getElem?_append_left hi]
  · rw [List.getElem?_append_right hi, List.getElem?_eq_none hi, List.getElem?_singleton]
    split
    · simpa using hqueued.symm
    · rfl

theorem Serialized.performSave (h : Serialized container store es s commits) :
    Serialized container store (es ++ [.performSave])
      { s with stages := s.stages ++ [.queued] } commits where
  store_eq := h.store_eq
  fetched := h.fetched
  once := h.once
  commits_ended call hcall :=
    (getElem?_append_queued (by decide)).mpr (h.commits_ended call hcall)
  commits_sound call hcall := by
    obtain ⟨hblock, hrest⟩ := h.commits_sound call hcall
    exact ⟨List.mem_append_left _ hblock, hrest⟩
  untouched i hchanged hended := by
    refine h.untouched i (fun hstage => hchanged ?_) fun hstage => hended ?_
    · exact (getElem?_append_queued (by decide)).mpr hstage
    · exact (getElem?_append_queued (by decide)).mpr hstage
  blocks i changes hblock := by
    simp only [getElem?_append_queued (show SaveStage.changed ≠ .queued by decide),
      getElem?_append_queued (show SaveStage.ended ≠ .queued by decide)]
    exact h.blocks i changes (by simpa using hblock)
  changed i hstage :=
    List.mem_append_left _ (h.changed i ((getElem?_append_queued (by decide)).mp hstage))

theorem Serialized.fetchChannels (h : Serialized container store es s commits) :
    Serialized container store (es ++ [.fetchChannels])
      { s with fetched := s.fetched ++ [container.fetch s.contexts.store] } commits where
  store_eq := h.store_eq
  fetched rows hrows := by
    rcases List.mem_append.mp hrows with hbefore | hnew
    · exact h.fetched rows hbefore
    · refine ⟨commits, List.prefix_rfl, ?_⟩
      rw [List.mem_singleton.mp hnew, h.store_eq]
  once := h.once
  commits_ended := h.commits_ended
  commits_sound call hcall := by
    obtain ⟨hblock, hrest⟩ := h.commits_sound call hcall
    exact ⟨List.mem_append_left _ hblock, hrest⟩
  untouched := h.untouched
  blocks i changes hblock := h.blocks i changes (by simpa using hblock)
  changed i hstage := List.mem_append_left _ (h.changed i hstage)

/-- A block is the first to change its context. -/
theorem Serialized.block (h : Serialized container store es s commits) {i : Nat}
    {changes : List Change} (hqueued : s.stages[i]? = some .queued) :
    Serialized container store (es ++ [.block i changes])
      { s with
        contexts := s.contexts.perform i changes
        stages := s.stages.set i .changed } commits := by
  have hi : i < s.stages.length := (List.getElem?_eq_some_iff.mp hqueued).1
  have hself : (s.stages.set i .changed)[i]? = some .changed := List.getElem?_set_self hi
  have hother : ∀ j, j ≠ i → (s.stages.set i .changed)[j]? = s.stages[j]? :=
    fun j hj => List.getElem?_set_ne (Ne.symm hj)
  have hempty : s.contexts.changes i = [] :=
    h.untouched i (by rw [hqueued]; decide) (by rw [hqueued]; decide)
  have hmade : (s.contexts.perform i changes).changes i = changes := by
    rw [Contexts.changes_perform_self, hempty, List.nil_append]
  have hkept : ∀ j, j ≠ i → (s.contexts.perform i changes).changes j = s.contexts.changes j :=
    fun j hj => Function.update_of_ne hj _ _
  refine ⟨h.store_eq, h.fetched, h.once, fun call hcall => ?_, fun call hcall => ?_,
    fun j hchanged hended => ?_, fun j made hblock => ?_, fun j hstage => ?_⟩
  · have hended := h.commits_ended call hcall
    have hne : call ≠ i := by
      rintro rfl
      rw [hqueued] at hended
      cases hended
    exact (hother call hne).trans hended
  · obtain ⟨hblock, hrest⟩ := h.commits_sound call hcall
    exact ⟨List.mem_append_left _ hblock, hrest⟩
  · by_cases hj : j = i
    · exact absurd (hj ▸ hself) hchanged
    · rw [hother j hj] at hchanged hended
      exact (hkept j hj).trans (h.untouched j hchanged hended)
  · by_cases hj : j = i
    · subst hj
      left
      refine ⟨hself, hmade.trans ?_⟩
      rcases List.mem_append.mp hblock with hbefore | hnew
      · -- a call runs its block once
        rcases h.blocks j made hbefore with ⟨hstage, -⟩ | ⟨hstage, -⟩ <;>
          · rw [hqueued] at hstage
            cases hstage
      · simpa using (List.mem_singleton.mp hnew).symm
    · have hbefore : .block j made ∈ es := by simpa [hj] using hblock
      simp only [hother j hj, hkept j hj]
      exact h.blocks j made hbefore
  · by_cases hj : j = i
    · subst hj
      exact List.mem_append_right _
        (List.mem_singleton.mpr (congrArg (CoreDataEvent.block j) hmade))
    · simp only [hother j hj] at hstage
      simp only [hkept j hj]
      exact List.mem_append_left _ (h.changed j hstage)

theorem committed_save {i : Nat} :
    committed container s (.save i) =
      if s.contexts.changes i ≠ [] ∧ container.saveError i = none then
        some (i, s.contexts.changes i)
      else none := by
  simp only [committed, Contexts.hasChanges, Option.isNone_iff_eq_none]
  congr 1
  simp

/-- A save ends its call, and if it succeeds, adds the whole of it to the commits. -/
theorem Serialized.save (h : Serialized container store es s commits) {i : Nat}
    (hchanged : s.stages[i]? = some .changed)
    (hstore : (saveIfChanged container s.contexts i).store =
      (commits ++ (committed container s (.save i)).toList).foldl (commit container) store) :
    Serialized container store (es ++ [.save i])
      { s with
        contexts := saveIfChanged container s.contexts i
        stages := s.stages.set i .ended }
      (commits ++ (committed container s (.save i)).toList) := by
  have hi : i < s.stages.length := (List.getElem?_eq_some_iff.mp hchanged).1
  have hself : (s.stages.set i .ended)[i]? = some .ended := List.getElem?_set_self hi
  have hother : ∀ j, j ≠ i → (s.stages.set i .ended)[j]? = s.stages[j]? :=
    fun j hj => List.getElem?_set_ne (Ne.symm hj)
  have hnew : i ∉ commits.map Prod.fst := by
    intro hmem
    have hended := h.commits_ended i hmem
    rw [hchanged] at hended
    cases hended
  have hblock : .block i (s.contexts.changes i) ∈ es := h.changed i hchanged
  rw [committed_save] at hstore ⊢
  refine ⟨hstore, fun rows hrows => ?_, ?_, fun call hcall => ?_, fun call hcall => ?_,
    fun j hnot hended => ?_, fun j made hmade => ?_, fun j hstage => ?_⟩
  · obtain ⟨earlier, hearlier, heq⟩ := h.fetched rows hrows
    exact ⟨earlier, hearlier.trans (List.prefix_append _ _), heq⟩
  · split
    · rw [List.map_append, Option.toList_some, List.map_singleton, ← List.concat_eq_append]
      exact h.once.concat hnew
    · simpa using h.once
  · rw [List.map_append] at hcall
    rcases List.mem_append.mp hcall with hbefore | hadded
    · have hne : call ≠ i := fun heq => hnew (heq ▸ hbefore)
      exact (hother call hne).trans (h.commits_ended call hbefore)
    · split at hadded
      · obtain rfl : call = i := by simpa using hadded
        exact hself
      · cases hadded
  · rcases List.mem_append.mp hcall with hbefore | hadded
    · obtain ⟨hsaved, hrest⟩ := h.commits_sound call hbefore
      exact ⟨List.mem_append_left _ hsaved, hrest⟩
    · split at hadded
      · rename_i hsucceeds
        obtain rfl : call = (i, s.contexts.changes i) := by simpa using hadded
        exact ⟨List.mem_append_left _ hblock, hsucceeds⟩
      · cases hadded
  · by_cases hj : j = i
    · exact absurd (hj ▸ hself) hended
    · simp only [hother j hj] at hnot hended
      exact (changes_saveIfChanged _ hj).trans (h.untouched j hnot hended)
  · have hbefore : .block j made ∈ es := by simpa using hmade
    by_cases hj : j = i
    · subst hj
      right
      refine ⟨hself, fun hne hok => ?_⟩
      rcases h.blocks j made hbefore with ⟨-, rfl⟩ | ⟨hended, -⟩
      · rw [if_pos ⟨hne, hok⟩]
        exact List.mem_append_right _ List.mem_cons_self
      · rw [hchanged] at hended
        cases hended
    · simp only [hother j hj, changes_saveIfChanged _ hj]
      rcases h.blocks j made hbefore with hchangedJ | ⟨hended, hsaved⟩
      · exact Or.inl hchangedJ
      · exact Or.inr ⟨hended, fun hne hok => List.mem_append_left _ (hsaved hne hok)⟩
  · by_cases hj : j = i
    · rw [hj] at hstage
      rw [hself] at hstage
      cases hstage
    · simp only [hother j hj] at hstage
      simp only [changes_saveIfChanged _ hj]
      exact List.mem_append_left _ (h.changed j hstage)

theorem Serialized.step {e : CoreDataEvent Change}
    (h : Serialized container store es s commits)
    (hstep : CoreDataServiceImp.step container s e = some s') :
    Serialized container store (es ++ [e]) s'
      (commits ++ (committed container s e).toList) := by
  have hstore := store_step hstep
  rw [h.store_eq, ← List.foldl_append] at hstore
  cases e with
  | performSave =>
      obtain rfl := Option.some.inj hstep
      simpa [committed] using h.performSave
  | fetchChannels =>
      obtain rfl := Option.some.inj hstep
      simpa [committed] using h.fetchChannels
  | block i changes =>
      obtain ⟨hqueued, rfl⟩ := step_block.mp hstep
      simpa [committed] using h.block hqueued
  | save i =>
      obtain ⟨hchanged, rfl⟩ := step_save.mp hstep
      exact h.save hchanged hstore

/-- However calls of `performSave(_:)` and fetches go on beside each other, the store is made
of the blocks whose saves succeeded, one whole block after the other; each of them is there
once, no other is, and every fetch finds the rows between two of them. -/
theorem saves_serialized (container : PersistentContainer Change Contents Rows Error)
    (store : Contents) (es : List (CoreDataEvent Change))
    (s : CoreDataServiceImp Change Contents Rows)
    (hrun : run (step container) (start store) es = some s) :
    Serialized container store es s
      (written (step container) (committed container) (start store) es) := by
  induction es using List.reverseRecOn generalizing s with
  | nil =>
      obtain rfl := Option.some.inj hrun
      exact serialized_start container store
  | append_singleton es e ih =>
      obtain ⟨t, hbefore, hlast⟩ := run_append_eq_some.mp hrun
      rw [run_singleton] at hlast
      rw [written_append hbefore, written_singleton hlast]
      exact (ih t hbefore).step hlast

/-! ## Two calls whose blocks overlap

The changes are names of channels; the save of the last call throws.
-/

def channelNames : PersistentContainer String (List String) Nat String where
  apply names name := names ++ [name]
  fetch := List.length
  saveError call := if call = 2 then some "conflict" else none

def overlapping : List (CoreDataEvent String) :=
  [.performSave, .performSave, .performSave, .block 0 ["Lobby", "Garden"], .block 2 ["Attic"],
    .fetchChannels, .block 1 ["Kitchen"], .save 1, .fetchChannels, .save 2, .save 0,
    .fetchChannels]

theorem saves_serialized_overlapping :
    ∃ s : CoreDataServiceImp String (List String) Nat,
      run (step channelNames) (start []) overlapping = some s ∧
      s.contexts.store = ["Kitchen", "Lobby", "Garden"] ∧ s.fetched = [0, 1, 3] ∧
      Serialized channelNames [] overlapping s
        (written (step channelNames) (committed channelNames) (start []) overlapping) := by
  have hends : (run (step channelNames) (start []) overlapping).map
      (fun s => (s.contexts.store, s.fetched)) =
        some (["Kitchen", "Lobby", "Garden"], [0, 1, 3]) := by decide +kernel
  obtain ⟨s, hrun, hs⟩ := Option.map_eq_some_iff.mp hends
  obtain ⟨hstore, hfetched⟩ := Prod.mk.inj hs
  exact ⟨s, hrun, hstore, hfetched, saves_serialized channelNames [] overlapping s hrun⟩

end CoreDataServiceImp

end Chatik
