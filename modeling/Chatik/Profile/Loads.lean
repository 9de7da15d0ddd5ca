import Chatik.Profile.ProfileApp

/-!
# Loading the profile while it is being saved

`GCDManager.load` queues a block on the main queue that reads the profile and
passes it to the completion.  An `OperationLoader` reads it in `main()` and keeps
it in `userProfile`; other threads may cancel it.  Any number of loads go on
beside the saves of the screen.  A read falls before or after a write, and since
a save writes the whole file at once, a load is given the profile of one save.
-/

namespace Chatik

open Chatik.Library

structure OperationLoader (Image : Type) extends AsyncOperation where
  userProfile : Option (UserProfile Image)

inductive LoadProcess (Image : Type) where
  | gcdQueued
  | gcdCompleted (userProfile : Option (UserProfile Image))
  | operation (loader : OperationLoader Image)

structure ProfileStore (Image Data : Type) where
  app : ProfileApp Image Data
  loads : List (LoadProcess Image)

inductive StoreEvent (Image : Type) where
  | app (e : AppEvent Image)
  | load
  | addLoader
  | mainQueue (load : Nat)
  | loader (load : Nat) (e : OperationEvent)

section

variable {Image Data : Type}

namespace OperationLoader

def new : OperationLoader Image := ⟨.new, none⟩

/-- The work of `main()` is the call of `loadUserProfile`; the queue starts the operation
when it is ready. -/
def step (device : Device Image Data) (files : Files Data) (loader : OperationLoader Image)
    (e : OperationEvent) : Option (OperationLoader Image) :=
  if e = .start ∧ loader.isReady = false then none
  else do
    let operation ← loader.toAsyncOperation.step e
    some {
      toAsyncOperation := operation
      userProfile :=
        if e = .work then MainFileManager.loadUserProfile device files
        else loader.userProfile }

theorem step_eq_some {device : Device Image Data} {files : Files Data}
    {loader loader' : OperationLoader Image} {e : OperationEvent} :
    loader.step device files e = some loader' ↔
      ¬ (e = .start ∧ loader.isReady = false) ∧ loader.enabled e = true ∧
        ⟨loader.effect e, if e = .work then MainFileManager.loadUserProfile device files
          else loader.userProfile⟩ = loader' := by
  simp only [step, Option.ite_none_left_eq_some, Option.bind_eq_bind,
    Option.bind_eq_some_iff, AsyncOperation.step_eq_some, Option.some.injEq, and_congr_right_iff]
  intro
  constructor
  · rintro ⟨operation, ⟨henabled, rfl⟩, rfl⟩
    exact ⟨henabled, rfl⟩
  · rintro ⟨henabled, rfl⟩
    exact ⟨_, ⟨henabled, rfl⟩, rfl⟩

end OperationLoader

namespace LoadProcess

def mainQueue (device : Device Image Data) (files : Files Data) :
    LoadProcess Image → Option (LoadProcess Image)
  | .gcdQueued => some (.gcdCompleted (MainFileManager.loadUserProfile device files))
  | _ => none

def loader (device : Device Image Data) (files : Files Data) (e : OperationEvent) :
    LoadProcess Image → Option (LoadProcess Image)
  | .operation loader => (loader.step device files e).map .operation
  | _ => none

/-- The profile that the load has been given. -/
def held : LoadProcess Image → Option (UserProfile Image)
  | .gcdQueued => none
  | .gcdCompleted userProfile => userProfile
  | .operation loader => loader.userProfile

/-- The load has not read the file, but may still do so. -/
def mayRead : LoadProcess Image → Bool
  | .gcdQueued => true
  | .gcdCompleted _ => false
  | .operation loader =>
      decide (loader.point = .idle ∨ loader.point = .called ∨ loader.point = .inMain)

def isCancelled : LoadProcess Image → Bool
  | .operation loader => loader.isCancelled
  | _ => false

/-- What the steps that do not read do to a load. -/
structure Keeps (load load' : LoadProcess Image) : Prop where
  held : load'.held = load.held
  mayRead : load'.mayRead = true → load.mayRead = true
  uncancelled : load'.isCancelled = false → load.isCancelled = false
  stillMayRead : load'.isCancelled = false → load.mayRead = true → load'.mayRead = true

theorem Keeps.refl (load : LoadProcess Image) : load.Keeps load := ⟨rfl, id, id, fun _ => id⟩

/-- A read gives the load what the file holds, for good. -/
theorem mainQueue_spec {device : Device Image Data} {files : Files Data}
    {load load' : LoadProcess Image} (h : load.mainQueue device files = some load') :
    load.mayRead = true ∧ load'.mayRead = false ∧
      load'.held = MainFileManager.loadUserProfile device files := by
  cases load with
  | gcdQueued =>
      cases h
      exact ⟨rfl, rfl, rfl⟩
  | gcdCompleted userProfile => cases h
  | operation loader => cases h

theorem loader_work {device : Device Image Data} {files : Files Data}
    {load load' : LoadProcess Image} (h : load.loader device files .work = some load') :
    load.mayRead = true ∧ load'.mayRead = false ∧
      load'.held = MainFileManager.loadUserProfile device files := by
  cases load with
  | gcdQueued => cases h
  | gcdCompleted userProfile => cases h
  | operation loader =>
      obtain ⟨after, hstep, rfl⟩ := Option.map_eq_some_iff.mp h
      obtain ⟨-, henabled, rfl⟩ := OperationLoader.step_eq_some.mp hstep
      have hpoint : loader.point = .inMain := of_decide_eq_true henabled
      exact ⟨by simp [mayRead, hpoint], by simp [mayRead, AsyncOperation.effect], rfl⟩

theorem loader_keeps {device : Device Image Data} {files : Files Data} {e : OperationEvent}
    {load load' : LoadProcess Image} (he : e ≠ .work)
    (h : load.loader device files e = some load') : load.Keeps load' := by
  cases load with
  | gcdQueued => cases h
  | gcdCompleted userProfile => cases h
  | operation loader =>
      obtain ⟨after, hstep, rfl⟩ := Option.map_eq_some_iff.mp h
      obtain ⟨-, henabled, rfl⟩ := OperationLoader.step_eq_some.mp hstep
      have hheld : held (.operation ⟨loader.effect e,
          if e = .work then MainFileManager.loadUserProfile device files
          else loader.userProfile⟩) = loader.userProfile := if_neg he
      cases e with
      | work => exact absurd rfl he
      | start =>
          have hidle : loader.point = .idle := of_decide_eq_true henabled
          exact ⟨hheld, fun _ => by simp [mayRead, hidle], id,
            fun _ _ => by simp [mayRead, AsyncOperation.effect]⟩
      | testCancelled =>
          -- `main()` is skipped only when the operation is cancelled
          have hcalled : loader.point = .called := of_decide_eq_true henabled
          refine ⟨hheld, fun _ => by simp [mayRead, hcalled], id, fun hcancelled _ => ?_⟩
          have hnot : loader.isCancelled = false := hcancelled
          simp [mayRead, AsyncOperation.effect, hnot]
      | mainFinish =>
          have hworked : loader.point = .worked := of_decide_eq_true henabled
          exact ⟨hheld, fun h => by simp [mayRead, AsyncOperation.effect] at h, id,
            fun _ h => by simp [mayRead, hworked] at h⟩
      | startExecute =>
          have hleft : loader.point = .leftMain := of_decide_eq_true henabled
          exact ⟨hheld, fun h => by simp [mayRead, AsyncOperation.effect] at h, id,
            fun _ h => by simp [mayRead, hleft] at h⟩
      | startFinish =>
          have hskipped : loader.point = .skipped := of_decide_eq_true henabled
          exact ⟨hheld, fun h => by simp [mayRead, AsyncOperation.effect] at h, id,
            fun _ h => by simp [mayRead, hskipped] at h⟩
      | cancelSuper =>
          refine ⟨hheld, id, fun hcancelled => ?_, fun _ => id⟩
          exact (Bool.or_eq_false_iff.mp hcancelled).1
      | cancelFinish => exact ⟨hheld, id, id, fun _ => id⟩

end LoadProcess

namespace ProfileStore

def start (device : Device Image Data) (files : Files Data) : ProfileStore Image Data :=
  ⟨.start device files, []⟩

def step [Unicode] (wiring : Wiring) (device : Device Image Data)
    (s : ProfileStore Image Data) : StoreEvent Image → Option (ProfileStore Image Data)
  | .app e => (s.app.step wiring device e).map fun app => { s with app := app }
  | .load => some { s with loads := s.loads ++ [.gcdQueued] }
  | .addLoader => some { s with loads := s.loads ++ [.operation .new] }
  | .mainQueue j => do
      let load ← s.loads[j]?
      let load' ← load.mainQueue device s.app.files
      some { s with loads := s.loads.set j load' }
  | .loader j e => do
      let load ← s.loads[j]?
      let load' ← load.loader device s.app.files e
      some { s with loads := s.loads.set j load' }

/-- The profile that a save writes to the file in the event. -/
def saved (device : Device Image Data) (s : ProfileStore Image Data) :
    StoreEvent Image → Option (UserProfile Image)
  | .app (.visible (.saveUserProfile i created)) =>
      (s.app.saves[i]?.map Save.profile).filter (MainFileManager.writes device created)
  | _ => none

end ProfileStore

/-- The load reads the file in the event. -/
def StoreEvent.reads (j : Nat) : StoreEvent Image → Bool
  | .mainQueue i => decide (i = j)
  | .loader i e => decide (i = j ∧ e = .work)
  | _ => false

namespace ProfileStore

variable [Unicode] {wiring : Wiring} {device : Device Image Data}
  {s s' : ProfileStore Image Data}

/-! ## What one step does -/

theorem step_app {e : AppEvent Image} :
    step wiring device s (.app e) = some s' ↔
      ∃ app, s.app.step wiring device e = some app ∧ { s with app := app } = s' := by
  simp only [step, Option.map_eq_some_iff]

theorem step_mainQueue {j : Nat} :
    step wiring device s (.mainQueue j) = some s' ↔
      ∃ load, s.loads[j]? = some load ∧
        ∃ load', load.mainQueue device s.app.files = some load' ∧
          { s with loads := s.loads.set j load' } = s' := by
  simp only [step, Option.bind_eq_bind, Option.bind_eq_some_iff, Option.some.injEq]

theorem step_loader {j : Nat} {e : OperationEvent} :
    step wiring device s (.loader j e) = some s' ↔
      ∃ load, s.loads[j]? = some load ∧
        ∃ load', load.loader device s.app.files e = some load' ∧
          { s with loads := s.loads.set j load' } = s' := by
  simp only [step, Option.bind_eq_bind, Option.bind_eq_some_iff, Option.some.injEq]

/-- What a load would be given changes with a write that succeeds, to the profile
that is written, and with nothing else. -/
theorem loadUserProfile_step (hcodecs : device.InverseCodecs) {e : StoreEvent Image}
    (hstep : step wiring device s e = some s') :
    MainFileManager.loadUserProfile device s'.app.files =
      (s.saved device e).or (MainFileManager.loadUserProfile device s.app.files) := by
  cases e with
  | load =>
      obtain rfl := Option.some.inj hstep
      rfl
  | addLoader =>
      obtain rfl := Option.some.inj hstep
      rfl
  | mainQueue j =>
      obtain ⟨load, -, load', -, rfl⟩ := step_mainQueue.mp hstep
      rfl
  | loader j e =>
      obtain ⟨load, -, load', -, rfl⟩ := step_loader.mp hstep
      rfl
  | app e =>
      obtain ⟨app, happ, rfl⟩ := step_app.mp hstep
      cases e with
      | background i action =>
          obtain ⟨save, -, process, -, rfl⟩ := ProfileApp.step_background.mp happ
          rfl
      | visible e =>
          cases e with
          | user e =>
              obtain ⟨screen, -, rfl⟩ := Option.map_eq_some_iff.mp happ
              rfl
          | saveTapped button =>
              obtain ⟨-, rfl⟩ := ProfileApp.step_saveTapped.mp happ
              rfl
          | completion i =>
              obtain ⟨save, -, process, -, rfl⟩ := ProfileApp.step_completion.mp happ
              rfl
          | saveUserProfile i created =>
              obtain ⟨save, hsave, process, -, rfl⟩ := ProfileApp.step_saveUserProfile.mp happ
              simp only [saved, hsave, Option.map_some]
              by_cases hwrites : MainFileManager.SaveSucceeds device created save.profile
              · rw [Option.filter_some_pos (MainFileManager.writes_iff.mpr hwrites),
                  Option.some_or]
                exact MainFileManager.loadUserProfile_of_holds hcodecs
                  (MainFileManager.holds_of_succeeds hcodecs hwrites s.app.files)
              · have hnone : MainFileManager.writes device created save.profile = false :=
                  Bool.eq_false_iff.mpr fun h => hwrites (MainFileManager.writes_iff.mp h)
                rw [Option.filter_some_neg hnone, Option.none_or,
                  MainFileManager.saveUserProfile_of_not_succeeds hwrites]

theorem loadUserProfile_run (hcodecs : device.InverseCodecs) {es : List (StoreEvent Image)}
    (hrun : run (step wiring device) s es = some s') :
    MainFileManager.loadUserProfile device s'.app.files =
      (written (step wiring device) (saved device) s es).getLast?.or
        (MainFileManager.loadUserProfile device s.app.files) :=
  run_written_last
    (f := fun s : ProfileStore Image Data => MainFileManager.loadUserProfile device s.app.files)
    (fun _ _ _ hstep => loadUserProfile_step hcodecs hstep) hrun

/-- A load that reads could do so before and cannot do it again. -/
theorem loads_reads {j : Nat} {e : StoreEvent Image} (hreads : e.reads j = true)
    (hstep : step wiring device s e = some s') :
    ∃ load load', s.loads[j]? = some load ∧ load.mayRead = true ∧
      s'.loads[j]? = some load' ∧ load'.mayRead = false ∧
      load'.held = MainFileManager.loadUserProfile device s.app.files := by
  cases e with
  | app e => cases hreads
  | load => cases hreads
  | addLoader => cases hreads
  | mainQueue i =>
      obtain rfl := of_decide_eq_true hreads
      obtain ⟨load, hload, load', hread, rfl⟩ := step_mainQueue.mp hstep
      have hj := (List.getElem?_eq_some_iff.mp hload).1
      obtain ⟨hmay, hmay', hheld⟩ := LoadProcess.mainQueue_spec hread
      exact ⟨load, load', hload, hmay, List.getElem?_set_self hj, hmay', hheld⟩
  | loader i e =>
      obtain ⟨rfl, rfl⟩ := of_decide_eq_true hreads
      obtain ⟨load, hload, load', hread, rfl⟩ := step_loader.mp hstep
      have hj := (List.getElem?_eq_some_iff.mp hload).1
      obtain ⟨hmay, hmay', hheld⟩ := LoadProcess.loader_work hread
      exact ⟨load, load', hload, hmay, List.getElem?_set_self hj, hmay', hheld⟩

/-- A load that does not read keeps what it holds; a load that is new holds nothing. -/
theorem loads_other {j : Nat} {e : StoreEvent Image} (hreads : e.reads j = false)
    (hstep : step wiring device s e = some s') {load' : LoadProcess Image}
    (hload' : s'.loads[j]? = some load') :
    (∃ load, s.loads[j]? = some load ∧ load.Keeps load') ∨
    (s.loads[j]? = none ∧ load'.held = none ∧ load'.mayRead = true) := by
  have hnew : ∀ added : LoadProcess Image, added.held = none → added.mayRead = true →
      (s.loads ++ [added])[j]? = some load' →
      (∃ load, s.loads[j]? = some load ∧ load.Keeps load') ∨
      (s.loads[j]? = none ∧ load'.held = none ∧ load'.mayRead = true) := by
    intro added hheld hmay hget
    rcases Nat.lt_or_ge j s.loads.length with hj | hj
    · rw [List.getElem?_append_left hj] at hget
      exact Or.inl ⟨load', hget, .refl load'⟩
    · rw [List.getElem?_append_right hj, List.getElem?_singleton] at hget
      split at hget
      · obtain rfl := Option.some.inj hget
        exact Or.inr ⟨List.getElem?_eq_none hj, hheld, hmay⟩
      · cases hget
  cases e with
  | app e =>
      obtain ⟨app, -, rfl⟩ := step_app.mp hstep
      exact Or.inl ⟨load', hload', .refl load'⟩
  | load =>
      obtain rfl := Option.some.inj hstep
      exact hnew _ rfl rfl hload'
  | addLoader =>
      obtain rfl := Option.some.inj hstep
      exact hnew _ rfl rfl hload'
  | mainQueue i =>
      obtain ⟨load, -, after, -, rfl⟩ := step_mainQueue.mp hstep
      have hij : i ≠ j := of_decide_eq_false hreads
      rw [List.getElem?_set_ne hij] at hload'
      exact Or.inl ⟨load', hload', .refl load'⟩
  | loader i e =>
      obtain ⟨load, hload, after, hafter, rfl⟩ := step_loader.mp hstep
      rcases getElem?_set_cases hload' with ⟨-, hsame⟩ | ⟨rfl, rfl⟩
      · exact Or.inl ⟨load', hsame, .refl load'⟩
      · have hwork : e ≠ .work := fun he => of_decide_eq_false hreads ⟨rfl, he⟩
        exact Or.inl ⟨load, hload, LoadProcess.loader_keeps hwork hafter⟩

theorem length_loads_step {e : StoreEvent Image} (hstep : step wiring device s e = some s') :
    s.loads.length ≤ s'.loads.length := by
  cases e with
  | app e =>
      obtain ⟨app, -, rfl⟩ := step_app.mp hstep
      exact Nat.le_refl _
  | load =>
      obtain rfl := Option.some.inj hstep
      simp
  | addLoader =>
      obtain rfl := Option.some.inj hstep
      simp
  | mainQueue i =>
      obtain ⟨load, -, after, -, rfl⟩ := step_mainQueue.mp hstep
      simp
  | loader i e =>
      obtain ⟨load, -, after, -, rfl⟩ := step_loader.mp hstep
      simp

/-! ## Every load is given one save -/

/-- The load has not read the file, or it has read it in one event and holds what the
last successful save before that event wrote. -/
def ReadOnce (wiring : Wiring) (device : Device Image Data) (files : Files Data)
    (es : List (StoreEvent Image)) (j : Nat) (load : LoadProcess Image) : Prop :=
  (load.held = none ∧ ∀ e ∈ es, e.reads j = false) ∨
  ∃ before e after, es = before ++ e :: after ∧ e.reads j = true ∧
    (∀ other ∈ before ++ after, other.reads j = false) ∧ load.mayRead = false ∧
    load.held = (written (step wiring device) (saved device) (start device files)
      before).getLast?.or (MainFileManager.loadUserProfile device files)

theorem ReadOnce.append {files : Files Data} {es : List (StoreEvent Image)} {j : Nat}
    {load load' : LoadProcess Image} (h : ReadOnce wiring device files es j load)
    {e : StoreEvent Image} (hreads : e.reads j = false) (hkeeps : load.Keeps load') :
    ReadOnce wiring device files (es ++ [e]) j load' := by
  have hlast : ∀ other ∈ [e], other.reads j = false := List.forall_mem_singleton.mpr hreads
  rcases h with ⟨hnone, hnever⟩ | ⟨before, read, after, rfl, hread, honce, hdone, heq⟩
  · exact Or.inl ⟨hkeeps.held.trans hnone, List.forall_mem_append.mpr ⟨hnever, hlast⟩⟩
  · refine Or.inr ⟨before, read, after ++ [e], by simp, hread, ?_, ?_,
      hkeeps.held.trans heq⟩
    · rw [← List.append_assoc]
      exact List.forall_mem_append.mpr ⟨honce, hlast⟩
    · exact Bool.eq_false_iff.mpr fun h => Bool.eq_false_iff.mp hdone (hkeeps.mayRead h)

/-- A load that may still read has not read. -/
theorem ReadOnce.never {files : Files Data} {es : List (StoreEvent Image)} {j : Nat}
    {load : LoadProcess Image} (h : ReadOnce wiring device files es j load)
    (hmay : load.mayRead = true) : ∀ e ∈ es, e.reads j = false := by
  rcases h with ⟨-, hnever⟩ | ⟨before, read, after, -, -, -, hdone, -⟩
  · exact hnever
  · rw [hmay] at hdone
    cases hdone

theorem readOnce_run (hcodecs : device.InverseCodecs) {files : Files Data}
    {es : List (StoreEvent Image)}
    (hrun : run (step wiring device) (start device files) es = some s) (j : Nat) :
    (s.loads[j]? = none → ∀ e ∈ es, e.reads j = false) ∧
      ∀ load, s.loads[j]? = some load → ReadOnce wiring device files es j load := by
  induction es using List.reverseRecOn generalizing s with
  | nil =>
      obtain rfl := Option.some.inj hrun
      constructor
      · intro _ e he
        cases he
      · intro load hload
        cases hload
  | append_singleton es e ih =>
      obtain ⟨t, hbefore, hlast⟩ := run_append_eq_some.mp hrun
      rw [run_singleton] at hlast
      obtain ⟨hnone, honce⟩ := ih hbefore
      cases hreads : e.reads j with
      | true =>
          obtain ⟨load, load', hload, hmay, hload', hdone, hheld⟩ := loads_reads hreads hlast
          refine ⟨fun hno => (by rw [hload'] at hno; cases hno), fun other hother => ?_⟩
          obtain rfl := Option.some.inj (hload'.symm.trans hother)
          refine Or.inr ⟨es, e, [], rfl, hreads, ?_, hdone, ?_⟩
          · rw [List.append_nil]
            exact (honce load hload).never hmay
          · exact hheld.trans (loadUserProfile_run hcodecs hbefore)
      | false =>
          have hsingle : ∀ other ∈ [e], other.reads j = false :=
            List.forall_mem_singleton.mpr hreads
          refine ⟨fun hno => List.forall_mem_append.mpr ⟨?_, hsingle⟩, fun load' hload' => ?_⟩
          · refine hnone (List.getElem?_eq_none ?_)
            exact (length_loads_step hlast).trans (List.getElem?_eq_none_iff.mp hno)
          · rcases loads_other hreads hlast hload' with
              ⟨load, hload, hkeeps⟩ | ⟨hno, hheld, -⟩
            · exact (honce load hload).append hreads hkeeps
            · exact Or.inl ⟨hheld, List.forall_mem_append.mpr ⟨hnone hno, hsingle⟩⟩

/-- Whatever saves and loads go on beside it, a load is given one profile as a whole:
what was saved last when it read, or what the file held at first. -/
theorem loads_read_once (wiring : Wiring) (device : Device Image Data)
    (hcodecs : device.InverseCodecs) (files : Files Data) (es : List (StoreEvent Image))
    (s : ProfileStore Image Data)
    (hrun : run (step wiring device) (start device files) es = some s) :
    ∀ j load, s.loads[j]? = some load → ReadOnce wiring device files es j load :=
  fun j => (readOnce_run hcodecs hrun j).2

end ProfileStore

end

/-! ## A load between two saves -/

section

attribute [local instance] asciiText

/-- Both loads are asked for at first; the operation reads after the first write, the
block on the main queue after the second. -/
def loadsBetween : List (StoreEvent String) :=
  [.load, .addLoader, .app (.visible (.user .editProfilePressed)), .app (typeName "A" 0),
    .app (.visible (.saveTapped .saveGSDButton)), .app (.visible (.saveUserProfile 0 true)),
    .loader 1 .start, .loader 1 .testCancelled, .loader 1 .work, .app (typeName "B" 1),
    .app (.visible (.saveTapped .saveGSDButton)), .app (.visible (.saveUserProfile 1 true)),
    .mainQueue 0]

theorem loads_read_once_loadsBetween : ∃ s : ProfileStore String FileData,
    run (ProfileStore.step storyboardWiring phone) (.start phone noFiles) loadsBetween =
        some s ∧
      s.loads.map (fun load => load.held.map UserProfile.userName) =
        [some "AB", some "A"] ∧
      ∀ j load, s.loads[j]? = some load →
        ProfileStore.ReadOnce storyboardWiring phone noFiles loadsBetween j load := by
  have hheld : (run (ProfileStore.step storyboardWiring phone) (.start phone noFiles)
      loadsBetween).map (fun s => s.loads.map fun load =>
        load.held.map UserProfile.userName) = some [some "AB", some "A"] := by
    decide +kernel
  obtain ⟨s, hrun, hnames⟩ := Option.map_eq_some_iff.mp hheld
  exact ⟨s, hrun, hnames, ProfileStore.loads_read_once storyboardWiring phone
    phone_inverseCodecs noFiles loadsBetween s hrun⟩

end

end Chatik
