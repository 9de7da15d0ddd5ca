import Chatik.Library.Settling
import Chatik.Profile.Controls
import Chatik.Profile.Loads
import Chatik.Profile.SaveEquivalence

/-!
# Saves and loads come to an end

The queues and the main thread have a bounded number of steps to take for each
save and each load, and in every state in which a save has not completed, or a
load that nobody cancelled has not read, one of them has a step.  So when the
user stops, everything that was begun is finished, in whatever order.
-/

namespace Chatik

open Chatik.Library

section

variable {Image Data : Type}

/-- What the queues and the main thread do for what has been begun.  A call of `cancel()`
is somebody else's, but once begun it goes on. -/
def StoreEvent.isOwn : StoreEvent Image → Prop
  | .app e => ProfileApp.isQueueStep e = true
  | .mainQueue _ => True
  | .loader _ e => e ≠ .cancelSuper
  | _ => False

namespace LoadProcess

def remaining : LoadProcess Image → Nat
  | .gcdQueued => 1
  | .gcdCompleted _ => 0
  | .operation loader => SaveProcess.remaining.startSteps loader.point + loader.cancels

/-- An operation that nobody has cancelled is ready until it has left `main()`. -/
def OnCourse : LoadProcess Image → Prop
  | .operation loader => loader.isCancelled = false →
      (loader.state = .ready ∧ loader.cancels = 0 ∧
        (loader.point = .idle ∨ loader.point = .called ∨ loader.point = .inMain ∨
          loader.point = .worked)) ∨
      loader.point = .leftMain ∨ loader.point = .returned
  | _ => True

variable {device : Device Image Data} {files : Files Data} {load load' : LoadProcess Image}

theorem remaining_mainQueue (h : load.mainQueue device files = some load') :
    load'.remaining < load.remaining := by
  cases load <;> cases h
  exact Nat.zero_lt_one

theorem remaining_loader {e : OperationEvent} (he : e ≠ .cancelSuper)
    (h : load.loader device files e = some load') : load'.remaining < load.remaining := by
  cases load with
  | gcdQueued => cases h
  | gcdCompleted userProfile => cases h
  | operation loader =>
      obtain ⟨after, hstep, rfl⟩ := Option.map_eq_some_iff.mp h
      obtain ⟨hready, henabled, rfl⟩ := OperationLoader.step_eq_some.mp hstep
      cases e with
      | cancelSuper => exact absurd rfl he
      | work =>
          have hmain : loader.point = .inMain := of_decide_eq_true henabled
          simp [remaining, AsyncOperation.effect, hmain, SaveProcess.remaining.startSteps]
      | cancelFinish =>
          have hcancels : 0 < loader.cancels := of_decide_eq_true henabled
          simp only [remaining, AsyncOperation.effect]
          omega
      | start =>
          have hqueue : queueRuns loader.toAsyncOperation .start = true := by
            simpa [queueRuns] using hready
          exact Nat.add_lt_add_right (SaveProcess.startSteps_effect hqueue henabled) _
      | testCancelled =>
          exact Nat.add_lt_add_right (SaveProcess.startSteps_effect rfl henabled) _
      | mainFinish =>
          exact Nat.add_lt_add_right (SaveProcess.startSteps_effect rfl henabled) _
      | startExecute =>
          exact Nat.add_lt_add_right (SaveProcess.startSteps_effect rfl henabled) _
      | startFinish =>
          exact Nat.add_lt_add_right (SaveProcess.startSteps_effect rfl henabled) _

theorem onCourse_mainQueue (h : load.mainQueue device files = some load') :
    load'.OnCourse := by
  cases load <;> cases h
  trivial

theorem OnCourse.loader (hcourse : load.OnCourse) {e : OperationEvent}
    (h : load.loader device files e = some load') : load'.OnCourse := by
  cases load with
  | gcdQueued => cases h
  | gcdCompleted userProfile => cases h
  | operation loader =>
      obtain ⟨after, hstep, rfl⟩ := Option.map_eq_some_iff.mp h
      obtain ⟨-, henabled, rfl⟩ := OperationLoader.step_eq_some.mp hstep
      intro hcancelled
      cases e with
      | cancelSuper =>
          -- a `cancel()` that leaves the operation uncancelled finds it finished
          obtain ⟨hbefore, hfinished⟩ := Bool.or_eq_false_iff.mp hcancelled
          rcases hcourse hbefore with ⟨hstate, -, -⟩ | hpoint
          · simp [AsyncOperation.isFinished, hstate] at hfinished
          · exact Or.inr hpoint
      | _ =>
          rcases hcourse hcancelled with ⟨hstate, hcancels, hpoint⟩ | hpoint
          · simp_all [AsyncOperation.enabled, AsyncOperation.effect]
          · simp_all [AsyncOperation.enabled, AsyncOperation.effect]

/-- A load that nobody has cancelled and that has not read has a step to take. -/
theorem exists_next (hcourse : load.OnCourse) (hcancelled : load.isCancelled = false)
    (hmay : load.mayRead = true) (device : Device Image Data) (files : Files Data) :
    (load.mainQueue device files).isSome ∨
      ∃ e, e ≠ .cancelSuper ∧ (load.loader device files e).isSome := by
  cases load with
  | gcdQueued => exact Or.inl rfl
  | gcdCompleted userProfile => cases hmay
  | operation loader =>
      have hpoint := of_decide_eq_true hmay
      rcases hcourse hcancelled with ⟨hstate, -, -⟩ | hleft
      · have hready : loader.isReady = true := by simp [AsyncOperation.isReady, hstate]
        right
        rcases hpoint with hidle | hcalled | hmain
        · refine ⟨.start, by decide, ?_⟩
          simp [LoadProcess.loader, OperationLoader.step, AsyncOperation.step,
            AsyncOperation.enabled, hready, hidle]
        · refine ⟨.testCancelled, by decide, ?_⟩
          simp [LoadProcess.loader, OperationLoader.step, AsyncOperation.step,
            AsyncOperation.enabled, hcalled]
        · refine ⟨.work, by decide, ?_⟩
          simp [LoadProcess.loader, OperationLoader.step, AsyncOperation.step,
            AsyncOperation.enabled, hmain]
      · exfalso
        rcases hleft with hleft | hleft <;> simp [hleft] at hpoint

end LoadProcess

/-! ## Saves and the screen -/

namespace ProfileApp

variable [Unicode] {wiring : Wiring} {device : Device Image Data}
  {s s' : ProfileApp Image Data}

theorem remaining_queueStep {e : AppEvent Image} (hqueue : isQueueStep e = true)
    (hstep : step wiring device s e = some s') : s'.remaining < s.remaining := by
  have hbound := remaining_step hstep
  have hlength : s'.saves.length = s.saves.length := by
    cases e with
    | background i action =>
        obtain ⟨save, -, process, -, rfl⟩ := step_background.mp hstep
        exact List.length_set
    | visible e =>
        cases e with
        | user e => cases hqueue
        | saveTapped button => cases hqueue
        | saveUserProfile i created =>
            obtain ⟨save, -, process, -, rfl⟩ := step_saveUserProfile.mp hstep
            exact List.length_set
        | completion i =>
            obtain ⟨save, -, process, -, rfl⟩ := step_completion.mp hstep
            exact List.length_set
  rw [if_pos hqueue, hlength] at hbound
  omega

omit [Unicode] in
theorem saveRunning_set {i : Nat} {save : Save Image} {process : SaveProcess}
    {t : ProfileApp Image Data} (hsave : s.saves[i]? = some save)
    (hprocess : process.phase ≠ .completed)
    (ht : t.saves = s.saves.set i { save with process := process }) : t.SaveRunning := by
  have hi := (List.getElem?_eq_some_iff.mp hsave).1
  refine ⟨{ save with process := process }, ?_, hprocess⟩
  rw [ht]
  exact List.mem_set hi _

omit [Unicode] in
theorem saveCompleted_saveCompleted (screen : ProfileViewController Image) :
    screen.saveCompleted.saveCompleted = screen.saveCompleted := rfl

/-- While the user does nothing the screen changes only by completions, and there is
one for the save that ends last. -/
def ShowsSaving (screen : ProfileViewController Image) (s : ProfileApp Image Data) : Prop :=
  s.screen = screen.saveCompleted ∨ (s.screen = screen ∧ s.SaveRunning)

theorem ShowsSaving.queueStep {screen : ProfileViewController Image} {e : AppEvent Image}
    (h : s.ShowsSaving screen) (hs : s.OnCourse) (hqueue : isQueueStep e = true)
    (hstep : ProfileApp.step wiring device s e = some s') : s'.ShowsSaving screen := by
  cases e with
  | background i action =>
      obtain ⟨save, hsave, process, hprocess, rfl⟩ := step_background.mp hstep
      have hphase := (SaveProcess.background_phase (hs.process hsave) hprocess).2
      refine h.imp_right fun ⟨hscreen, hsaving⟩ => ⟨hscreen, ?_⟩
      obtain ⟨other, hother, hnot⟩ := hsaving
      obtain ⟨j, hj⟩ := List.getElem?_of_mem hother
      by_cases hij : i = j
      · subst hij
        obtain rfl := Option.some.inj (hsave.symm.trans hj)
        exact saveRunning_set hsave (hphase ▸ hnot) rfl
      · refine ⟨other, List.mem_of_getElem? (i := j) ?_, hnot⟩
        rw [List.getElem?_set_ne hij, hj]
  | visible e =>
      cases e with
      | user e => cases hqueue
      | saveTapped button => cases hqueue
      | saveUserProfile i created =>
          obtain ⟨save, hsave, process, hprocess, rfl⟩ := step_saveUserProfile.mp hstep
          have hphase := (SaveProcess.saveUserProfile_phase (hs.process hsave) hprocess).2.2
          refine h.imp_right fun ⟨hscreen, _⟩ => ⟨hscreen, ?_⟩
          exact saveRunning_set hsave (by rw [hphase]; decide) rfl
      | completion i =>
          obtain ⟨save, hsave, process, hprocess, rfl⟩ := step_completion.mp hstep
          left
          rcases h with hscreen | ⟨hscreen, -⟩
          · exact (congrArg ProfileViewController.saveCompleted hscreen).trans
              (saveCompleted_saveCompleted screen)
          · exact congrArg ProfileViewController.saveCompleted hscreen

end ProfileApp

/-! ## Everything that was begun -/

namespace ProfileStore

variable [Unicode] {wiring : Wiring} {device : Device Image Data}
  {s s' : ProfileStore Image Data}

def remaining (s : ProfileStore Image Data) : Nat :=
  s.app.remaining + (s.loads.map LoadProcess.remaining).sum

structure OnCourse (s : ProfileStore Image Data) : Prop where
  app : s.app.OnCourse
  loads : ∀ load ∈ s.loads, load.OnCourse

theorem OnCourse.step {e : StoreEvent Image} (h : s.OnCourse)
    (hstep : ProfileStore.step wiring device s e = some s') : s'.OnCourse := by
  cases e with
  | app e =>
      obtain ⟨app, happ, rfl⟩ := step_app.mp hstep
      exact ⟨h.app.step happ, h.loads⟩
  | load =>
      obtain rfl := Option.some.inj hstep
      exact ⟨h.app, List.forall_mem_append.mpr
        ⟨h.loads, List.forall_mem_singleton.mpr trivial⟩⟩
  | addLoader =>
      obtain rfl := Option.some.inj hstep
      refine ⟨h.app, List.forall_mem_append.mpr ⟨h.loads, List.forall_mem_singleton.mpr ?_⟩⟩
      exact fun _ => Or.inl ⟨rfl, rfl, Or.inl rfl⟩
  | mainQueue j =>
      obtain ⟨load, -, load', hread, rfl⟩ := step_mainQueue.mp hstep
      exact ⟨h.app, forall_mem_set h.loads (LoadProcess.onCourse_mainQueue hread)⟩
  | loader j e =>
      obtain ⟨load, hload, load', hloader, rfl⟩ := step_loader.mp hstep
      exact ⟨h.app, forall_mem_set h.loads
        ((h.loads load (List.mem_of_getElem? hload)).loader hloader)⟩

theorem onCourse_run {files : Files Data} {es : List (StoreEvent Image)}
    (hrun : run (step wiring device) (start device files) es = some s) : s.OnCourse := by
  refine run_invariant (I := OnCourse) (fun _ _ _ hstep h => h.step hstep) hrun ?_
  exact ⟨ProfileApp.onCourse_start device files, fun load hload => by cases hload⟩

theorem remaining_step {e : StoreEvent Image} (hown : e.isOwn)
    (hstep : step wiring device s e = some s') : s'.remaining < s.remaining := by
  cases e with
  | app e =>
      obtain ⟨app, happ, rfl⟩ := step_app.mp hstep
      exact Nat.add_lt_add_right (ProfileApp.remaining_queueStep hown happ) _
  | load => cases hown
  | addLoader => cases hown
  | mainQueue j =>
      obtain ⟨load, hload, load', hread, rfl⟩ := step_mainQueue.mp hstep
      exact Nat.add_lt_add_left (sum_map_set_lt hload (LoadProcess.remaining_mainQueue hread)) _
  | loader j e =>
      obtain ⟨load, hload, load', hloader, rfl⟩ := step_loader.mp hstep
      exact Nat.add_lt_add_left
        (sum_map_set_lt hload (LoadProcess.remaining_loader hown hloader)) _

theorem settles (wiring : Wiring) (device : Device Image Data) :
    Settles (step wiring device) StoreEvent.isOwn OnCourse (· < ·) remaining where
  wellFounded := wellFounded_lt
  keeps _ _ _ _ hstep h := h.step hstep
  decreases _ _ _ hown hstep _ := remaining_step hown hstep

theorem quiescent_of_quiet (h : Quiet (step wiring device) StoreEvent.isOwn s) :
    ProfileApp.Quiescent wiring device s.app := by
  have hnone : ∀ e, ProfileApp.isQueueStep e = true → s.app.step wiring device e = none := by
    intro e hqueue
    exact Option.map_eq_none_iff.mp (h (.app e) hqueue)
  exact fun i => ⟨fun created => hnone _ rfl, fun action => hnone _ rfl, hnone _ rfl⟩

theorem mayRead_of_quiet (h : Quiet (step wiring device) StoreEvent.isOwn s)
    (hs : s.OnCourse) {j : Nat} {load : LoadProcess Image} (hload : s.loads[j]? = some load)
    (hcancelled : load.isCancelled = false) : load.mayRead = false := by
  by_contra hmay
  rcases LoadProcess.exists_next (hs.loads load (List.mem_of_getElem? hload)) hcancelled
    (Bool.not_eq_false _ ▸ hmay) device s.app.files with hnext | ⟨e, he, hnext⟩
  · obtain ⟨load', hread⟩ := Option.isSome_iff_exists.mp hnext
    have hstep : step wiring device s (.mainQueue j) = some _ :=
      step_mainQueue.mpr ⟨load, hload, load', hread, rfl⟩
    rw [h (.mainQueue j) trivial] at hstep
    cases hstep
  · obtain ⟨load', hloader⟩ := Option.isSome_iff_exists.mp hnext
    have hstep : step wiring device s (.loader j e) = some _ :=
      step_loader.mpr ⟨load, hload, load', hloader, rfl⟩
    rw [h (.loader j e) he] at hstep
    cases hstep

/-- A load that nobody has cancelled and that cannot read any more has read. -/
theorem exists_reads {files : Files Data} {es : List (StoreEvent Image)}
    (hrun : run (step wiring device) (start device files) es = some s) {j : Nat}
    {load : LoadProcess Image} (hload : s.loads[j]? = some load)
    (hcancelled : load.isCancelled = false) (hmay : load.mayRead = false) :
    ∃ e ∈ es, e.reads j = true := by
  induction es using List.reverseRecOn generalizing s load with
  | nil =>
      obtain rfl := Option.some.inj hrun
      cases hload
  | append_singleton es e ih =>
      obtain ⟨t, hbefore, hlast⟩ := run_append_eq_some.mp hrun
      rw [run_singleton] at hlast
      cases hreads : e.reads j with
      | true => exact ⟨e, List.mem_append_right _ List.mem_cons_self, hreads⟩
      | false =>
          rcases loads_other hreads hlast hload with ⟨before, hget, hkeeps⟩ | ⟨-, -, hnew⟩
          · have hbeforeMay : before.mayRead = false := by
              by_contra h
              have hstill := hkeeps.stillMayRead hcancelled (Bool.not_eq_false _ ▸ h)
              rw [hmay] at hstill
              cases hstill
            obtain ⟨read, hread, heq⟩ :=
              ih hbefore hget (hkeeps.uncancelled hcancelled) hbeforeMay
            exact ⟨read, List.mem_append_left _ hread, heq⟩
          · rw [hmay] at hnew
            cases hnew

theorem showsSaving_step {screen : ProfileViewController Image} {e : StoreEvent Image}
    (hown : e.isOwn) (hstep : step wiring device s e = some s')
    (h : s.app.ShowsSaving screen ∧ s.OnCourse) :
    s'.app.ShowsSaving screen ∧ s'.OnCourse := by
  obtain ⟨hshows, hcourse⟩ := h
  refine ⟨?_, hcourse.step hstep⟩
  cases e with
  | app e =>
      obtain ⟨app, happ, rfl⟩ := step_app.mp hstep
      exact hshows.queueStep hcourse.app hown happ
  | load => cases hown
  | addLoader => cases hown
  | mainQueue i =>
      obtain ⟨load, -, load', -, rfl⟩ := step_mainQueue.mp hstep
      exact hshows
  | loader i e =>
      obtain ⟨load, -, load', -, rfl⟩ := step_loader.mp hstep
      exact hshows

theorem not_saveRunning_of_quiet (h : Quiet (step wiring device) StoreEvent.isOwn s)
    (hcourse : s.OnCourse) : ¬ s.app.SaveRunning := by
  rintro ⟨save, hsave, hphase⟩
  obtain ⟨i, hi⟩ := List.getElem?_of_mem hsave
  exact hphase (ProfileApp.completed_of_quiescent hcourse.app (quiescent_of_quiet h) hi)

/-- When the user stops, the queues do not run for ever, they can come to rest, and
wherever they do, every save has completed, the screen says so, and every load that
nobody cancelled has read the file. -/
theorem comes_to_rest (wiring : Wiring) (device : Device Image Data) (files : Files Data)
    (es : List (StoreEvent Image)) (s : ProfileStore Image Data)
    (hrun : run (step wiring device) (start device files) es = some s) :
    (¬ ∃ (states : Nat → ProfileStore Image Data) (events : Nat → StoreEvent Image),
      states 0 = s ∧ ∀ n, (events n).isOwn ∧
        step wiring device (states n) (events n) = some (states (n + 1))) ∧
    (∃ own t, run (step wiring device) s own = some t ∧ (∀ e ∈ own, e.isOwn) ∧
      Quiet (step wiring device) StoreEvent.isOwn t) ∧
    ∀ own t, run (step wiring device) s own = some t → (∀ e ∈ own, e.isOwn) →
      Quiet (step wiring device) StoreEvent.isOwn t →
        ¬ t.app.SaveRunning ∧
        (s.app.SaveRunning → t.app.screen = s.app.screen.saveCompleted) ∧
        ∀ j load, t.loads[j]? = some load → load.isCancelled = false →
          ∃ e ∈ es ++ own, e.reads j = true := by
  have hs := onCourse_run hrun
  refine ⟨?_, (settles wiring device).exists_quiet hs, fun own t ht hown hquiet => ?_⟩
  · rintro ⟨states, events, rfl, hsteps⟩
    exact (settles wiring device).not_infinite states events hs hsteps
  have htcourse := (settles wiring device).invariant ht hown hs
  have hcompleted := not_saveRunning_of_quiet hquiet htcourse
  refine ⟨hcompleted, fun hsaving => ?_, fun j load hload hcancelled => ?_⟩
  · have hshows : t.app.ShowsSaving s.app.screen ∧ t.OnCourse :=
      run_invariant_of_forall
        (I := fun u => u.app.ShowsSaving s.app.screen ∧ u.OnCourse)
        (fun _ _ _ hownStep hstep h => showsSaving_step hownStep hstep h) ht hown
        ⟨Or.inr ⟨rfl, hsaving⟩, hs⟩
    rcases hshows.1 with hscreen | ⟨-, hstill⟩
    · exact hscreen
    · exact absurd hstill hcompleted
  · have hwhole : run (step wiring device) (start device files) (es ++ own) = some t :=
      run_append_eq_some.mpr ⟨s, hrun, ht⟩
    exact exists_reads hwhole hload hcancelled (mayRead_of_quiet hquiet htcourse hload hcancelled)

end ProfileStore

end

/-! ## A save and two loads that have just been begun -/

section

attribute [local instance] asciiText

def begun : List (StoreEvent String) :=
  [.load, .addLoader, .app (.visible (.user .editProfilePressed)), .app (typeName "A" 0),
    .app (.visible (.saveTapped .saveOperationButton))]

theorem comes_to_rest_begun : ∃ s t : ProfileStore String FileData, ∃ own,
    run (ProfileStore.step storyboardWiring phone) (.start phone noFiles) begun = some s ∧
      run (ProfileStore.step storyboardWiring phone) s own = some t ∧
      s.app.saves.length = 1 ∧ ¬ t.app.SaveRunning := by
  have hbegun : (run (ProfileStore.step storyboardWiring phone) (.start phone noFiles)
      begun).map (fun s => s.app.saves.length) = some 1 := by decide +kernel
  obtain ⟨s, hrun, hsaves⟩ := Option.map_eq_some_iff.mp hbegun
  obtain ⟨-, ⟨own, t, ht, hown, hquiet⟩, hrest⟩ :=
    ProfileStore.comes_to_rest storyboardWiring phone noFiles begun s hrun
  exact ⟨s, t, own, hrun, ht, hsaves, (hrest own t ht hown hquiet).1⟩

end

end Chatik
