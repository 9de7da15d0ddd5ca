import Chatik.Profile.Saves
import Chatik.Services.AsyncOperation

/-!
# The two ways to save

`GCDManager.save` queues a block that saves the profile and then queues the
completion on the main queue.  `saveOperationTapped` adds an `OperationSaver` to
a queue of its own; the queue starts it once it is ready, observes the key
`isFinished`, and after it is notified that the operation has finished runs the
completion block once, which queues the completion on the main queue.  Nothing
in the program cancels an operation, so those steps are left out.  The work of
`main()` and the first statement of the block are the call of
`MainFileManager.saveUserProfile`.
-/

namespace Chatik

open Chatik.Library AsyncOperation

inductive GCDSave where
  | queued
  | saved
  | onMain
  | done
  deriving DecidableEq

inductive CompletionBlock where
  | waiting
  | due
  | onMain
  | done
  deriving DecidableEq

structure OperationSave where
  saver : AsyncOperation
  completionBlock : CompletionBlock
  deriving DecidableEq

inductive SaveProcess where
  | gcd (stage : GCDSave)
  | operation (save : OperationSave)
  deriving DecidableEq

inductive BackgroundAction where
  | mainAsync
  | operation (e : OperationEvent)
  | completionBlock
  deriving DecidableEq

/-- The steps of the starting thread, the work of `main()` apart. -/
def queueRuns (saver : AsyncOperation) : OperationEvent → Bool
  | .start => saver.isReady
  | .testCancelled => true
  | .mainFinish => true
  | .startExecute => true
  | .startFinish => true
  | _ => false

def CompletionBlock.notified (block : CompletionBlock) (changes : List ValueChange)
    (saver : AsyncOperation) : CompletionBlock :=
  if block = .waiting ∧ .didChange "isFinished" ∈ changes ∧ saver.isFinished then .due
  else block

namespace SaveProcess

def saveUserProfile : SaveProcess → Option SaveProcess
  | .gcd .queued => some (.gcd .saved)
  | .operation save =>
      (save.saver.step .work).map fun saver => .operation { save with saver := saver }
  | _ => none

def background : SaveProcess → BackgroundAction → Option SaveProcess
  | .gcd .saved, .mainAsync => some (.gcd .onMain)
  | .operation save, .operation e =>
      if queueRuns save.saver e then
        (save.saver.step e).map fun saver =>
          .operation ⟨saver,
            save.completionBlock.notified (save.saver.notifications e) saver⟩
      else none
  | .operation ⟨saver, .due⟩, .completionBlock => some (.operation ⟨saver, .onMain⟩)
  | _, _ => none

def completion : SaveProcess → Option SaveProcess
  | .gcd .onMain => some (.gcd .done)
  | .operation ⟨saver, .onMain⟩ => some (.operation ⟨saver, .done⟩)
  | _ => none

/-! ## The phase of a process -/

def phase : SaveProcess → SavePhase
  | .gcd .queued => .pending
  | .gcd .saved => .written
  | .gcd .onMain => .written
  | .gcd .done => .completed
  | .operation ⟨_, .done⟩ => .completed
  | .operation ⟨_, .onMain⟩ => .written
  | .operation ⟨_, .due⟩ => .written
  | .operation ⟨saver, .waiting⟩ => if saver.point = .worked then .written else .pending

/-- An operation that nothing has cancelled: its completion block waits until
`main()` sets `state`, and is due or past that afterwards. -/
def OnCourse : SaveProcess → Prop
  | .gcd _ => True
  | .operation ⟨saver, block⟩ =>
      saver.isCancelled = false ∧
        ((block = .waiting ∧ saver.state = .ready ∧
            (saver.point = .idle ∨ saver.point = .called ∨ saver.point = .inMain ∨
              saver.point = .worked)) ∨
          (block ≠ .waiting ∧ (saver.point = .leftMain ∨ saver.point = .returned)))

theorem saveUserProfile_phase {p p' : SaveProcess} (hp : p.OnCourse)
    (h : p.saveUserProfile = some p') :
    p'.OnCourse ∧ p.phase = .pending ∧ p'.phase = .written := by
  cases p with
  | gcd stage =>
      cases stage <;> cases h
      exact ⟨trivial, rfl, rfl⟩
  | operation save =>
      obtain ⟨saver, block⟩ := save
      simp only [saveUserProfile, Option.map_eq_some_iff] at h
      obtain ⟨saver', hstep, rfl⟩ := h
      obtain ⟨henabled, rfl⟩ := step_eq_some.mp hstep
      simp only [enabled, decide_eq_true_eq] at henabled
      simp only [OnCourse, henabled] at hp
      obtain ⟨hcancelled, ⟨rfl, hstate, -⟩ | ⟨-, hpoint⟩⟩ := hp
      · simp [OnCourse, phase, effect, hcancelled, hstate, henabled]
      · simp at hpoint

theorem notified_of_ne_waiting {block : CompletionBlock} (h : block ≠ .waiting)
    (changes : List ValueChange) (saver : AsyncOperation) :
    block.notified changes saver = block := by
  simp [CompletionBlock.notified, h]

/-- Outside its first stage a completion block no longer depends on the operation. -/
theorem phase_of_ne_waiting {block : CompletionBlock} (h : block ≠ .waiting)
    (saver saver' : AsyncOperation) :
    phase (.operation ⟨saver, block⟩) = phase (.operation ⟨saver', block⟩) := by
  cases block with
  | waiting => exact absurd rfl h
  | due => rfl
  | onMain => rfl
  | done => rfl

theorem notified_mainFinish (saver : AsyncOperation) :
    CompletionBlock.notified .waiting (saver.notifications .mainFinish)
      (saver.effect .mainFinish) = .due := by
  have hkey : ValueChange.didChange "isFinished" ∈ saver.notifications .mainFinish := by
    have hfinished : State.finished.keyPath = "isFinished" := by decide
    simp [notifications, assigned, stateObservers, hfinished]
  simp [CompletionBlock.notified, hkey, effect, isFinished]

theorem operation_phase {saver saver' : AsyncOperation} {block : CompletionBlock}
    {e : OperationEvent} (hp : OnCourse (.operation ⟨saver, block⟩))
    (hqueue : queueRuns saver e = true) (hstep : saver.step e = some saver') :
    OnCourse (.operation ⟨saver', block.notified (saver.notifications e) saver'⟩) ∧
      phase (.operation ⟨saver', block.notified (saver.notifications e) saver'⟩) =
        phase (.operation ⟨saver, block⟩) := by
  obtain ⟨henabled, rfl⟩ := step_eq_some.mp hstep
  obtain ⟨hcancelled, ⟨rfl, hstate, hpoint⟩ | ⟨hblock, hpoint⟩⟩ := hp
  · cases e with
    | start =>
        simp only [enabled, decide_eq_true_eq] at henabled
        simp [OnCourse, phase, effect, notifications, assigned,
          CompletionBlock.notified, hcancelled, hstate, henabled]
    | testCancelled =>
        -- not cancelled, so `start()` enters `main()`
        simp only [enabled, decide_eq_true_eq] at henabled
        simp [OnCourse, phase, effect, notifications, assigned,
          CompletionBlock.notified, hcancelled, hstate, henabled]
    | mainFinish =>
        simp only [enabled, decide_eq_true_eq] at henabled
        rw [notified_mainFinish]
        simp [OnCourse, phase, effect, hcancelled, henabled]
    | startExecute => simp_all [enabled]
    | startFinish => simp_all [enabled]
    | _ => cases hqueue
  · rw [notified_of_ne_waiting hblock]
    refine ⟨⟨?_, Or.inr ⟨hblock, ?_⟩⟩, phase_of_ne_waiting hblock _ _⟩
    · cases e <;> simp_all [effect, queueRuns]
    · cases e <;> simp_all [enabled, effect, queueRuns]

theorem background_phase {p p' : SaveProcess} {action : BackgroundAction}
    (hp : p.OnCourse) (h : p.background action = some p') :
    p'.OnCourse ∧ p'.phase = p.phase := by
  cases p with
  | gcd stage =>
      cases stage <;> cases action <;> cases h
      exact ⟨trivial, rfl⟩
  | operation save =>
      obtain ⟨saver, block⟩ := save
      cases action with
      | mainAsync => cases h
      | operation e =>
          simp only [background, Option.ite_none_right_eq_some,
            Option.map_eq_some_iff] at h
          obtain ⟨hqueue, saver', hstep, rfl⟩ := h
          exact operation_phase hp hqueue hstep
      | completionBlock =>
          cases block <;> cases h
          refine ⟨?_, rfl⟩
          simpa [OnCourse] using hp

theorem completion_phase {p p' : SaveProcess} (hp : p.OnCourse)
    (h : p.completion = some p') :
    p'.OnCourse ∧ p.phase = .written ∧ p'.phase = .completed := by
  cases p with
  | gcd stage =>
      cases stage <;> cases h
      exact ⟨trivial, rfl, rfl⟩
  | operation save =>
      obtain ⟨saver, block⟩ := save
      cases block <;> cases h
      refine ⟨?_, rfl, rfl⟩
      simpa [OnCourse] using hp

/-- A process that has not completed has a step to take. -/
theorem exists_next {p : SaveProcess} (hp : p.OnCourse) (h : p.phase ≠ .completed) :
    p.saveUserProfile.isSome ∨ (∃ action, (p.background action).isSome) ∨
      p.completion.isSome := by
  cases p with
  | gcd stage =>
      cases stage with
      | queued => exact Or.inl rfl
      | saved => exact Or.inr (Or.inl ⟨.mainAsync, rfl⟩)
      | onMain => exact Or.inr (Or.inr rfl)
      | done => exact absurd rfl h
  | operation save =>
      obtain ⟨saver, block⟩ := save
      cases block with
      | waiting =>
          obtain ⟨-, ⟨-, hstate, hpoint⟩ | ⟨hblock, -⟩⟩ := hp
          · rcases hpoint with hpoint | hpoint | hpoint | hpoint
            · refine Or.inr (Or.inl ⟨.operation .start, ?_⟩)
              simp [background, queueRuns, isReady, AsyncOperation.step, enabled,
                hstate, hpoint]
            · refine Or.inr (Or.inl ⟨.operation .testCancelled, ?_⟩)
              simp [background, queueRuns, AsyncOperation.step, enabled, hpoint]
            · refine Or.inl ?_
              simp [saveUserProfile, AsyncOperation.step, enabled, hpoint]
            · refine Or.inr (Or.inl ⟨.operation .mainFinish, ?_⟩)
              simp [background, queueRuns, AsyncOperation.step, enabled, hpoint]
          · exact absurd rfl hblock
      | due => exact Or.inr (Or.inl ⟨.completionBlock, rfl⟩)
      | onMain => exact Or.inr (Or.inr rfl)
      | done => exact absurd rfl h

/-! ## Every step brings a process closer to its end -/

def remaining : SaveProcess → Nat
  | .gcd .queued => 3
  | .gcd .saved => 2
  | .gcd .onMain => 1
  | .gcd .done => 0
  | .operation ⟨saver, block⟩ => startSteps saver.point + blockSteps block
where
  startSteps : StartPoint → Nat
    | .idle => 5
    | .called => 4
    | .inMain => 3
    | .worked => 2
    | .leftMain => 1
    | .skipped => 1
    | .returned => 0
  blockSteps : CompletionBlock → Nat
    | .waiting => 3
    | .due => 2
    | .onMain => 1
    | .done => 0

theorem remaining_saveUserProfile {p p' : SaveProcess}
    (h : p.saveUserProfile = some p') : p'.remaining < p.remaining := by
  cases p with
  | gcd stage =>
      cases stage <;> cases h
      decide
  | operation save =>
      simp only [saveUserProfile, Option.map_eq_some_iff] at h
      obtain ⟨saver', hstep, rfl⟩ := h
      obtain ⟨henabled, rfl⟩ := step_eq_some.mp hstep
      simp only [enabled, decide_eq_true_eq] at henabled
      simp [remaining, remaining.startSteps, effect, henabled]

theorem blockSteps_notified (block : CompletionBlock) (changes : List ValueChange)
    (saver : AsyncOperation) :
    remaining.blockSteps (block.notified changes saver) ≤ remaining.blockSteps block := by
  unfold CompletionBlock.notified
  split
  · rename_i h
    rw [h.1]
    decide
  · exact Nat.le_refl _

theorem startSteps_effect {saver : AsyncOperation} {e : OperationEvent}
    (hqueue : queueRuns saver e = true) (henabled : saver.enabled e = true) :
    remaining.startSteps (saver.effect e).point < remaining.startSteps saver.point := by
  cases e with
  | testCancelled =>
      simp only [enabled, decide_eq_true_eq] at henabled
      simp only [effect, henabled]
      split <;> decide
  | work => cases hqueue
  | cancelSuper => cases hqueue
  | cancelFinish => cases hqueue
  | _ =>
      simp only [enabled, decide_eq_true_eq] at henabled
      simp [effect, henabled, remaining.startSteps]

theorem remaining_background {p p' : SaveProcess} {action : BackgroundAction}
    (h : p.background action = some p') : p'.remaining < p.remaining := by
  cases p with
  | gcd stage =>
      cases stage <;> cases action <;> cases h
      decide
  | operation save =>
      obtain ⟨saver, block⟩ := save
      cases action with
      | mainAsync => cases h
      | operation e =>
          simp only [background, Option.ite_none_right_eq_some,
            Option.map_eq_some_iff] at h
          obtain ⟨hqueue, saver', hstep, rfl⟩ := h
          obtain ⟨henabled, rfl⟩ := step_eq_some.mp hstep
          have hstart := startSteps_effect hqueue henabled
          have hblock := blockSteps_notified block (saver.notifications e) (saver.effect e)
          simp only [remaining]
          omega
      | completionBlock =>
          cases block <;> cases h
          simp [remaining, remaining.blockSteps]

theorem remaining_completion {p p' : SaveProcess} (h : p.completion = some p') :
    p'.remaining < p.remaining := by
  cases p with
  | gcd stage =>
      cases stage <;> cases h
      decide
  | operation save =>
      obtain ⟨saver, block⟩ := save
      cases block <;> cases h
      simp [remaining, remaining.blockSteps]

end SaveProcess

/-! ## The undisturbed course of a process -/

inductive SaveKind where
  | gcd
  | operation
  deriving DecidableEq

namespace SaveKind

def fresh : SaveKind → SaveProcess
  | .gcd => .gcd .queued
  | .operation => .operation ⟨.new, .waiting⟩

def written : SaveKind → SaveProcess
  | .gcd => .gcd .saved
  | .operation => .operation ⟨⟨.ready, false, .worked, 0⟩, .waiting⟩

def toWrite : SaveKind → List BackgroundAction
  | .gcd => []
  | .operation => [.operation .start, .operation .testCancelled]

def toCompletion : SaveKind → List BackgroundAction
  | .gcd => [.mainAsync]
  | .operation => [.operation .mainFinish, .completionBlock]

theorem onCourse_fresh (kind : SaveKind) : kind.fresh.OnCourse := by
  cases kind <;> simp [fresh, SaveProcess.OnCourse, AsyncOperation.new]

theorem remaining_fresh_le (kind : SaveKind) : kind.fresh.remaining ≤ 8 := by
  cases kind <;> decide

@[simp] theorem phase_fresh (kind : SaveKind) : kind.fresh.phase = .pending := by
  cases kind <;> rfl

@[simp] theorem phase_written (kind : SaveKind) : kind.written.phase = .written := by
  cases kind <;> rfl

theorem reaches_write (kind : SaveKind) :
    ∃ p, run SaveProcess.background kind.fresh kind.toWrite = some p ∧
      p.saveUserProfile = some kind.written := by
  cases kind with
  | gcd => exact ⟨_, rfl, rfl⟩
  | operation => exact ⟨.operation ⟨⟨.ready, false, .inMain, 0⟩, .waiting⟩, by decide, rfl⟩

theorem reaches_completion (kind : SaveKind) :
    ∃ p p', run SaveProcess.background kind.written kind.toCompletion = some p ∧
      p.completion = some p' ∧ p'.phase = .completed := by
  cases kind with
  | gcd => exact ⟨_, _, rfl, rfl, rfl⟩
  | operation =>
      exact ⟨.operation ⟨⟨.finished, false, .leftMain, 0⟩, .onMain⟩, _, by decide, rfl, rfl⟩

end SaveKind

/-- A process that has taken no step since its tap or since its write. -/
def SaveProcess.Resting (p : SaveProcess) : Prop :=
  (∃ kind : SaveKind, p = kind.fresh ∨ p = kind.written) ∨ p.phase = .completed

theorem SaveProcess.Resting.of_pending {p : SaveProcess} (h : p.Resting)
    (hphase : p.phase = .pending) : ∃ kind : SaveKind, p = kind.fresh := by
  rcases h with ⟨kind, rfl | rfl⟩ | hcompleted
  · exact ⟨kind, rfl⟩
  · simp at hphase
  · rw [hcompleted] at hphase
    cases hphase

theorem SaveProcess.Resting.of_written {p : SaveProcess} (h : p.Resting)
    (hphase : p.phase = .written) : ∃ kind : SaveKind, p = kind.written := by
  rcases h with ⟨kind, rfl | rfl⟩ | hcompleted
  · simp at hphase
  · exact ⟨kind, rfl⟩
  · rw [hcompleted] at hphase
    cases hphase

end Chatik
