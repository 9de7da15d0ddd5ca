import Chatik.Library.Runs
import Mathlib.Tactic.Common

/-!
# Asynchronous operations

`AsyncOperation`, the base class of `OperationSaver` and `OperationLoader`.  One
thread calls `start()` once; any number of other threads call `cancel()`.  A
step is one access to the operation: a call of `start()`, its test of
`isCancelled`, the work of `main()`, an assignment to `state`, or the effect of
`super.cancel()`, which is documented to do nothing on a finished operation.
`point` is where the starting thread stands, `cancels` counts the calls of
`cancel()` that have not yet assigned `state`.
-/

namespace Chatik

open Chatik.Library

namespace AsyncOperation

inductive State where
  | ready
  | executing
  | finished
  deriving DecidableEq

def State.rawValue : State → String
  | .ready => "ready"
  | .executing => "executing"
  | .finished => "finished"

def State.keyPath (state : State) : String := "is" ++ state.rawValue.capitalize

/-- The position of a state in the lifecycle. -/
def State.rank : State → Nat
  | .ready => 0
  | .executing => 1
  | .finished => 2

inductive StartPoint where
  | idle
  | called
  | inMain
  | worked
  | leftMain
  | skipped
  | returned
  deriving DecidableEq

def StartPoint.runsMain : StartPoint → Bool
  | .inMain => true
  | .worked => true
  | _ => false

end AsyncOperation

structure AsyncOperation where
  state : AsyncOperation.State
  isCancelled : Bool
  point : AsyncOperation.StartPoint
  cancels : Nat
  deriving DecidableEq

inductive OperationEvent where
  | start
  | testCancelled
  | work
  | mainFinish
  | startExecute
  | startFinish
  | cancelSuper
  | cancelFinish
  deriving DecidableEq

namespace AsyncOperation

def new : AsyncOperation := ⟨.ready, false, .idle, 0⟩

/-- `super.isReady` is true, the operations have no dependencies. -/
def isReady (op : AsyncOperation) : Bool := decide (op.state = .ready)

def isExecuting (op : AsyncOperation) : Bool := decide (op.state = .executing)

def isFinished (op : AsyncOperation) : Bool := decide (op.state = .finished)

def enabled (op : AsyncOperation) : OperationEvent → Bool
  | .start => decide (op.point = .idle)
  | .testCancelled => decide (op.point = .called)
  | .work => decide (op.point = .inMain)
  | .mainFinish => decide (op.point = .worked)
  | .startExecute => decide (op.point = .leftMain)
  | .startFinish => decide (op.point = .skipped)
  | .cancelSuper => true
  | .cancelFinish => decide (0 < op.cancels)

def effect (op : AsyncOperation) : OperationEvent → AsyncOperation
  | .start => { op with point := .called }
  | .testCancelled =>
      { op with point := if op.isCancelled then .skipped else .inMain }
  | .work => { op with point := .worked }
  | .mainFinish => { op with state := .finished, point := .leftMain }
  -- `start()` assigns this after `main()` has come back
  | .startExecute => { op with state := .executing, point := .returned }
  | .startFinish => { op with state := .finished, point := .returned }
  | .cancelSuper =>
      { op with
        isCancelled := op.isCancelled || !op.isFinished, cancels := op.cancels + 1 }
  | .cancelFinish => { op with state := .finished, cancels := op.cancels - 1 }

def step (op : AsyncOperation) (e : OperationEvent) : Option AsyncOperation :=
  if op.enabled e then some (op.effect e) else none

theorem step_eq_some {op op' : AsyncOperation} {e : OperationEvent} :
    step op e = some op' ↔ op.enabled e = true ∧ op.effect e = op' := by
  rw [step, Option.ite_none_right_eq_some, Option.some.injEq]

/-! ## Change notifications

The property observers of `state` announce the change of two keys around every
assignment.
-/

inductive ValueChange where
  | willChange (key : String)
  | didChange (key : String)
  deriving DecidableEq

def stateObservers (oldValue newValue : State) : List ValueChange :=
  [.willChange oldValue.keyPath, .willChange newValue.keyPath,
    .didChange newValue.keyPath, .didChange oldValue.keyPath]

def assigned : OperationEvent → Option State
  | .mainFinish => some .finished
  | .startExecute => some .executing
  | .startFinish => some .finished
  | .cancelFinish => some .finished
  | _ => none

def notifications (op : AsyncOperation) (e : OperationEvent) : List ValueChange :=
  match assigned e with
  | none => []
  | some newValue => stateObservers op.state newValue

/-! ## The lifecycle -/

/-- What the lifecycle allows in one step. -/
structure LegalStep (op : AsyncOperation) (op' : AsyncOperation) : Prop where
  inOrder : op.state.rank ≤ op'.state.rank
  started : op'.isFinished = true → op'.point ≠ .idle
  executes : op'.point.runsMain = true → op'.isExecuting = true
  returns : op'.point = .returned → op'.isFinished = true ∧ op'.isExecuting = false

/-- A completed `cancel()` before `start()` keeps `main()` from running. -/
def CancelPreventsMain (es : List OperationEvent) : Prop :=
  ∀ before after op, before ++ .start :: after <+: es → .cancelFinish ∈ before →
    run step new (before ++ .start :: after) = some op → op.point.runsMain = false

def LegalLifecycle (es : List OperationEvent) : Prop :=
  EveryStep step (fun op _ op' => LegalStep op op') new es ∧ CancelPreventsMain es

/-- No `cancel()` assigns `state` before `start()` is called, and `start()`
finds the operation cancelled. -/
def CancelledInTime (op : AsyncOperation) : OperationEvent → Prop
  | .testCancelled => op.isCancelled = true
  | .cancelFinish => op.point ≠ .idle
  | _ => True

/-- An operation whose `main()` has not been entered. -/
structure Untouched (op : AsyncOperation) : Prop where
  point : op.point = .idle ∨ op.point = .called ∨ op.point = .skipped ∨
    op.point = .returned
  state : op.state ≠ .executing
  started : op.state = .finished → op.point ≠ .idle
  returned : op.point = .returned → op.state = .finished

theorem untouched_new : Untouched new := by
  constructor <;> simp [new]

theorem Untouched.runsMain {op : AsyncOperation} (h : op.Untouched) :
    op.point.runsMain = false := by
  rcases h.point with hp | hp | hp | hp <;> rw [hp] <;> rfl

/-- A step that stays out of `main()` is legal when it keeps the state or finishes. -/
theorem Untouched.legalStep {op op' : AsyncOperation} (h : op'.Untouched)
    (hstate : op'.state = op.state ∨ op'.state = .finished) : LegalStep op op' := by
  constructor
  · rcases hstate with hstate | hstate
    · exact Nat.le_of_eq (congrArg State.rank hstate.symm)
    · rw [hstate]
      cases op.state <;> decide
  · intro hfinished
    exact h.started (of_decide_eq_true hfinished)
  · intro hmain
    rw [h.runsMain] at hmain
    cases hmain
  · intro hreturned
    have hfinished := h.returned hreturned
    simp [isFinished, isExecuting, hfinished]

theorem Untouched.effect {op : AsyncOperation} {e : OperationEvent}
    (h : op.Untouched) (henabled : op.enabled e = true) (htime : CancelledInTime op e) :
    (op.effect e).Untouched := by
  obtain ⟨hpoint, hstate, hstarted, hreturned⟩ := h
  cases e with
  | start => constructor <;> simp_all [AsyncOperation.effect]
  | testCancelled =>
      have hskipped : op.isCancelled = true := htime
      constructor <;> simp_all [enabled, AsyncOperation.effect]
  | startFinish => constructor <;> simp [AsyncOperation.effect]
  | cancelSuper => exact ⟨hpoint, hstate, hstarted, hreturned⟩
  | cancelFinish =>
      have hstart : op.point ≠ .idle := htime
      exact ⟨hpoint, by simp [AsyncOperation.effect], fun _ => hstart, fun _ => rfl⟩
  | _ => simp_all [enabled]

theorem Untouched.state_effect {op : AsyncOperation} {e : OperationEvent}
    (h : op.Untouched) (henabled : op.enabled e = true) :
    (op.effect e).state = op.state ∨ (op.effect e).state = .finished := by
  have hpoint := h.point
  cases e with
  | startExecute => simp_all [enabled]
  | _ => simp [AsyncOperation.effect]

theorem legalStep_iff {op op' : AsyncOperation} {e : OperationEvent}
    (h : op.Untouched) (hstep : step op e = some op') :
    LegalStep op op' ↔ CancelledInTime op e := by
  obtain ⟨henabled, rfl⟩ := step_eq_some.mp hstep
  constructor
  · intro hlegal
    cases e with
    | testCancelled =>
        -- an operation that is not cancelled enters `main()` in state ready
        by_contra hcancelled
        have hmain : (op.effect .testCancelled).point = .inMain := by
          simp_all [AsyncOperation.effect, CancelledInTime]
        have hexecuting := hlegal.executes (by rw [hmain]; rfl)
        exact h.state (of_decide_eq_true hexecuting)
    | cancelFinish => exact hlegal.started rfl
    | _ => trivial
  · intro htime
    exact (h.effect henabled htime).legalStep (h.state_effect henabled)

theorem everyStep_legal_iff (es : List OperationEvent) :
    EveryStep step (fun op _ op' => LegalStep op op') new es ↔
      EveryStep step (fun op e _ => CancelledInTime op e) new es := by
  refine everyStep_congr (I := Untouched) ?_ ?_ untouched_new es
  · intro op e op' h hstep
    exact legalStep_iff h hstep
  · intro op e op' h hstep hlegal
    obtain ⟨henabled, rfl⟩ := step_eq_some.mp hstep
    exact h.effect henabled ((legalStep_iff h hstep).mp hlegal)

/-! ## A cancelled operation does not run -/

/-- Before `start()` every call of `cancel()` under way has set `isCancelled`. -/
def CancelRecorded (op : AsyncOperation) : Prop :=
  op.point = .idle ∧ (0 < op.cancels ∨ op.state = .finished → op.isCancelled = true)

theorem cancelRecorded_step {op op' : AsyncOperation} {e : OperationEvent}
    (hstart : e ≠ .start) (hstep : step op e = some op') (h : op.CancelRecorded) :
    op'.CancelRecorded := by
  obtain ⟨henabled, rfl⟩ := step_eq_some.mp hstep
  obtain ⟨hidle, hrecorded⟩ := h
  cases e with
  | start => exact absurd rfl hstart
  | cancelSuper =>
      refine ⟨hidle, fun _ => ?_⟩
      cases hs : op.state <;> simp_all [effect, isFinished]
  | cancelFinish =>
      refine ⟨hidle, fun _ => hrecorded (Or.inl ?_)⟩
      simpa [enabled] using henabled
  | _ => simp_all [enabled]

/-- A cancelled operation that is outside `main()`. -/
def Skips (op : AsyncOperation) : Prop :=
  op.isCancelled = true ∧
    (op.point = .idle ∨ op.point = .called ∨ op.point = .skipped ∨ op.point = .returned)

theorem skips_step {op op' : AsyncOperation} {e : OperationEvent}
    (hstep : step op e = some op') (h : op.Skips) : op'.Skips := by
  obtain ⟨henabled, rfl⟩ := step_eq_some.mp hstep
  obtain ⟨hcancelled, hpoint⟩ := h
  cases e <;> simp_all [enabled, effect, Skips]

theorem skips_run {op op' : AsyncOperation} {es : List OperationEvent}
    (hrun : run step op es = some op') (h : op.Skips) : op'.Skips :=
  run_invariant (I := Skips) (fun _ _ _ hstep => skips_step hstep) hrun h

theorem point_ne_idle_run {op op' : AsyncOperation} {es : List OperationEvent}
    (hrun : run step op es = some op') (h : op.point ≠ .idle) : op'.point ≠ .idle := by
  refine run_invariant (I := fun op => op.point ≠ .idle) ?_ hrun h
  intro s e s' hstep hs
  obtain ⟨henabled, rfl⟩ := step_eq_some.mp hstep
  cases e with
  | testCancelled =>
      simp only [effect]
      split <;> simp
  | _ => simp_all [effect]

theorem skips_of_cancelFinish_mem {op op' : AsyncOperation}
    {es : List OperationEvent} (hrun : run step op es = some op')
    (h : op.CancelRecorded) (hidle : op'.point = .idle)
    (hcancel : .cancelFinish ∈ es) : op'.Skips := by
  induction es generalizing op with
  | nil => cases hcancel
  | cons e es ih =>
      obtain ⟨s, hstep, hrest⟩ := run_cons_eq_some.mp hrun
      have hstart : e ≠ .start := by
        rintro rfl
        obtain ⟨-, rfl⟩ := step_eq_some.mp hstep
        exact point_ne_idle_run hrest (by simp [effect]) hidle
      have hs := cancelRecorded_step hstart hstep h
      rcases List.mem_cons.mp hcancel with rfl | hlater
      · obtain ⟨-, rfl⟩ := step_eq_some.mp hstep
        exact skips_run hrest ⟨hs.2 (Or.inr rfl), Or.inl hs.1⟩
      · exact ih hrest hs hlater

theorem cancelPreventsMain (es : List OperationEvent) : CancelPreventsMain es := by
  intro before after op _ hcancel hrun
  obtain ⟨waiting, hbefore, hrest⟩ := run_append_eq_some.mp hrun
  obtain ⟨started, hstart, -⟩ := run_cons_eq_some.mp hrest
  have hidle : waiting.point = .idle := by
    simpa [enabled] using (step_eq_some.mp hstart).1
  have hnew : CancelRecorded new := ⟨rfl, by simp [new]⟩
  have hskips := skips_run hrest (skips_of_cancelFinish_mem hbefore hnew hidle hcancel)
  rcases hskips.2 with hp | hp | hp | hp <;> rw [hp] <;> rfl

/-- A run keeps the lifecycle exactly when `start()` always finds the operation
cancelled and no `cancel()` assigns `state` before `start()` is called. -/
theorem legalLifecycle_iff (es : List OperationEvent) :
    LegalLifecycle es ↔ EveryStep step (fun op e _ => CancelledInTime op e) new es := by
  rw [LegalLifecycle, everyStep_legal_iff]
  exact and_iff_left (cancelPreventsMain es)

/-- Without any `cancel()` the operation ends in state executing. -/
theorem not_legalLifecycle_uncancelled :
    ¬ LegalLifecycle [.start, .testCancelled, .work, .mainFinish, .startExecute] := by
  rintro ⟨hsteps, -⟩
  have hlast := ((((hsteps _ rfl).2 _ rfl).2 _ rfl).2 _ rfl).2 _ rfl
  exact absurd (hlast.1.returns rfl).1 (by decide)

end AsyncOperation

end Chatik
