import Chatik.Profile.ProfileApp
import Mathlib.Data.Set.Basic

/-!
# The two handlers agree

Whatever the Save buttons are wired to, the user sees the same: the same runs of
taps, edits, writes and completions, each step with the same screen and the same
files after it.  A save writes what its tap captured, completes at most once and
after its write, and has completed when the queues have nothing left to do, which
happens after a bounded number of their steps.
-/

namespace Chatik

open Chatik.Library

variable {Image Data : Type}

namespace ProfileApp

section

variable [Unicode] {wiring : Wiring} {device : Device Image Data}
  {s s' : ProfileApp Image Data}

/-- The screen and the files, as the user can observe them. -/
def observed (s : ProfileApp Image Data) : ProfileViewController Image × Files Data :=
  (s.screen, s.files)

/-- All that can be seen of the runs of a wiring. -/
def Traces (wiring : Wiring) (device : Device Image Data) (files : Files Data) :
    Set (List (ProfileEvent Image × (ProfileViewController Image × Files Data))) :=
  {seen | ∃ es s, run (step wiring device) (start device files) es = some s ∧
    trace (step wiring device) AppEvent.visible? observed (start device files) es = seen}

theorem traces_subset (wiring wiring' : Wiring) (device : Device Image Data)
    (files : Files Data) : Traces wiring device files ⊆ Traces wiring' device files := by
  rintro seen ⟨es, s, hrun, rfl⟩
  obtain ⟨es', s', hrun', -, hseen⟩ := (refines wiring device).trace_realized
    (refines wiring' device) (realizes wiring' device)
    (fun tracked => (tracked.screen, tracked.files)) (onCourse_start device files)
    (onCourse_start device files) (fun save hsave => by cases hsave) rfl hrun
  exact ⟨es', s', hrun', hseen⟩

/-! ## Once, and after the write -/

/-- What happens to save `i` in the events, in order. -/
def happened (i : Nat) (es : List (AppEvent Image)) : List Milestone :=
  (es.filterMap AppEvent.visible?).filterMap (TrackedProfile.milestone i)

theorem happened_run {files : Files Data} {es : List (AppEvent Image)}
    (hrun : run (step wiring device) (start device files) es = some s) (i : Nat) :
    happened i es = s.tracked.milestones i := by
  have hspec := (refines wiring device).run_spec (onCourse_start device files) hrun
  rw [TrackedProfile.milestones_run i hspec]
  rfl

/-- Neither a queue nor the main thread has a step of a save left. -/
def Quiescent (wiring : Wiring) (device : Device Image Data)
    (s : ProfileApp Image Data) : Prop :=
  ∀ i, (∀ created, step wiring device s (.visible (.saveUserProfile i created)) = none) ∧
    (∀ action, step wiring device s (.background i action) = none) ∧
    step wiring device s (.visible (.completion i)) = none

theorem completed_of_quiescent (hs : s.OnCourse) (hquiet : Quiescent wiring device s)
    {i : Nat} {save : Save Image} (hsave : s.saves[i]? = some save) :
    save.process.phase = .completed := by
  obtain ⟨hwrite, hbackground, hcompletion⟩ := hquiet i
  by_contra hphase
  rcases SaveProcess.exists_next (hs.process hsave) hphase with
    hnext | ⟨action, hnext⟩ | hnext
  · obtain ⟨p, hp⟩ := Option.isSome_iff_exists.mp hnext
    have hstep : step wiring device s (.visible (.saveUserProfile i true)) = some _ :=
      step_saveUserProfile.mpr ⟨save, hsave, p, hp, rfl⟩
    rw [hwrite true] at hstep
    cases hstep
  · obtain ⟨p, hp⟩ := Option.isSome_iff_exists.mp hnext
    have hstep : step wiring device s (.background i action) = some _ :=
      step_background.mpr ⟨save, hsave, p, hp, rfl⟩
    rw [hbackground action] at hstep
    cases hstep
  · obtain ⟨p, hp⟩ := Option.isSome_iff_exists.mp hnext
    have hstep : step wiring device s (.visible (.completion i)) = some _ :=
      step_completion.mpr ⟨save, hsave, p, hp, rfl⟩
    rw [hcompletion] at hstep
    cases hstep

theorem happened_of_quiescent {files : Files Data} {es : List (AppEvent Image)}
    (hrun : run (step wiring device) (start device files) es = some s)
    (hquiet : Quiescent wiring device s) {i : Nat} (hi : i < s.saves.length) :
    happened i es = [.write, .completion] := by
  have hsave := List.getElem?_eq_getElem hi
  have hs := onCourse_run hrun
  rw [happened_run hrun, TrackedProfile.milestones, getElem?_tracked hsave,
    Option.map_some, completed_of_quiescent hs hquiet hsave]
  rfl

/-! ## The queues come to rest -/

def isQueueStep : AppEvent Image → Bool
  | .visible (.user _) => false
  | .visible (.saveTapped _) => false
  | _ => true

def remaining (s : ProfileApp Image Data) : Nat :=
  (s.saves.map fun save => save.process.remaining).sum

omit [Unicode] in
theorem remaining_set {i : Nat} {save : Save Image} {p : SaveProcess}
    (hsave : s.saves[i]? = some save) (h : p.remaining < save.process.remaining) :
    ((s.saves.set i { save with process := p }).map
      fun save => save.process.remaining).sum < s.remaining :=
  sum_map_set_lt hsave h

theorem remaining_step {e : AppEvent Image} (hstep : step wiring device s e = some s') :
    (if isQueueStep e then 1 else 0) + s'.remaining + 8 * s.saves.length ≤
      s.remaining + 8 * s'.saves.length := by
  cases e with
  | background i action =>
      obtain ⟨save, hsave, p, hp, rfl⟩ := step_background.mp hstep
      have hlt := remaining_set hsave (SaveProcess.remaining_background hp)
      simp only [isQueueStep, remaining, List.length_set, if_true] at hlt ⊢
      omega
  | visible e =>
      cases e with
      | user e =>
          obtain ⟨screen, -, rfl⟩ := Option.map_eq_some_iff.mp hstep
          simp [isQueueStep, remaining]
      | saveTapped button =>
          obtain ⟨-, rfl⟩ := step_saveTapped.mp hstep
          have hfresh := SaveKind.remaining_fresh_le (wiring button)
          cases s.screen.captured device with
          | none => simp [isQueueStep, remaining]
          | some profile =>
              simp [isQueueStep, remaining]
              omega
      | saveUserProfile i created =>
          obtain ⟨save, hsave, p, hp, rfl⟩ := step_saveUserProfile.mp hstep
          have hlt := remaining_set hsave (SaveProcess.remaining_saveUserProfile hp)
          simp only [isQueueStep, remaining, List.length_set, if_true] at hlt ⊢
          omega
      | completion i =>
          obtain ⟨save, hsave, p, hp, rfl⟩ := step_completion.mp hstep
          have hlt := remaining_set hsave (SaveProcess.remaining_completion hp)
          simp only [isQueueStep, remaining, List.length_set, if_true] at hlt ⊢
          omega

theorem remaining_run {es : List (AppEvent Image)}
    (hrun : run (step wiring device) s es = some s') :
    es.countP isQueueStep + s'.remaining + 8 * s.saves.length ≤
      s.remaining + 8 * s'.saves.length := by
  induction es generalizing s with
  | nil =>
      cases hrun
      simp
  | cons e es ih =>
      obtain ⟨t, hstep, hrest⟩ := run_cons_eq_some.mp hrun
      have hfirst := remaining_step hstep
      have hrest := ih hrest
      rw [List.countP_cons]
      omega

/-! ## What a save writes -/

/-- A write stores the profile that the tap of its save captured. -/
theorem files_saveUserProfile {waiting after : ProfileApp Image Data}
    {button : SaveButton} {between : List (AppEvent Image)} {created : Bool}
    {profile : UserProfile Image} (hs : s.OnCourse)
    (hcaptured : s.screen.captured device = some profile)
    (hrun : run (step wiring device) s (.visible (.saveTapped button) :: between) =
      some waiting)
    (hwrite : step wiring device waiting
      (.visible (.saveUserProfile s.saves.length created)) = some after) :
    after.files =
      MainFileManager.saveUserProfile device created waiting.files profile := by
  obtain ⟨started, hstarted, rfl⟩ := profile_of_tap hs hcaptured hrun
  obtain ⟨save, hsave, p, -, rfl⟩ := step_saveUserProfile.mp hwrite
  obtain rfl := Option.some.inj (hsave.symm.trans hstarted)
  rfl

end

/-! ## The agreement -/

/-- Two wirings of the Save buttons have the same traces.  Under each of them a
save writes what its tap captured and then completes, each at most once, and both
have happened when no queue has a step left, after at most eight for each save. -/
theorem wirings_agree [Unicode] (device : Device Image Data) (files : Files Data)
    (wiring wiring' : Wiring) :
    Traces wiring device files = Traces wiring' device files ∧
    ∀ es s, run (step wiring device) (start device files) es = some s →
      (∀ i, happened i es <+: [.write, .completion]) ∧
      (Quiescent wiring device s →
        ∀ i < s.saves.length, happened i es = [.write, .completion]) ∧
      es.countP isQueueStep ≤ 8 * s.saves.length ∧
      ∀ button between waiting created after profile,
        s.screen.captured device = some profile →
        run (step wiring device) s (.visible (.saveTapped button) :: between) =
          some waiting →
        step wiring device waiting
          (.visible (.saveUserProfile s.saves.length created)) = some after →
        after.files =
          MainFileManager.saveUserProfile device created waiting.files profile := by
  refine ⟨Set.Subset.antisymm (traces_subset wiring wiring' device files)
    (traces_subset wiring' wiring device files), fun es s hrun => ⟨?_, ?_, ?_, ?_⟩⟩
  · intro i
    rw [happened_run hrun]
    exact TrackedProfile.milestones_prefix _ i
  · intro hquiet i hi
    exact happened_of_quiescent hrun hquiet hi
  · have hsteps := remaining_run hrun
    have hstart : (start device files).remaining = 0 := rfl
    omega
  · intro button between waiting created after profile hcaptured hwaiting hwrite
    have hs := onCourse_run hrun
    exact files_saveUserProfile hs hcaptured hwaiting hwrite

end ProfileApp

end Chatik
