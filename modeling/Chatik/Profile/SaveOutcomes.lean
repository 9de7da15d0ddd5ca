import Chatik.Profile.SaveOrder

/-!
# Saves that fail

`saveUserProfile` gives up at the first step that fails and returns nothing, and
both handlers run the completion after it all the same.  So what the end of an
edit says about the file depends on the steps of the one write that happened
between the tap and the completion.
-/

namespace Chatik

open Chatik.Library MainFileManager

variable {Image Data : Type}

/-! ## The one write of a save -/

namespace TrackedProfile

variable [Unicode] {device : Device Image Data} {s s' t : TrackedProfile Image Data}

def OnlyPending (s : TrackedProfile Image Data) (n : Nat) : Prop :=
  ∀ i save, s.saves[i]? = some save → save.phase = .pending → i = n

omit [Unicode] in
theorem allWritten_of_onlyPending {n : Nat} {save : TrackedSave Image}
    (h : s.OnlyPending n) (hsave : s.saves[n]? = some save) (hphase : save.phase ≠ .pending) :
    s.AllWritten := by
  intro other hother hpending
  obtain ⟨i, hi⟩ := List.getElem?_of_mem hother
  obtain rfl := h i other hi hpending
  obtain rfl := Option.some.inj (hsave.symm.trans hi)
  exact hphase hpending

/-- Without a tap no save becomes pending. -/
theorem getElem?_of_pending {e : ProfileEvent Image} (htap : ∀ button, e ≠ .saveTapped button)
    (hstep : step device s e = some s') {i : Nat} {save : TrackedSave Image}
    (hsave : s'.saves[i]? = some save) (hphase : save.phase = .pending) :
    s.saves[i]? = some save := by
  have hset : ∀ {j : Nat} {other : TrackedSave Image} {phase : SavePhase},
      phase ≠ .pending → (s.saves.set j { other with phase := phase })[i]? = some save →
        s.saves[i]? = some save := by
    intro j other phase hne hset
    rcases getElem?_set_cases hset with ⟨-, hold⟩ | ⟨-, rfl⟩
    · exact hold
    · exact absurd hphase hne
  cases e with
  | user e =>
      obtain ⟨screen, -, rfl⟩ := step_user.mp hstep
      exact hsave
  | saveTapped button => exact absurd rfl (htap button)
  | saveUserProfile j created =>
      obtain ⟨other, -, -, rfl⟩ := step_saveUserProfile.mp hstep
      exact hset (by decide) hsave
  | completion j =>
      obtain ⟨other, -, -, rfl⟩ := step_completion.mp hstep
      exact hset (by decide) hsave

theorem onlyPending_step {e : ProfileEvent Image} {n : Nat} (h : s.OnlyPending n)
    (htap : ∀ button, e ≠ .saveTapped button) (hstep : step device s e = some s') :
    s'.OnlyPending n := fun i save hsave hphase =>
  h i save (getElem?_of_pending htap hstep hsave hphase) hphase

theorem allWritten_step {e : ProfileEvent Image} (h : s.AllWritten)
    (htap : ∀ button, e ≠ .saveTapped button) (hstep : step device s e = some s') :
    s'.AllWritten := by
  intro save hsave hphase
  obtain ⟨i, hi⟩ := List.getElem?_of_mem hsave
  exact h save (List.mem_of_getElem? (getElem?_of_pending htap hstep hi hphase)) hphase

/-- Once all saves have written, nothing is written without a tap. -/
theorem files_run_of_allWritten {es : List (ProfileEvent Image)} (hwritten : s.AllWritten)
    (htaps : ∀ button, .saveTapped button ∉ es) (hrun : run (step device) s es = some t) :
    t.files = s.files ∧ ∀ i created, .saveUserProfile i created ∉ es := by
  induction es generalizing s with
  | nil =>
      cases hrun
      exact ⟨rfl, fun i created => List.not_mem_nil⟩
  | cons e es ih =>
      obtain ⟨u, hstep, hrest⟩ := run_cons_eq_some.mp hrun
      have hnotap : ∀ button, e ≠ .saveTapped button :=
        fun button he => htaps button (he ▸ List.mem_cons_self)
      have hnowrite : ∀ i created, e ≠ .saveUserProfile i created := by
        rintro i created rfl
        obtain ⟨save, hsave, hphase, -⟩ := step_saveUserProfile.mp hstep
        exact hwritten save (List.mem_of_getElem? hsave) hphase
      obtain ⟨hfiles, hwrites⟩ := ih (allWritten_step hwritten hnotap hstep)
        (fun button hb => htaps button (List.mem_cons_of_mem _ hb)) hrest
      have hwriter : writer? e = none := by
        cases hw : writer? e with
        | none => rfl
        | some i =>
            obtain ⟨created, rfl⟩ := writer?_eq_some.mp hw
            exact absurd rfl (hnowrite i created)
      refine ⟨hfiles.trans (files_step hstep hwriter), fun i created hmem => ?_⟩
      rcases List.mem_cons.mp hmem with he | hmem
      · exact hnowrite i created he.symm
      · exact hwrites i created hmem

/-- The only pending save writes once before it has written. -/
theorem files_run_of_onlyPending {es : List (ProfileEvent Image)} {n : Nat}
    {save : TrackedSave Image} (honly : s.OnlyPending n) (hsave : s.saves[n]? = some save)
    (htaps : ∀ button, .saveTapped button ∉ es) (hrun : run (step device) s es = some t)
    (hpending : save.phase = .pending) (hwritten : t.AllWritten) :
    ∃ created, t.files = saveUserProfile device created s.files save.profile ∧
      ∀ outcome, .saveUserProfile n outcome ∈ es ↔ outcome = created := by
  induction es generalizing s with
  | nil =>
      cases hrun
      exact absurd hpending (hwritten save (List.mem_of_getElem? hsave))
  | cons e es ih =>
      obtain ⟨u, hstep, hrest⟩ := run_cons_eq_some.mp hrun
      have hnotap : ∀ button, e ≠ .saveTapped button :=
        fun button he => htaps button (he ▸ List.mem_cons_self)
      have hlater : ∀ button, .saveTapped button ∉ es :=
        fun button hb => htaps button (List.mem_cons_of_mem _ hb)
      have hu := onlyPending_step honly hnotap hstep
      cases e with
      | saveTapped button => exact absurd rfl (hnotap button)
      | user e =>
          obtain ⟨screen, -, rfl⟩ := step_user.mp hstep
          obtain ⟨created, hfiles, hevents⟩ := ih hu hsave hlater hrest
          exact ⟨created, hfiles, fun outcome => by simpa using hevents outcome⟩
      | completion i =>
          obtain ⟨other, hother, hphase, rfl⟩ := step_completion.mp hstep
          have hi : i ≠ n := by
            rintro rfl
            obtain rfl := Option.some.inj (hother.symm.trans hsave)
            rw [hphase] at hpending
            cases hpending
          have hsame : (s.saves.set i { other with phase := .completed })[n]? = some save := by
            rw [List.getElem?_set_ne hi, hsave]
          obtain ⟨created, hfiles, hevents⟩ := ih hu hsame hlater hrest
          exact ⟨created, hfiles, fun outcome => by simpa using hevents outcome⟩
      | saveUserProfile i created =>
          obtain ⟨other, hother, hphase, rfl⟩ := step_saveUserProfile.mp hstep
          obtain rfl := honly i other hother hphase
          obtain rfl := Option.some.inj (hother.symm.trans hsave)
          have hi : i < s.saves.length := (List.getElem?_eq_some_iff.mp hother).1
          have hwrote : SavePhase.written ≠ .pending := by decide
          have hall := allWritten_of_onlyPending hu (List.getElem?_set_self hi) hwrote
          obtain ⟨hfiles, hwrites⟩ := files_run_of_allWritten hall hlater hrest
          refine ⟨created, hfiles, fun outcome => ?_⟩
          simp [hwrites i outcome]

theorem onlyPending_run {es : List (ProfileEvent Image)} {n : Nat} (h : s.OnlyPending n)
    (htaps : ∀ button, .saveTapped button ∉ es) (hrun : run (step device) s es = some t) :
    t.OnlyPending n :=
  run_invariant_of_forall (A := fun e => ∀ button, e ≠ .saveTapped button)
    (fun _ _ _ hnotap hstep hs => onlyPending_step hs hnotap hstep) hrun
    (fun _ he button => ne_of_mem_of_not_mem he (htaps button)) h

end TrackedProfile

/-! ## A save alone

A run up to the completion of a save, with no other save in flight from its tap
to its completion.
-/

structure LoneSave [Unicode] (wiring : Wiring) (device : Device Image Data)
    extends SaveCompletion wiring device where
  noneInFlight : ∀ save ∈ tapped.saves, save.process.phase = .completed
  noneTapped : ∀ other, .visible (.saveTapped other) ∉ between

namespace LoneSave

variable [Unicode] {wiring : Wiring} {device : Device Image Data}

/-- If the completion ends an edit, the file holds what the save captured. -/
def ReportsOnlySaved (c : LoneSave wiring device) : Prop :=
  c.waiting.screen.isEditing = true → c.after.screen.isEditing = false →
    Holds device c.after.files c.captured

/-- In an edit that the completion would end, every step of the write succeeded, or
the file held the captured profile at the tap already. -/
def Stores (c : LoneSave wiring device) : Prop :=
  c.waiting.screen.isEditing = true →
    (∀ created, .visible (.saveUserProfile c.tapped.saves.length created) ∈ c.between →
      SaveSucceeds device created c.captured) ∨
    Holds device c.tapped.files c.captured

theorem files_after (c : LoneSave wiring device) :
    ∃ created, c.after.files = saveUserProfile device created c.tapped.files c.captured ∧
      ∀ outcome, .visible (.saveUserProfile c.tapped.saves.length outcome) ∈ c.between ↔
        outcome = created := by
  have hspec := (ProfileApp.refines wiring device).run_spec c.onCourse_tapped
    c.reachesCompletion
  obtain ⟨started, htap, hbetween⟩ := run_cons_eq_some.mp hspec
  have hstarted : started = { c.tapped.tracked with
      screen := (c.tapped.screen.saveTapped device).1
      saves := c.tapped.tracked.saves ++ [⟨c.captured, .pending⟩] } := by
    obtain ⟨-, hstarted⟩ := TrackedProfile.step_saveTapped.mp htap
    have hcaptured : c.tapped.tracked.screen.captured device = some c.captured := c.captures
    rw [ProfileViewController.saveTapped_captured, hcaptured] at hstarted
    exact hstarted.symm
  have hlength : c.tapped.tracked.saves.length = c.tapped.saves.length := by
    simp [ProfileApp.tracked]
  have hsave : started.saves[c.tapped.saves.length]? = some ⟨c.captured, .pending⟩ := by
    rw [hstarted, ← hlength]
    simp
  have honly : started.OnlyPending c.tapped.saves.length := by
    intro i save hi hpending
    by_contra hne
    have hbefore : save ∈ c.tapped.tracked.saves := by
      rw [hstarted, List.getElem?_append] at hi
      split at hi
      · exact List.mem_of_getElem? hi
      · rename_i hge
        have hindex := (List.getElem?_eq_some_iff.mp hi).1
        simp only [List.length_singleton] at hindex
        omega
    obtain ⟨source, hsource, rfl⟩ := List.mem_map.mp hbefore
    rw [c.noneInFlight source hsource] at hpending
    cases hpending
  have htaps : ∀ button, .saveTapped button ∉ c.between.filterMap AppEvent.visible? :=
    fun button hb => c.noneTapped button (AppEvent.mem_filterMap_visible.mp hb)
  obtain ⟨save, hwaiting, process, hprocess, hafter⟩ :=
    ProfileApp.step_completion.mp c.completes
  have hcourse := (ProfileApp.refines wiring device).invariant c.onCourse_tapped
    c.reachesCompletion
  have hphase := (SaveProcess.completion_phase (hcourse.process hwaiting) hprocess).2.1
  have hwritten : c.waiting.tracked.AllWritten := by
    refine TrackedProfile.allWritten_of_onlyPending
      (TrackedProfile.onlyPending_run honly htaps hbetween)
      (ProfileApp.getElem?_tracked hwaiting) ?_
    rw [hphase]
    exact SavePhase.noConfusion
  obtain ⟨created, hfiles, hevents⟩ := TrackedProfile.files_run_of_onlyPending honly hsave
    htaps hbetween rfl hwritten
  refine ⟨created, ?_, fun outcome => AppEvent.mem_filterMap_visible.symm.trans (hevents outcome)⟩
  have hsame : c.after.files = c.waiting.tracked.files := by
    rw [← hafter]
    rfl
  rw [hsame, hfiles, hstarted]
  rfl

/-- The end of an edit reports only profiles that are saved exactly when the write
stores them. -/
theorem reportsOnlySaved_iff (hcodecs : device.InverseCodecs) (c : LoneSave wiring device) :
    c.ReportsOnlySaved ↔ c.Stores := by
  obtain ⟨created, hfiles, hevents⟩ := c.files_after
  unfold ReportsOnlySaved Stores
  refine imp_congr_right fun _ => ?_
  rw [imp_iff_right c.isEditing_after, hfiles, holds_saveUserProfile_iff hcodecs]
  have hsucceeds : (∀ outcome,
      .visible (.saveUserProfile c.tapped.saves.length outcome) ∈ c.between →
        SaveSucceeds device outcome c.captured) ↔
      SaveSucceeds device created c.captured := by
    constructor
    · intro h
      exact h created ((hevents created).mpr rfl)
    · intro h outcome houtcome
      rwa [(hevents outcome).mp houtcome]
  rw [hsucceeds]

end LoneSave

/-! ## A write that fails

`createFile` fails once, and the edit ends with nothing in the file; if it
succeeds, the edit ends with the letter in the file.
-/

section

attribute [local instance] asciiText

def letterSaved (created : Bool) : ProfileApp String FileData :=
  (run (ProfileApp.step storyboardWiring phone) typedBefore
    [.visible (.saveTapped .saveGSDButton), .visible (.saveUserProfile 0 created),
      .background 0 .mainAsync]).getD typedBefore

theorem run_typedBefore : run (ProfileApp.step storyboardWiring phone)
    (.start phone noFiles) [.visible (.user .editProfilePressed), typeName "A" 0] =
      some typedBefore := (Option.some_get _).symm

theorem typedBefore_saves : typedBefore.saves = [] := by rfl

theorem captured_typedBefore :
    typedBefore.screen.captured phone = some ⟨"A", "", "person.fill"⟩ := rfl

def letterSave (created : Bool) : LoneSave storyboardWiring phone where
  files := noFiles
  before := [.visible (.user .editProfilePressed), typeName "A" 0]
  tapped := typedBefore
  reachesTap := run_typedBefore
  captured := ⟨"A", "", "person.fill"⟩
  captures := captured_typedBefore
  button := .saveGSDButton
  between := [.visible (.saveUserProfile 0 created), .background 0 .mainAsync]
  waiting := letterSaved created
  reachesCompletion := by cases created <;> rfl
  after := ((ProfileApp.step storyboardWiring phone (letterSaved created)
    (.visible (.completion 0))).getD typedBefore)
  completes := by cases created <;> rfl
  noneInFlight := by simp [typedBefore_saves]
  noneTapped := by simp

theorem reportsOnlySaved_letterSave : (letterSave true).ReportsOnlySaved := by
  refine (LoneSave.reportsOnlySaved_iff phone_inverseCodecs _).mpr fun _ => Or.inl ?_
  intro created hcreated
  obtain rfl : created = true := by
    simpa [letterSave, typedBefore_saves] using hcreated
  refine ⟨rfl, rfl, rfl, rfl, fun dictionary hdictionary => ?_, rfl⟩
  obtain rfl := Option.some.inj hdictionary
  rfl

theorem not_reportsOnlySaved_letterSave : ¬ (letterSave false).ReportsOnlySaved := by
  intro hreports
  obtain ⟨dictionary, hstored, -⟩ := hreports (by decide) (by decide)
  cases hstored

end

end Chatik
