import Chatik.Profile.ProfileApp

/-!
# What the profile screen shows

The controls of the two modes, the image and the activity indicator.  Edit hides
the button that changes the image and nothing shows it again; a picked image is
laid over the image that a save reads; and the indicator is stopped by every
completion, whatever else is under way.
-/

namespace Chatik

open Chatik.Library

variable {Image Data : Type}

/-! ## The two modes -/

/-- Which controls of the screen are visible, and which fields can be edited. -/
structure Controls where
  editButton : Bool
  editProfileImageButton : Bool
  cancelButton : Bool
  saveGSDButton : Bool
  saveOperationButton : Bool
  userNameTextField : Bool
  userInfoTextField : Bool
  deriving DecidableEq

def viewingMode : Controls where
  editButton := true
  editProfileImageButton := true
  cancelButton := false
  saveGSDButton := false
  saveOperationButton := false
  userNameTextField := false
  userInfoTextField := false

def editingMode : Controls where
  editButton := false
  editProfileImageButton := false
  cancelButton := true
  saveGSDButton := true
  saveOperationButton := true
  userNameTextField := true
  userInfoTextField := true

namespace ProfileViewController

def controls (s : ProfileViewController Image) : Controls where
  editButton := !s.editButton.isHidden
  editProfileImageButton := !s.editProfileImageButton.isHidden
  cancelButton := !s.cancelButton.isHidden
  saveGSDButton := !s.saveGSDButton.isHidden
  saveOperationButton := !s.saveOperationButton.isHidden
  userNameTextField := s.userNameTextField.isEnabled
  userInfoTextField := s.userInfoTextField.isEnabled

variable {s s' : ProfileViewController Image}

theorem controls_editProfilePressed : s.editProfilePressed.controls = editingMode := rfl

theorem controls_cancelButtonPressed :
    s.cancelButtonPressed.controls =
      { viewingMode with editProfileImageButton := s.controls.editProfileImageButton } := rfl

theorem controls_saveCompleted :
    s.saveCompleted.controls =
      { viewingMode with editProfileImageButton := s.controls.editProfileImageButton } := rfl

theorem controls_saveTapped (device : Device Image Data) :
    (s.saveTapped device).1.controls = s.controls := by
  rcases s.saveTapped_screen device with h | h <;> rw [h] <;> rfl

theorem controls_changeCharacters [Unicode] (field : TextFieldType) (range : NSRange)
    (string newText : String) :
    ((s.shouldChangeCharactersIn field range string).1.setText field newText).controls =
      s.controls := by
  rcases s.shouldChangeCharactersIn_cases field range string with h | ⟨_, _, h⟩ <;>
    rw [h] <;> cases field <;> rfl

/-- Edit and Cancel apart, an event of the user leaves the controls alone. -/
theorem controls_handle [Unicode] {e : UserEvent Image} (h : s.handle e = some s') :
    (e = .editProfilePressed ∧ s'.controls = editingMode) ∨
      (e = .cancelButtonPressed ∧ s.controls.cancelButton = true ∧ s'.controls =
        { viewingMode with editProfileImageButton := s.controls.editProfileImageButton }) ∨
      (e ≠ .cancelButtonPressed ∧ s'.controls = s.controls) := by
  cases e with
  | editProfilePressed =>
      simp only [handle, Option.ite_none_right_eq_some, Option.some.injEq] at h
      exact Or.inl ⟨rfl, h.2 ▸ controls_editProfilePressed⟩
  | cancelButtonPressed =>
      simp only [handle, Option.ite_none_right_eq_some, Option.some.injEq] at h
      have hvisible : s.controls.cancelButton = true := by
        have htappable := h.1
        simp only [Button.isTappable, Bool.and_eq_true] at htappable
        exact htappable.1
      exact Or.inr (Or.inl ⟨rfl, hvisible, h.2 ▸ controls_cancelButtonPressed⟩)
  | changeCharacters field range string =>
      obtain ⟨-, newText, -, hs'⟩ := changeCharacters_eq_some.mp h
      exact Or.inr (Or.inr ⟨by simp, hs' ▸ controls_changeCharacters field range string newText⟩)
  | finishPicking editedImage =>
      obtain rfl := Option.some.inj h
      refine Or.inr (Or.inr ⟨by simp, ?_⟩)
      cases editedImage <;> rfl

theorem saveButton_tappable {button : SaveButton}
    (h : (s.saveButton button).isTappable = true) : s.controls ≠ viewingMode := by
  intro hviewing
  simp only [Button.isTappable, Bool.and_eq_true] at h
  cases button with
  | saveGSDButton =>
      have hvisible : s.controls.saveGSDButton = true := h.1
      rw [hviewing] at hvisible
      cases hvisible
  | saveOperationButton =>
      have hvisible : s.controls.saveOperationButton = true := h.1
      rw [hviewing] at hvisible
      cases hvisible

end ProfileViewController

/-- Cancel and the completions end an edit. -/
def AppEvent.endsEdit : AppEvent Image → Bool
  | .visible (.user .cancelButtonPressed) => true
  | .visible (.completion _) => true
  | _ => false

namespace ProfileApp

variable [Unicode] {wiring : Wiring} {device : Device Image Data}
  {s s' : ProfileApp Image Data}

/-- The screen is in one of its modes after the step, and in viewing mode if the
step ends an edit. -/
def KeepsModes (e : AppEvent Image) (s' : ProfileApp Image Data) : Prop :=
  (s'.screen.controls = viewingMode ∨ s'.screen.controls = editingMode) ∧
    (e.endsEdit = true → s'.screen.controls = viewingMode)

/-- Before the first edit has ended, no save is started in viewing mode. -/
def InFirstEdit (s : ProfileApp Image Data) : Prop :=
  (s.screen.controls = viewingMode ∧ s.saves = []) ∨ s.screen.controls = editingMode

omit [Unicode] in
theorem InFirstEdit.editing {i : Nat} {save : Save Image} (h : s.InFirstEdit)
    (hsave : s.saves[i]? = some save) : s.screen.controls = editingMode := by
  rcases h with ⟨-, hempty⟩ | hediting
  · rw [hempty] at hsave
    cases hsave
  · exact hediting

/-- The first step that ends an edit leaves the screen between its modes. -/
theorem inFirstEdit_step {e : AppEvent Image} (h : s.InFirstEdit)
    (hstep : step wiring device s e = some s') :
    (e.endsEdit = false ∧ s'.InFirstEdit) ∨
      (e.endsEdit = true ∧
        s'.screen.controls = { viewingMode with editProfileImageButton := false }) := by
  cases e with
  | background i action =>
      obtain ⟨save, hsave, process, -, rfl⟩ := step_background.mp hstep
      exact Or.inl ⟨rfl, Or.inr (h.editing hsave)⟩
  | visible e =>
      cases e with
      | user e =>
          obtain ⟨screen, hscreen, rfl⟩ := Option.map_eq_some_iff.mp hstep
          rcases ProfileViewController.controls_handle hscreen with
            ⟨rfl, hcontrols⟩ | ⟨rfl, hvisible, hcontrols⟩ | ⟨he, hcontrols⟩
          · exact Or.inl ⟨rfl, Or.inr hcontrols⟩
          · have hediting : s.screen.controls = editingMode := by
              rcases h with ⟨hviewing, -⟩ | hediting
              · rw [hviewing] at hvisible
                cases hvisible
              · exact hediting
            rw [hediting] at hcontrols
            exact Or.inr ⟨rfl, hcontrols⟩
          · refine Or.inl ⟨?_, ?_⟩
            · cases e <;> first | rfl | exact absurd rfl he
            · simpa only [InFirstEdit, hcontrols] using h
      | saveTapped button =>
          obtain ⟨htappable, rfl⟩ := step_saveTapped.mp hstep
          have hediting : s.screen.controls = editingMode :=
            h.resolve_left fun hviewing =>
              ProfileViewController.saveButton_tappable htappable hviewing.1
          exact Or.inl ⟨rfl, Or.inr
            ((ProfileViewController.controls_saveTapped device).trans hediting)⟩
      | saveUserProfile i created =>
          obtain ⟨save, hsave, process, -, rfl⟩ := step_saveUserProfile.mp hstep
          exact Or.inl ⟨rfl, Or.inr (h.editing hsave)⟩
      | completion i =>
          obtain ⟨save, hsave, process, -, rfl⟩ := step_completion.mp hstep
          refine Or.inr ⟨rfl, ?_⟩
          rw [ProfileViewController.controls_saveCompleted, h.editing hsave]
          rfl

/-- The screen keeps to its two modes exactly until an edit ends. -/
theorem keepsModes_iff (wiring : Wiring) (device : Device Image Data) (files : Files Data)
    (es : List (AppEvent Image)) :
    EveryStep (step wiring device) (fun _ e s' => KeepsModes e s') (start device files) es ↔
      EveryStep (step wiring device) (fun _ e _ => e.endsEdit = false)
        (start device files) es := by
  refine everyStep_congr (I := InFirstEdit) ?_ ?_ (Or.inl ⟨rfl, rfl⟩) es
  · intro s e s' h hstep
    rcases inFirstEdit_step h hstep with ⟨he, hs'⟩ | ⟨he, hmixed⟩
    · refine iff_of_true ⟨?_, fun hends => ?_⟩ he
      · exact hs'.imp And.left id
      · rw [he] at hends
        cases hends
    · refine iff_of_false (fun hkeeps => ?_) (by simp [he])
      have hviewing := hkeeps.2 he
      rw [hmixed] at hviewing
      exact absurd hviewing (by decide)
  · intro s e s' h hstep hkeeps
    rcases inFirstEdit_step h hstep with ⟨-, hs'⟩ | ⟨he, hmixed⟩
    · exact hs'
    · have hviewing := hkeeps.2 he
      rw [hmixed] at hviewing
      exact absurd hviewing (by decide)

/-! ## The image -/

def editedImage? : AppEvent Image → Option Image
  | .visible (.user (.finishPicking editedImage)) => editedImage
  | _ => none

/-- The edited image of the last pick that had one. -/
def lastEdited (es : List (AppEvent Image)) : Option Image :=
  (es.filterMap editedImage?).getLast?

/-- The image that the user sees after the events. -/
def shownImage (device : Device Image Data) (es : List (AppEvent Image)) : Option Image :=
  (lastEdited es).or (device.systemImage "person.fill")

/-- `defaultProfileImageView` lies over `profileImageView`. -/
def visibleImage (s : ProfileApp Image Data) : Option Image :=
  s.screen.defaultProfileImageView.or s.screen.profileImageView

omit [Unicode] in
theorem lastEdited_append_singleton (es : List (AppEvent Image)) (e : AppEvent Image) :
    lastEdited (es ++ [e]) = (editedImage? e).or (lastEdited es) := by
  unfold lastEdited
  cases he : editedImage? e <;> simp [he]

theorem defaultProfileImageView_step {e : AppEvent Image}
    (hstep : step wiring device s e = some s') :
    s'.screen.defaultProfileImageView =
      (editedImage? e).or s.screen.defaultProfileImageView := by
  cases e with
  | background i action =>
      obtain ⟨save, -, process, -, rfl⟩ := step_background.mp hstep
      rfl
  | visible e =>
      cases e with
      | user e =>
          obtain ⟨screen, hscreen, rfl⟩ := Option.map_eq_some_iff.mp hstep
          rcases ProfileViewController.handle_eq_some hscreen with ⟨rfl, rfl⟩ |
            ⟨rfl, rfl⟩ | ⟨field, range, string, newText, rfl, -, rfl⟩ |
            ⟨editedImage, rfl, rfl⟩
          · rfl
          · rfl
          · rcases s.screen.shouldChangeCharactersIn_cases field range string with
              h | ⟨_, _, h⟩ <;> rw [h] <;> cases field <;> rfl
          · cases editedImage <;> rfl
      | saveTapped button =>
          obtain ⟨-, rfl⟩ := step_saveTapped.mp hstep
          rcases s.screen.saveTapped_screen device with h | h <;> simp only [h] <;> rfl
      | saveUserProfile i created =>
          obtain ⟨save, -, process, -, rfl⟩ := step_saveUserProfile.mp hstep
          rfl
      | completion i =>
          obtain ⟨save, -, process, -, rfl⟩ := step_completion.mp hstep
          rfl

theorem defaultProfileImageView_run {files : Files Data} {es : List (AppEvent Image)}
    (hrun : run (step wiring device) (start device files) es = some s) :
    s.screen.defaultProfileImageView = shownImage device es := by
  induction es using List.reverseRecOn generalizing s with
  | nil =>
      cases hrun
      rfl
  | append_singleton es e ih =>
      obtain ⟨t, hbefore, hlast⟩ := run_append_eq_some.mp hrun
      rw [run_singleton] at hlast
      rw [defaultProfileImageView_step hlast, ih hbefore, shownImage, shownImage,
        lastEdited_append_singleton, Option.or_assoc]

theorem savesSymbol_run {files : Files Data} {es : List (AppEvent Image)}
    (hrun : run (step wiring device) (start device files) es = some s) :
    s.tracked.SavesSymbol device :=
  TrackedProfile.savesSymbol_run
    ((refines wiring device).run_spec (onCourse_start device files) hrun)

theorem visibleImage_run {files : Files Data} {es : List (AppEvent Image)}
    (hrun : run (step wiring device) (start device files) es = some s) :
    s.visibleImage = shownImage device es := by
  have hnone : s.screen.profileImageView = none := (savesSymbol_run hrun).noImage
  rw [visibleImage, hnone, Option.or_none, defaultProfileImageView_run hrun]

/-- A save that a tap starts is given the image that the user sees at the tap. -/
def ImagesShown (wiring : Wiring) (device : Device Image Data) (files : Files Data)
    (es : List (AppEvent Image)) : Prop :=
  ∀ before button, before ++ [.visible (.saveTapped button)] <+: es →
    ∀ s s', run (step wiring device) (start device files) before = some s →
      step wiring device s (.visible (.saveTapped button)) = some s' →
        ∀ save ∈ startedSaves s s',
          some save.profile.userProfileImage = shownImage device before

/-- At a tap no pick has brought another image than the person symbol, the last one
with an edited image being what counts. -/
def SymbolPicked (wiring : Wiring) (device : Device Image Data) (files : Files Data)
    (es : List (AppEvent Image)) : Prop :=
  ∀ before button, before ++ [.visible (.saveTapped button)] <+: es →
    ∀ s s', run (step wiring device) (start device files) before = some s →
      step wiring device s (.visible (.saveTapped button)) = some s' →
        ∀ image ∈ lastEdited before, ∀ symbol ∈ device.systemImage "person.fill",
          image = symbol

/-- A tap starts a save if there is a person symbol, and the save is given it. -/
theorem saves_saveTapped {files : Files Data} {es : List (AppEvent Image)}
    {button : SaveButton} (hrun : run (step wiring device) (start device files) es = some s)
    (hstep : step wiring device s (.visible (.saveTapped button)) = some s') :
    (startedSaves s s').map (fun save => save.profile.userProfileImage) =
      (device.systemImage "person.fill").toList := by
  have hnone : s.screen.profileImageView = none := (savesSymbol_run hrun).noImage
  obtain ⟨-, rfl⟩ := step_saveTapped.mp hstep
  simp only [startedSaves, List.drop_left, ProfileViewController.captured,
    ProfileViewController.userImage, hnone, Option.none_or]
  cases device.systemImage "person.fill" <;> rfl

/-- What a run shows is the last edited image or the person symbol, and its saves
are given it exactly when the two are the same. -/
theorem imagesShown_iff (wiring : Wiring) (device : Device Image Data) (files : Files Data)
    (es : List (AppEvent Image)) :
    (∀ before s, run (step wiring device) (start device files) before = some s →
      s.visibleImage = shownImage device before) ∧
    (ImagesShown wiring device files es ↔ SymbolPicked wiring device files es) := by
  refine ⟨fun before s hrun => visibleImage_run hrun, ?_⟩
  refine forall₃_congr fun before button _ => forall₄_congr fun s s' hrun hstep => ?_
  have hsaves := saves_saveTapped hrun hstep
  have himages : (∀ save ∈ startedSaves s s',
      some save.profile.userProfileImage = shownImage device before) ↔
      ∀ image ∈ (device.systemImage "person.fill").toList,
        some image = shownImage device before := by
    rw [← hsaves, List.forall_mem_map]
  rw [himages, shownImage]
  cases device.systemImage "person.fill" with
  | none => simp
  | some symbol =>
      cases lastEdited before with
      | none => simp
      | some image => simp [eq_comm]

/-! ## The activity indicator -/

/-- Some save has not completed yet. -/
def SaveRunning (s : ProfileApp Image Data) : Prop :=
  ∃ save ∈ s.saves, save.process.phase ≠ .completed

/-- The indicator turns exactly while a save is running. -/
def IndicatesSaves (s : ProfileApp Image Data) : Prop :=
  s.screen.activityIndicator.isHidden = false ∧
      s.screen.activityIndicator.isAnimating = true ↔
    s.SaveRunning

/-- A completion comes when all other saves have completed. -/
def CompletesLast (s : ProfileApp Image Data) : AppEvent Image → Prop
  | .visible (.completion i) => ∀ j save, s.saves[j]? = some save → j ≠ i →
      save.process.phase = .completed
  | _ => True

omit [Unicode] in
theorem saveRunning_iff :
    s.SaveRunning ↔ false ∈ s.saves.map fun save => decide (save.process.phase = .completed) := by
  simp [SaveRunning]

omit [Unicode] in
theorem saveRunning_congr {saves : List (Save Image)}
    (h : saves.map (fun save => decide (save.process.phase = .completed)) =
      s.saves.map fun save => decide (save.process.phase = .completed)) :
    { s with saves := saves }.SaveRunning ↔ s.SaveRunning := by
  rw [saveRunning_iff, saveRunning_iff, h]

omit [Unicode] in
theorem not_saveRunning_set {i : Nat} (save : Save Image) {process : SaveProcess}
    (hafter : process.phase = .completed) :
    (¬ ∃ other ∈ s.saves.set i { save with process := process },
      other.process.phase ≠ .completed) ↔
      ∀ j other, s.saves[j]? = some other → j ≠ i → other.process.phase = .completed := by
  constructor
  · intro hnone j other hother hne
    by_contra hphase
    refine hnone ⟨other, List.mem_of_getElem? (i := j) ?_, hphase⟩
    rw [List.getElem?_set_ne (Ne.symm hne), hother]
  · rintro hall ⟨other, hother, hphase⟩
    obtain ⟨j, hj⟩ := List.getElem?_of_mem hother
    rcases getElem?_set_cases hj with ⟨hne, hold⟩ | ⟨-, rfl⟩
    · exact hphase (hall j other hold (Ne.symm hne))
    · exact hphase hafter

theorem activityIndicator_handle {screen : ProfileViewController Image} {e : UserEvent Image}
    (h : s.screen.handle e = some screen) :
    screen.activityIndicator = s.screen.activityIndicator := by
  rcases ProfileViewController.handle_eq_some h with ⟨-, rfl⟩ | ⟨-, rfl⟩ |
    ⟨field, range, string, newText, -, -, rfl⟩ | ⟨editedImage, -, rfl⟩
  · rfl
  · rfl
  · rcases s.screen.shouldChangeCharactersIn_cases field range string with h | ⟨_, _, h⟩ <;>
      rw [h] <;> cases field <;> rfl
  · cases editedImage <;> rfl

theorem indicatesSaves_saveTapped {button : SaveButton} (h : s.IndicatesSaves)
    (hstep : step wiring device s (.visible (.saveTapped button)) = some s') :
    s'.IndicatesSaves := by
  obtain ⟨-, rfl⟩ := step_saveTapped.mp hstep
  rw [ProfileViewController.saveTapped_eq, ProfileViewController.captured]
  cases s.screen.userImage device with
  | none =>
      simp only [Option.map_none, Option.toList_none, List.append_nil]
      exact h
  | some userImage =>
      let profile : UserProfile Image :=
        ⟨s.screen.userNameBuffer, s.screen.userInfoBuffer, userImage⟩
      refine iff_of_true ⟨rfl, rfl⟩ ⟨⟨profile, (wiring button).fresh⟩, ?_, ?_⟩
      · exact List.mem_append_right _ List.mem_cons_self
      · simp

theorem indicatesSaves_iff_completesLast {e : AppEvent Image}
    (h : s.OnCourse ∧ s.IndicatesSaves) (hstep : step wiring device s e = some s') :
    s'.IndicatesSaves ↔ s.CompletesLast e := by
  obtain ⟨hs, hindicates⟩ := h
  cases e with
  | background i action =>
      obtain ⟨save, hsave, process, hprocess, rfl⟩ := step_background.mp hstep
      have hphase := (SaveProcess.background_phase (hs.process hsave) hprocess).2
      refine iff_of_true (hindicates.trans (saveRunning_congr ?_).symm) trivial
      exact map_set_same hsave (by simp [hphase])
  | visible e =>
      cases e with
      | user e =>
          obtain ⟨screen, hscreen, rfl⟩ := Option.map_eq_some_iff.mp hstep
          refine iff_of_true ?_ trivial
          simp only [IndicatesSaves, activityIndicator_handle hscreen]
          exact hindicates
      | saveTapped button =>
          exact iff_of_true (indicatesSaves_saveTapped hindicates hstep) trivial
      | saveUserProfile i created =>
          obtain ⟨save, hsave, process, hprocess, rfl⟩ := step_saveUserProfile.mp hstep
          obtain ⟨-, hpending, hwritten⟩ :=
            SaveProcess.saveUserProfile_phase (hs.process hsave) hprocess
          refine iff_of_true (hindicates.trans (saveRunning_congr ?_).symm) trivial
          exact map_set_same hsave (by simp [hpending, hwritten])
      | completion i =>
          obtain ⟨save, hsave, process, hprocess, rfl⟩ := step_completion.mp hstep
          have hcompleted := (SaveProcess.completion_phase (hs.process hsave) hprocess).2.2
          -- the indicator stands still now, so no save may be running
          have hstopped : s.screen.saveCompleted.activityIndicator = ⟨false, false⟩ := rfl
          rw [CompletesLast, ← not_saveRunning_set save hcompleted, IndicatesSaves, hstopped]
          simp [SaveRunning]

/-- The indicator tells whether a save is running exactly as long as no completion
leaves another save running. -/
theorem indicatesSaves_iff (wiring : Wiring) (device : Device Image Data)
    (files : Files Data) (es : List (AppEvent Image)) :
    EveryStep (step wiring device) (fun _ _ s' => s'.IndicatesSaves)
        (start device files) es ↔
      EveryStep (step wiring device) (fun s e _ => s.CompletesLast e)
        (start device files) es := by
  refine everyStep_congr (I := fun s => s.OnCourse ∧ s.IndicatesSaves) ?_ ?_ ?_ es
  · intro s e s' h hstep
    exact indicatesSaves_iff_completesLast h hstep
  · intro s e s' h hstep hindicates
    exact ⟨h.1.step hstep, hindicates⟩
  · refine ⟨onCourse_start device files, iff_of_false (fun h => by cases h.1) ?_⟩
    rintro ⟨save, hsave, -⟩
    cases hsave

end ProfileApp

/-! ## One edit and one pick

A cancelled edit, a picture picked before a save, and a save that completes while
a later one is under way.
-/

section

attribute [local instance] asciiText

def cancelledEdit : List (AppEvent String) :=
  [.visible (.user .editProfilePressed), .visible (.user .cancelButtonPressed)]

theorem not_keepsModes_cancelledEdit :
    ¬ EveryStep (ProfileApp.step storyboardWiring phone)
      (fun _ e s' => ProfileApp.KeepsModes e s') (.start phone noFiles) cancelledEdit := by
  intro hsteps
  have hcancelled := ((hsteps _ rfl).2 _ rfl).1
  exact absurd (hcancelled.2 rfl) (by decide)

def pickedCar : List (AppEvent String) :=
  [.visible (.user (.finishPicking (some "car.fill"))),
    .visible (.user .editProfilePressed), typeName "A" 0]

def pickedApp : ProfileApp String FileData :=
  (run (ProfileApp.step storyboardWiring phone) (.start phone noFiles) pickedCar).getD
    (.start phone noFiles)

theorem not_imagesShown_pickedCar :
    ¬ ProfileApp.ImagesShown storyboardWiring phone noFiles
      (pickedCar ++ [.visible (.saveTapped .saveGSDButton)]) := by
  intro hshown
  have himage := hshown pickedCar .saveGSDButton List.prefix_rfl pickedApp _ rfl rfl
    ⟨⟨"A", "", "person.fill"⟩, .gcd .queued⟩ (List.mem_singleton_self _)
  exact absurd himage (by decide)

def overlappingSaves : List (AppEvent String) :=
  [.visible (.user .editProfilePressed), typeName "A" 0,
    .visible (.saveTapped .saveGSDButton), typeName "B" 1,
    .visible (.saveTapped .saveGSDButton), .visible (.saveUserProfile 0 true),
    .background 0 .mainAsync, .visible (.completion 0)]

theorem not_indicatesSaves_overlappingSaves :
    ¬ EveryStep (ProfileApp.step storyboardWiring phone)
      (fun _ _ s' => s'.IndicatesSaves) (.start phone noFiles) overlappingSaves := by
  intro hsteps
  have hedit := (hsteps _ rfl).2 _ rfl
  have hsecond := ((hedit.2 _ rfl).2 _ rfl).2 _ rfl
  have hcompleted := (((hsecond.2 _ rfl).2 _ rfl).2 _ rfl).1
  have hrunning := hcompleted.mpr (ProfileApp.saveRunning_iff.mpr (by decide))
  exact absurd hrunning.2 (by decide)

end

end Chatik
