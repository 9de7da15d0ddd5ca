import Chatik.Profile.ProfileApp

/-!
# Editing the profile

The buffers follow the text fields change by change: `shouldChangeCharactersIn`
puts the new text of a field into its buffer, if the range of the change
consists of whole characters, and compares it with what the buffer held.  Edit
and Cancel touch neither the texts nor the buffers.
-/

namespace Chatik

open Chatik.Library

variable {Image Data : Type}

/-! ## What a change keeps and what it finds -/

/-- The texts in the fields and in the buffers. -/
structure Draft where
  texts : TextFieldType → String
  buffers : TextFieldType → String

def ProfileViewController.draft (s : ProfileViewController Image) : Draft :=
  ⟨s.texts, s.buffer⟩

section

variable [Unicode]

/-- The event replaces whole characters in the field. -/
def keeps (field : TextFieldType) (texts : TextFieldType → String) :
    ProfileEvent Image → Bool
  | .user (.changeCharacters changed range _) =>
      decide (changed = field) && (characterRange? (texts field) range).isSome
  | _ => false

/-- What a change of whole characters finds to save: another text than the buffer
held, in its field or in the other one. -/
def Draft.decides (d : Draft) : ProfileEvent Image → Option Bool
  | .user (.changeCharacters field range string) =>
      (characterRange? (d.texts field) range).map fun textRange =>
        !sameText (replacingCharacters (d.texts field) textRange string)
            (d.buffers field) ||
          !sameText (d.texts field.other) (d.buffers field.other)
  | _ => none

def Draft.next (d : Draft) (e : ProfileEvent Image) : Draft where
  texts := TrackedProfile.typed d.texts e
  buffers := fun field =>
    if keeps field d.texts e then TrackedProfile.typed d.texts e field
    else d.buffers field

/-- The text of a field right after its last change of whole characters. -/
def lastKept (field : TextFieldType) :
    (TextFieldType → String) → List (ProfileEvent Image) → Option String
  | _, [] => none
  | texts, e :: es =>
      let texts' := TrackedProfile.typed texts e
      (lastKept field texts' es).or (if keeps field texts e then some (texts' field) else none)

/-- What the last change of whole characters found to save. -/
def Draft.lastDecision : Draft → List (ProfileEvent Image) → Option Bool
  | _, [] => none
  | d, e :: es => ((d.next e).lastDecision es).or (d.decides e)

theorem texts_foldl_next (d : Draft) (es : List (ProfileEvent Image)) :
    (es.foldl Draft.next d).texts = es.foldl TrackedProfile.typed d.texts := by
  induction es generalizing d with
  | nil => rfl
  | cons e es ih => exact ih (d.next e)

theorem Draft.lastDecision_append_singleton (d : Draft) (es : List (ProfileEvent Image))
    (e : ProfileEvent Image) :
    d.lastDecision (es ++ [e]) =
      ((es.foldl Draft.next d).decides e).or (d.lastDecision es) := by
  induction es generalizing d with
  | nil => simp [Draft.lastDecision]
  | cons first es ih =>
      rw [List.cons_append, Draft.lastDecision, ih, Draft.lastDecision, List.foldl_cons,
        Option.or_assoc]

theorem buffers_foldl_next (d : Draft) (es : List (ProfileEvent Image))
    (field : TextFieldType) :
    (es.foldl Draft.next d).buffers field =
      (lastKept field d.texts es).getD (d.buffers field) := by
  induction es generalizing d with
  | nil => rfl
  | cons e es ih =>
      rw [List.foldl_cons, ih]
      simp only [Draft.next, lastKept]
      cases lastKept field (TrackedProfile.typed d.texts e) es with
      | some text => rfl
      | none => by_cases h : keeps field d.texts e <;> simp [h]

end

/-! ## The screen follows the changes -/

namespace ProfileViewController

def savesEnabled (s : ProfileViewController Image) : Bool :=
  s.saveGSDButton.isEnabled && s.saveOperationButton.isEnabled

@[simp] theorem savesEnabled_setText (s : ProfileViewController Image)
    (field : TextFieldType) (text : String) :
    (s.setText field text).savesEnabled = s.savesEnabled := by
  cases field <;> rfl

@[simp] theorem savesEnabled_setSavingEnabled (s : ProfileViewController Image)
    (isSavingEnabled : Bool) :
    (s.setSavingEnabled isSavingEnabled).savesEnabled = isSavingEnabled := by
  simp [savesEnabled, setSavingEnabled]

variable [Unicode] {s s' : ProfileViewController Image}

theorem draft_handle {e : UserEvent Image} (h : s.handle e = some s') :
    s'.draft = s.draft.next (.user e) := by
  have htexts : s'.texts = TrackedProfile.typed s.texts (.user e) := texts_handle h
  refine congrArg₂ Draft.mk htexts (funext fun field => ?_)
  simp only [draft, ← htexts]
  rcases handle_eq_some h with ⟨rfl, rfl⟩ | ⟨rfl, rfl⟩ |
    ⟨changed, range, string, newText, rfl, hedited, rfl⟩ | ⟨editedImage, rfl, rfl⟩
  · cases field <;> rfl
  · cases field <;> rfl
  · cases hrange : characterRange? (s.textField changed).text range with
    | none =>
        rw [shouldChangeCharactersIn_none hrange]
        by_cases hfield : changed = field
        · subst hfield
          cases changed <;> simp [keeps, texts, hrange] <;> rfl
        · cases changed <;> cases field <;> first | rfl | exact absurd rfl hfield
    | some textRange =>
        rw [edited?_of_characterRange? hrange, Option.some.injEq] at hedited
        subst hedited
        rw [shouldChangeCharactersIn_some hrange]
        by_cases hfield : changed = field
        · subst hfield
          cases changed <;> simp [keeps, texts, hrange] <;> rfl
        · cases changed <;> cases field <;> first | rfl | exact absurd rfl hfield
  · cases editedImage <;> cases field <;> rfl

theorem savesEnabled_handle {e : UserEvent Image} (h : s.handle e = some s')
    (hedit : e ≠ .editProfilePressed) :
    s'.savesEnabled = (s.draft.decides (.user e)).getD s.savesEnabled := by
  rcases handle_eq_some h with ⟨rfl, rfl⟩ | ⟨rfl, rfl⟩ |
    ⟨changed, range, string, newText, rfl, hedited, rfl⟩ | ⟨editedImage, rfl, rfl⟩
  · exact absurd rfl hedit
  · rfl
  · cases hrange : characterRange? (s.textField changed).text range with
    | none =>
        simp [shouldChangeCharactersIn_none hrange, Draft.decides, draft, texts, hrange]
    | some textRange =>
        simp [shouldChangeCharactersIn_some hrange, Draft.decides, draft, texts, hrange]
  · cases editedImage <;> rfl

end ProfileViewController

/-- The events of an edit session: no save is tapped, and neither Edit nor Cancel. -/
def ProfileEvent.staysInSession : ProfileEvent Image → Bool
  | .user .editProfilePressed => false
  | .user .cancelButtonPressed => false
  | .saveTapped _ => false
  | _ => true

namespace TrackedProfile

variable [Unicode] {device : Device Image Data} {s s' : TrackedProfile Image Data}

theorem draft_step {e : ProfileEvent Image} (hstep : step device s e = some s') :
    s'.screen.draft = s.screen.draft.next e := by
  cases e with
  | user e =>
      obtain ⟨screen, hscreen, rfl⟩ := step_user.mp hstep
      exact ProfileViewController.draft_handle hscreen
  | saveTapped button =>
      obtain ⟨-, rfl⟩ := step_saveTapped.mp hstep
      exact congrArg₂ Draft.mk (ProfileViewController.texts_saveTapped device)
        (ProfileViewController.buffer_saveTapped device)
  | saveUserProfile i created =>
      obtain ⟨save, -, -, rfl⟩ := step_saveUserProfile.mp hstep
      rfl
  | completion i =>
      obtain ⟨save, -, -, rfl⟩ := step_completion.mp hstep
      exact congrArg₂ Draft.mk ProfileViewController.texts_saveCompleted
        ProfileViewController.buffer_saveCompleted

theorem draft_run {es : List (ProfileEvent Image)}
    (hrun : run (step device) s es = some s') :
    s'.screen.draft = es.foldl Draft.next s.screen.draft :=
  run_foldl (f := fun s : TrackedProfile Image Data => s.screen.draft)
    (fun _ _ _ hstep => draft_step hstep) hrun

theorem savesEnabled_step {e : ProfileEvent Image} (hstays : e.staysInSession = true)
    (hstep : step device s e = some s') :
    s'.screen.savesEnabled = (s.screen.draft.decides e).getD s.screen.savesEnabled := by
  cases e with
  | user e =>
      obtain ⟨screen, hscreen, rfl⟩ := step_user.mp hstep
      refine ProfileViewController.savesEnabled_handle hscreen ?_
      rintro rfl
      cases hstays
  | saveTapped button => cases hstays
  | saveUserProfile i created =>
      obtain ⟨save, -, -, rfl⟩ := step_saveUserProfile.mp hstep
      rfl
  | completion i =>
      obtain ⟨save, -, -, rfl⟩ := step_completion.mp hstep
      rfl

theorem savesEnabled_run {es : List (ProfileEvent Image)}
    (hstays : ∀ e ∈ es, e.staysInSession = true)
    (hrun : run (step device) s es = some s') :
    s'.screen.savesEnabled =
      (s.screen.draft.lastDecision es).getD s.screen.savesEnabled := by
  induction es generalizing s with
  | nil =>
      cases hrun
      rfl
  | cons e es ih =>
      obtain ⟨t, hstep, hrest⟩ := run_cons_eq_some.mp hrun
      rw [ih (fun e he => hstays e (List.mem_cons_of_mem _ he)) hrest, draft_step hstep,
        savesEnabled_step (hstays e List.mem_cons_self) hstep, Draft.lastDecision]
      cases (s.screen.draft.next e).lastDecision es <;> rfl

end TrackedProfile

/-! ## An edit session -/

structure EditSession [Unicode] (wiring : Wiring) (device : Device Image Data) where
  files : Files Data
  before : List (AppEvent Image)
  viewing : ProfileApp Image Data
  reachesEdit : run (ProfileApp.step wiring device) (.start device files) before =
    some viewing
  opened : ProfileApp Image Data
  opens : ProfileApp.step wiring device viewing (.visible (.user .editProfilePressed)) =
    some opened
  during : List (AppEvent Image)
  stays : ∀ e ∈ during.filterMap AppEvent.visible?, e.staysInSession = true
  edited : ProfileApp Image Data
  reachesEnd : run (ProfileApp.step wiring device) opened during = some edited

namespace EditSession

variable [Unicode] {wiring : Wiring} {device : Device Image Data}

/-- What the user did in the session. -/
def changes (c : EditSession wiring device) : List (ProfileEvent Image) :=
  c.during.filterMap AppEvent.visible?

theorem opened_eq (c : EditSession wiring device) :
    c.opened = { c.viewing with screen := c.viewing.screen.editProfilePressed } := by
  have hopens := c.opens
  simp only [ProfileApp.step, ProfileViewController.handle, Option.map_eq_some_iff,
    Option.ite_none_right_eq_some, Option.some.injEq] at hopens
  obtain ⟨screen, ⟨-, rfl⟩, hopened⟩ := hopens
  exact hopened.symm

theorem draft_opened (c : EditSession wiring device) :
    c.opened.screen.draft = c.viewing.screen.draft := by
  rw [c.opened_eq]
  refine congrArg₂ Draft.mk (funext fun field => ?_) (funext fun field => ?_) <;>
    cases field <;> rfl

theorem onCourse_opened (c : EditSession wiring device) : c.opened.OnCourse := by
  have hviewing := ProfileApp.onCourse_run c.reachesEdit
  rw [c.opened_eq]
  exact hviewing

theorem run_changes (c : EditSession wiring device) :
    run (TrackedProfile.step device) c.opened.tracked c.changes = some c.edited.tracked :=
  (ProfileApp.refines wiring device).run_spec c.onCourse_opened c.reachesEnd

theorem draft_edited (c : EditSession wiring device) :
    c.edited.screen.draft = c.changes.foldl Draft.next c.viewing.screen.draft := by
  rw [← c.draft_opened]
  exact TrackedProfile.draft_run c.run_changes

/-! ## Save is offered -/

/-- The texts after the changes are not those that the fields held at Edit. -/
def Differs (c : EditSession wiring device) : Prop :=
  ¬ ∀ field, sameText (c.changes.foldl TrackedProfile.typed c.viewing.screen.texts field)
    (c.viewing.screen.texts field) = true

/-- Both Save buttons are enabled exactly when the fields differ from what they held
at Edit. -/
def OffersExactly (c : EditSession wiring device) : Prop :=
  c.edited.screen.savesEnabled = true ↔
    ¬ ∀ field, sameText (c.edited.screen.texts field) (c.opened.screen.texts field) = true

theorem offersExactly_iff (c : EditSession wiring device) :
    c.OffersExactly ↔
      (c.viewing.screen.draft.lastDecision c.changes = some true ↔ c.Differs) := by
  have htexts : c.edited.screen.texts =
      c.changes.foldl TrackedProfile.typed c.viewing.screen.texts := by
    have hdraft := congrArg Draft.texts c.draft_edited
    rw [texts_foldl_next] at hdraft
    exact hdraft
  have hopened : c.opened.screen.texts = c.viewing.screen.texts :=
    congrArg Draft.texts c.draft_opened
  have hdisabled : c.opened.screen.savesEnabled = false := by
    rw [c.opened_eq]
    rfl
  have henabled : c.edited.screen.savesEnabled =
      (c.viewing.screen.draft.lastDecision c.changes).getD false := by
    rw [← c.draft_opened, ← hdisabled]
    exact TrackedProfile.savesEnabled_run c.stays c.run_changes
  unfold OffersExactly Differs
  rw [henabled, htexts, hopened]
  cases c.viewing.screen.draft.lastDecision c.changes with
  | none => simp
  | some found => simp

end EditSession

/-! ## Cancel -/

structure CancelledSession [Unicode] (wiring : Wiring) (device : Device Image Data)
    extends EditSession wiring device where
  after : ProfileApp Image Data
  cancels : ProfileApp.step wiring device edited (.visible (.user .cancelButtonPressed)) =
    some after

namespace CancelledSession

variable [Unicode] {wiring : Wiring} {device : Device Image Data}

/-- The fields and the buffers hold what they held before Edit. -/
def DiscardsEdit (c : CancelledSession wiring device) : Prop :=
  c.after.screen.texts = c.viewing.screen.texts ∧
    c.after.screen.buffer = c.viewing.screen.buffer

/-- The changes of each field lead back to its text, and its last change of whole
characters, if there is one, led to the text in its buffer. -/
def Undone (c : CancelledSession wiring device) : Prop :=
  ∀ field,
    c.changes.foldl TrackedProfile.typed c.viewing.screen.texts field =
      c.viewing.screen.texts field ∧
    ∀ text ∈ lastKept field c.viewing.screen.texts c.changes,
      text = c.viewing.screen.buffer field

theorem draft_after (c : CancelledSession wiring device) :
    c.after.screen.draft = c.changes.foldl Draft.next c.viewing.screen.draft := by
  have hcancels := c.cancels
  simp only [ProfileApp.step, ProfileViewController.handle, Option.map_eq_some_iff,
    Option.ite_none_right_eq_some, Option.some.injEq] at hcancels
  obtain ⟨screen, ⟨-, rfl⟩, hafter⟩ := hcancels
  rw [← c.draft_edited, ← hafter]
  refine congrArg₂ Draft.mk (funext fun field => ?_) (funext fun field => ?_) <;>
    cases field <;> rfl

/-- Cancel discards the edit exactly when the edit has undone itself. -/
theorem discardsEdit_iff (c : CancelledSession wiring device) :
    c.DiscardsEdit ↔ c.Undone := by
  have htexts : c.after.screen.texts =
      c.changes.foldl TrackedProfile.typed c.viewing.screen.texts := by
    have hdraft := congrArg Draft.texts c.draft_after
    rw [texts_foldl_next] at hdraft
    exact hdraft
  have hbuffer : ∀ field, c.after.screen.buffer field =
      (lastKept field c.viewing.screen.texts c.changes).getD
        (c.viewing.screen.buffer field) := by
    intro field
    have hdraft := congrArg (fun d : Draft => d.buffers field) c.draft_after
    rw [buffers_foldl_next] at hdraft
    exact hdraft
  unfold DiscardsEdit Undone
  rw [htexts, funext_iff, funext_iff, ← forall_and]
  refine forall_congr' fun field => and_congr_right fun _ => ?_
  rw [hbuffer field]
  cases lastKept field c.viewing.screen.texts c.changes with
  | none => simp
  | some text => simp

end CancelledSession

/-! ## The buffers hold what the fields show -/

namespace Draft

variable [Unicode]

def InStep (d : Draft) : Prop := d.buffers = d.texts

/-- A change replaces whole characters or leaves the text as it is. -/
def Follows (d : Draft) : ProfileEvent Image → Prop
  | .user (.changeCharacters field range string) =>
      (characterRange? (d.texts field) range).isSome ∨
        edited? (d.texts field) range string = some (d.texts field)
  | _ => True

/-- A change leaves the other field in step. -/
theorem InStep.next_other {d : Draft} {e : ProfileEvent Image} (h : d.InStep)
    {field other : TextFieldType} {range : NSRange} {string : String}
    (he : e = .user (.changeCharacters field range string)) (hne : other ≠ field) :
    (d.next e).buffers other = (d.next e).texts other := by
  have hkeeps : keeps other d.texts e = false := by
    simp [keeps, he, Ne.symm hne]
  have htyped : TrackedProfile.typed d.texts e other = d.texts other := by
    rw [he]
    exact Function.update_of_ne hne _ _
  simp [next, hkeeps, htyped, congrFun h other]

theorem InStep.next_iff {d : Draft} {e : ProfileEvent Image} (h : d.InStep)
    {field : TextFieldType} {range : NSRange} {string newText : String}
    (he : e = .user (.changeCharacters field range string))
    (hnew : edited? (d.texts field) range string = some newText) :
    (d.next e).InStep ↔
      (characterRange? (d.texts field) range).isSome ∨ newText = d.texts field := by
  have htext : TrackedProfile.typed d.texts e field = newText := by
    rw [he]
    simp [TrackedProfile.typed, ProfileViewController.typed, hnew]
  have hfield : (d.next e).InStep ↔ (d.next e).buffers field = newText := by
    refine ⟨fun hall => (congrFun hall field).trans htext, fun hsame => ?_⟩
    funext other
    by_cases hne : other = field
    · rw [hne, hsame]
      exact htext.symm
    · exact h.next_other he hne
  have hkeeps : keeps field d.texts e = (characterRange? (d.texts field) range).isSome := by
    simp [keeps, he]
  rw [hfield]
  simp only [next, hkeeps, htext]
  cases characterRange? (d.texts field) range with
  | none => simp [congrFun h field, eq_comm]
  | some textRange => simp

theorem inStep_next_iff {d : Draft} {e : ProfileEvent Image} (h : d.InStep)
    (hedited : ∀ field range string, e = .user (.changeCharacters field range string) →
      (edited? (d.texts field) range string).isSome) :
    (d.next e).InStep ↔ d.Follows e := by
  cases e with
  | user e =>
      cases e with
      | changeCharacters field range string =>
          obtain ⟨newText, hnew⟩ := Option.isSome_iff_exists.mp (hedited _ _ _ rfl)
          rw [h.next_iff rfl hnew, Follows, hnew, Option.some.injEq]
      | _ => exact iff_of_true h trivial
  | _ => exact iff_of_true h trivial

/-- In step, a change of whole characters finds something to save exactly when it
alters the text of its field. -/
theorem lastDecision_of_inStep {d : Draft} {es : List (ProfileEvent Image)}
    {field : TextFieldType} {range : NSRange} {string : String} {textRange : Nat × Nat}
    (h : (es.foldl next d).InStep)
    (hrange : characterRange? ((es.foldl next d).texts field) range = some textRange) :
    d.lastDecision (es ++ [.user (.changeCharacters field range string)]) =
      some (!sameText (replacingCharacters ((es.foldl next d).texts field) textRange string)
        ((es.foldl next d).texts field)) := by
  rw [lastDecision_append_singleton, decides, hrange, h]
  simp

end Draft

namespace ProfileApp

variable [Unicode] {wiring : Wiring} {device : Device Image Data}
  {s s' : ProfileApp Image Data}

/-- After the step the buffers hold what the fields show, and a save that it starts
captured what they showed before. -/
def SavesShown (s s' : ProfileApp Image Data) : Prop :=
  s'.screen.buffer = s'.screen.texts ∧
    ∀ save ∈ startedSaves s s', save.profile.text = s.screen.texts

def Follows (s : ProfileApp Image Data) : AppEvent Image → Prop
  | .visible e => s.screen.draft.Follows e
  | .background _ _ => True

/-- The saves that a step starts are the profiles that it captures. -/
theorem profiles_startedSaves {e : ProfileEvent Image} (hs : s.OnCourse)
    (hstep : step wiring device s (.visible e) = some s') :
    (startedSaves s s').map Save.profile = s.tracked.captured device e := by
  have hspec := (refines wiring device).simulates _ _ _ e hs hstep rfl
  have hprofiles := TrackedProfile.profiles_step hspec
  simp only [TrackedProfile.profiles, tracked, List.map_map] at hprofiles
  rw [startedSaves, List.map_drop]
  have hsaves : ∀ saves : List (Save Image),
      saves.map (TrackedSave.profile ∘ fun save => ⟨save.profile, save.process.phase⟩) =
        saves.map Save.profile := fun _ => rfl
  rw [hsaves, hsaves] at hprofiles
  rw [hprofiles, ← List.length_map (f := Save.profile), List.drop_left]
  rfl

theorem savesShown_iff_follows {e : AppEvent Image}
    (h : s.OnCourse ∧ s.screen.draft.InStep)
    (hstep : step wiring device s e = some s') : SavesShown s s' ↔ s.Follows e := by
  obtain ⟨hs, hinstep⟩ := h
  cases e with
  | background i action =>
      obtain ⟨save, -, process, -, rfl⟩ := step_background.mp hstep
      refine iff_of_true ⟨hinstep, fun other hother => ?_⟩ trivial
      rw [startedSaves, List.drop_eq_nil_of_le (by simp)] at hother
      cases hother
  | visible e =>
      have hspec := (refines wiring device).simulates _ _ _ e hs hstep rfl
      have hdraft : s'.screen.draft = s.screen.draft.next e :=
        TrackedProfile.draft_step hspec
      have hcaptured : ∀ save ∈ startedSaves s s',
          save.profile.text = s.screen.texts := by
        intro save hsave
        have hmem := List.mem_map_of_mem (f := Save.profile) hsave
        rw [profiles_startedSaves hs hstep] at hmem
        cases e with
        | saveTapped button =>
            rw [ProfileViewController.text_of_captured (Option.mem_toList.mp hmem)]
            exact hinstep
        | _ => cases hmem
      have hbuffer : s'.screen.buffer = s'.screen.texts ↔
          (s.screen.draft.next e).InStep := by
        rw [← hdraft]
        rfl
      rw [SavesShown, and_iff_left hcaptured, hbuffer, Draft.inStep_next_iff hinstep]
      · rfl
      · rintro field range string rfl
        obtain ⟨screen, hscreen, -⟩ := Option.map_eq_some_iff.mp hstep
        obtain ⟨-, newText, hnew, -⟩ :=
          ProfileViewController.changeCharacters_eq_some.mp hscreen
        exact Option.isSome_iff_exists.mpr ⟨newText, hnew⟩

/-- Every save captures the texts that the fields show exactly when every change
replaces whole characters or leaves its text as it is. -/
theorem savesShown_iff (wiring : Wiring) (device : Device Image Data)
    (files : Files Data) (es : List (AppEvent Image)) :
    EveryStep (step wiring device) (fun s _ s' => SavesShown s s') (start device files) es ↔
      EveryStep (step wiring device) (fun s e _ => s.Follows e) (start device files) es := by
  refine everyStep_congr (I := fun s => s.OnCourse ∧ s.screen.draft.InStep) ?_ ?_ ?_ es
  · intro s e s' h hstep
    exact savesShown_iff_follows h hstep
  · intro s e s' h hstep hshown
    exact ⟨h.1.step hstep, hshown.1⟩
  · refine ⟨onCourse_start device files, funext fun field => ?_⟩
    cases field <;> rfl

end ProfileApp

/-! ## Letters that are typed and replaced

A letter is replaced by itself, a letter is cancelled, and the accent of a letter
is deleted without the letter.
-/

section

attribute [local instance] asciiText

def replacedLetter : EditSession storyboardWiring phone where
  files := noFiles
  before := []
  viewing := .start phone noFiles
  reachesEdit := rfl
  opened := _
  opens := rfl
  during := [typeName "A" 0, replaceName ⟨0, 1⟩ "A"]
  stays := by simp [typeName, replaceName, AppEvent.visible?, ProfileEvent.staysInSession]
  edited := _
  reachesEnd := rfl

theorem not_offersExactly_replacedLetter : ¬ replacedLetter.OffersExactly := by
  intro hoffers
  have hdisabled : replacedLetter.edited.screen.savesEnabled = false := rfl
  have henabled := hoffers.mpr fun hsame => absurd (hsame .userName) (by decide)
  rw [hdisabled] at henabled
  cases henabled

def cancelledLetter : CancelledSession storyboardWiring phone where
  files := noFiles
  before := []
  viewing := .start phone noFiles
  reachesEdit := rfl
  opened := _
  opens := rfl
  during := [typeName "A" 0]
  stays := by simp [typeName, AppEvent.visible?, ProfileEvent.staysInSession]
  edited := _
  reachesEnd := rfl
  after := _
  cancels := rfl

theorem not_discardsEdit_cancelledLetter : ¬ cancelledLetter.DiscardsEdit := by
  intro hdiscards
  exact absurd (congrFun hdiscards.1 .userName) (by decide)

end

section

/-- A combining accent belongs to the character before it. -/
@[reducible] def combiningText : Unicode where
  normalForm := id
  isCharacterBoundary := fun scalars position =>
    decide (position ≤ scalars.length) &&
      (decide (position = 0) ||
        !scalars[position]?.any fun scalar =>
          decide (0x300 ≤ scalar.val) && decide (scalar.val ≤ 0x36f))

attribute [local instance] combiningText

def deletedAccent : List (AppEvent String) :=
  [.visible (.user .editProfilePressed), typeName "e\u0301" 0, replaceName ⟨1, 1⟩ ""]

theorem not_savesShown_deletedAccent :
    ¬ EveryStep (ProfileApp.step storyboardWiring phone)
      (fun s _ s' => ProfileApp.SavesShown s s') (.start phone noFiles) deletedAccent := by
  intro hsteps
  have hdeleted := (((hsteps _ rfl).2 _ rfl).2 _ rfl).1
  exact absurd (congrFun hdeleted.1 .userName) (by decide)

end

end Chatik
