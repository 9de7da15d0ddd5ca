import Chatik.Profile.ProfileApp

/-!
# Overlapping saves

The Save buttons are disabled by a tap, and enabled again by the next edit of a
text, also while the save is still under way.  So two saves can be pending at
once, their writes can come in either order, and a completion can end an edit
that began after its tap.
-/

namespace Chatik

open Chatik.Library MainFileManager

variable {Image Data : Type}

namespace ProfileApp

/-! ## The last save -/

def AllWritten (s : ProfileApp Image Data) : Prop :=
  ∀ save ∈ s.saves, save.process.phase ≠ .pending

/-- When the run has written every save, the file holds the profile of the save
tapped last. -/
def LastSaveWins [Unicode] (wiring : Wiring) (device : Device Image Data)
    (files : Files Data) (es : List (AppEvent Image)) : Prop :=
  ∀ s, run (step wiring device) (start device files) es = some s → s.AllWritten →
    ∀ save ∈ s.saves.getLast?, Holds device s.files save.profile

/-- The save whose write comes last. -/
def lastWriter (es : List (AppEvent Image)) : Option Nat :=
  TrackedProfile.lastWriter (es.filterMap AppEvent.visible?)

/-- The save written last captured the same data as the save tapped last. -/
def LastWriterAgrees [Unicode] (wiring : Wiring) (device : Device Image Data)
    (files : Files Data) (es : List (AppEvent Image)) : Prop :=
  ∀ s, run (step wiring device) (start device files) es = some s → s.AllWritten →
    ∀ save ∈ s.saves.getLast?, ∀ i ∈ lastWriter es, ∀ writer,
      s.saves[i]? = some writer →
        savingData device writer.profile = savingData device save.profile

section

variable [Unicode] {wiring : Wiring} {device : Device Image Data}
  {s : ProfileApp Image Data}

theorem exists_lastWriter {files : Files Data} {es : List (AppEvent Image)}
    (hrun : run (step wiring device) (start device files) es = some s)
    (hwritten : s.AllWritten) {save : Save Image} (hsave : save ∈ s.saves) :
    ∃ i, lastWriter es = some i := by
  have hspec := (refines wiring device).run_spec (onCourse_start device files) hrun
  obtain ⟨i, hi⟩ := List.getElem?_of_mem hsave
  exact TrackedProfile.exists_lastWriter hspec (getElem?_tracked hi)
    (hwritten save hsave)

theorem holds_lastWriter (hdevice : device.Healthy) {files : Files Data}
    {es : List (AppEvent Image)}
    (hcreated : ∀ i, .visible (.saveUserProfile i false) ∉ es)
    (hrun : run (step wiring device) (start device files) es = some s) {i : Nat}
    (hi : lastWriter es = some i) :
    ∃ writer, s.saves[i]? = some writer ∧ Holds device s.files writer.profile := by
  have hspec := (refines wiring device).run_spec (onCourse_start device files) hrun
  have hvisible : ∀ j, .saveUserProfile j false ∉ es.filterMap AppEvent.visible? :=
    fun j hj => hcreated j (AppEvent.mem_filterMap_visible.mp hj)
  obtain ⟨profile, hprofile, hholds⟩ :=
    TrackedProfile.holds_lastWriter hdevice hvisible hspec hi
  simp only [TrackedProfile.profiles, tracked, List.map_map, List.getElem?_map,
    Option.map_eq_some_iff] at hprofile
  obtain ⟨writer, hwriter, rfl⟩ := hprofile
  exact ⟨writer, hwriter, hholds⟩

/-- If all writes succeed, the last save wins exactly when the save written last
captured what the save tapped last did. -/
theorem lastSaveWins_iff (wiring : Wiring) (hdevice : device.Healthy)
    (files : Files Data) (es : List (AppEvent Image))
    (hcreated : ∀ i, .visible (.saveUserProfile i false) ∉ es) :
    LastSaveWins wiring device files es ↔ LastWriterAgrees wiring device files es := by
  refine forall₃_congr fun s hrun hwritten => forall₂_congr fun save hsave => ?_
  obtain ⟨i, hi⟩ :=
    exists_lastWriter hrun hwritten (List.mem_of_mem_getLast? hsave)
  obtain ⟨writer, hwriter, hholds⟩ := holds_lastWriter hdevice hcreated hrun hi
  rw [holds_congr hholds]
  constructor
  · intro hsame j hj other hother
    obtain rfl := Option.some.inj (hi.symm.trans hj)
    obtain rfl := Option.some.inj (hwriter.symm.trans hother)
    exact hsame.symm
  · intro hagrees
    exact (hagrees i hi writer hwriter).symm

/-! ## Saves in turn -/

/-- A Save button is tapped only when all earlier saves have written. -/
def SavesInTurn (wiring : Wiring) (device : Device Image Data) (files : Files Data)
    (es : List (AppEvent Image)) : Prop :=
  EveryStep (step wiring device)
    (fun s e _ => ∀ button, e = .visible (.saveTapped button) → s.AllWritten)
    (start device files) es

omit [Unicode] in
theorem allWritten_tracked (h : s.AllWritten) : s.tracked.AllWritten := by
  intro save hsave
  obtain ⟨source, hsource, rfl⟩ := List.mem_map.mp hsave
  exact h source hsource

theorem inTurn_run {files : Files Data} {es : List (AppEvent Image)}
    (hrun : run (step wiring device) (start device files) es = some s)
    (hturn : SavesInTurn wiring device files es) :
    s.tracked.InTurn (lastWriter es) := by
  induction es using List.reverseRecOn generalizing s with
  | nil =>
      cases hrun
      exact TrackedProfile.inTurn_start files
  | append_singleton es e ih =>
      obtain ⟨t, hbefore, hlast⟩ := run_append_eq_some.mp hrun
      obtain ⟨hes, he⟩ := everyStep_append hturn hbefore
      rw [run_singleton] at hlast
      have ht := ih hbefore hes
      have hrefines := refines wiring device
      have hcourse := onCourse_run hbefore
      rw [lastWriter, List.filterMap_append]
      cases e with
      | background i action =>
          have hsame := hrefines.internal _ _ _ hcourse hlast rfl
          have hvisible : [@AppEvent.background Image i action].filterMap
              AppEvent.visible? = [] := rfl
          rw [hvisible, List.append_nil, hsame]
          exact ht
      | visible e =>
          have hstep := hrefines.simulates _ _ _ e hcourse hlast rfl
          have hvisible : [AppEvent.visible e].filterMap AppEvent.visible? = [e] := rfl
          rw [hvisible, TrackedProfile.lastWriter_append_singleton]
          refine ht.step hstep fun button hbutton => allWritten_tracked ?_
          exact (he s hlast).1 button (congrArg AppEvent.visible hbutton)

/-- Saves that are tapped in turn are written in the order of their taps. -/
theorem lastWriterAgrees_of_savesInTurn {files : Files Data} {es : List (AppEvent Image)}
    (hturn : SavesInTurn wiring device files es) :
    LastWriterAgrees wiring device files es := by
  intro s hrun hwritten save hsave i hi writer hwriter
  have hindex := (inTurn_run hrun hturn).written (allWritten_tracked hwritten) i hi
  simp only [tracked, List.length_map] at hindex
  have hlast : s.saves[i]? = some save := by
    rw [← hsave, List.getLast?_eq_getElem?, ← hindex, Nat.add_sub_cancel]
  obtain rfl := Option.some.inj (hwriter.symm.trans hlast)
  rfl

end

end ProfileApp

/-! ## The completion of a save

A run up to the completion of a save, cut at the tap that started it.
-/

structure SaveCompletion [Unicode] (wiring : Wiring) (device : Device Image Data) where
  files : Files Data
  before : List (AppEvent Image)
  tapped : ProfileApp Image Data
  reachesTap : run (ProfileApp.step wiring device) (.start device files) before =
    some tapped
  captured : UserProfile Image
  captures : tapped.screen.captured device = some captured
  button : SaveButton
  between : List (AppEvent Image)
  waiting : ProfileApp Image Data
  reachesCompletion : run (ProfileApp.step wiring device) tapped
    (.visible (.saveTapped button) :: between) = some waiting
  after : ProfileApp Image Data
  completes : ProfileApp.step wiring device waiting
    (.visible (.completion tapped.saves.length)) = some after

namespace SaveCompletion

variable [Unicode] {wiring : Wiring} {device : Device Image Data}

/-- If the completion ends an edit, the fields show what the save captured and
the edit is the one in which it was tapped. -/
def KeepsUnsavedText (c : SaveCompletion wiring device) : Prop :=
  c.waiting.screen.isEditing = true → c.after.screen.isEditing = false →
    (∃ save, c.waiting.saves[c.tapped.saves.length]? = some save ∧
      c.after.screen.texts = save.profile.text) ∧
    .visible (.user .editProfilePressed) ∉ c.between

/-- What the fields show after the edits between the tap and the completion. -/
def retyped (c : SaveCompletion wiring device) : TextFieldType → String :=
  (c.between.filterMap AppEvent.visible?).foldl TrackedProfile.typed
    c.tapped.screen.texts

/-- In an edit that the completion would end, Edit has not been pressed since the
tap, and the edits since the tap lead from the texts shown then to the texts in
the buffers then. -/
def Undisturbed (c : SaveCompletion wiring device) : Prop :=
  c.waiting.screen.isEditing = true →
    .visible (.user .editProfilePressed) ∉ c.between ∧
    c.retyped = c.tapped.screen.buffer

theorem onCourse_tapped (c : SaveCompletion wiring device) : c.tapped.OnCourse :=
  ProfileApp.onCourse_run c.reachesTap

theorem texts_waiting (c : SaveCompletion wiring device) :
    c.waiting.screen.texts = c.retyped := by
  have hspec := (ProfileApp.refines wiring device).run_spec c.onCourse_tapped
    c.reachesCompletion
  exact TrackedProfile.texts_run hspec

theorem texts_after (c : SaveCompletion wiring device) :
    c.after.screen.texts = c.waiting.screen.texts := by
  obtain ⟨save, -, p, -, hafter⟩ := ProfileApp.step_completion.mp c.completes
  rw [← hafter]
  exact ProfileViewController.texts_saveCompleted

theorem isEditing_after (c : SaveCompletion wiring device) :
    c.after.screen.isEditing = false := by
  obtain ⟨save, -, p, -, hafter⟩ := ProfileApp.step_completion.mp c.completes
  rw [← hafter]
  rfl

/-- A completion freezes no unsaved text exactly when its edit is undisturbed. -/
theorem keepsUnsavedText_iff (c : SaveCompletion wiring device) :
    c.KeepsUnsavedText ↔ c.Undisturbed := by
  obtain ⟨save, hsave, hprofile⟩ :=
    ProfileApp.profile_of_tap c.onCourse_tapped c.captures c.reachesCompletion
  have htexts : c.after.screen.texts = c.retyped := c.texts_after.trans c.texts_waiting
  have hbuffer : save.profile.text = c.tapped.screen.buffer := by
    rw [hprofile, ProfileViewController.text_of_captured c.captures]
  unfold KeepsUnsavedText Undisturbed
  constructor
  · intro hkeeps hediting
    obtain ⟨⟨other, hother, hshown⟩, hsession⟩ := hkeeps hediting c.isEditing_after
    obtain rfl := Option.some.inj (hsave.symm.trans hother)
    exact ⟨hsession, htexts.symm.trans (hshown.trans hbuffer)⟩
  · intro hundisturbed hediting _
    obtain ⟨hsession, hretyped⟩ := hundisturbed hediting
    exact ⟨⟨save, hsave, htexts.trans (hretyped.trans hbuffer.symm)⟩, hsession⟩

end SaveCompletion

/-! ## Saves in turn and saves that overlap

A letter typed after a tap enables the Save buttons for a second save, whose
write can come first, and it is in the field when the first save completes.
-/

section

attribute [local instance] asciiText

/-- The name is saved, and changed and saved again when the first save has completed. -/
def twoSaves : List (AppEvent String) :=
  [.visible (.user .editProfilePressed), typeName "A" 0,
    .visible (.saveTapped .saveGSDButton), .visible (.saveUserProfile 0 true),
    .background 0 .mainAsync, .visible (.completion 0),
    .visible (.user .editProfilePressed), typeName "B" 1,
    .visible (.saveTapped .saveOperationButton),
    .background 1 (.operation .start), .background 1 (.operation .testCancelled),
    .visible (.saveUserProfile 1 true)]

theorem lastSaveWins_twoSaves :
    (run (ProfileApp.step storyboardWiring phone) (.start phone noFiles) twoSaves).map
        (fun s => s.saves.map fun save => save.profile.userName) = some ["A", "AB"] ∧
      ProfileApp.LastSaveWins storyboardWiring phone noFiles twoSaves := by
  have hnames : (run (ProfileApp.step storyboardWiring phone) (.start phone noFiles)
      twoSaves).map (fun s => s.saves.map fun save => save.profile.userName) =
        some ["A", "AB"] := by decide
  have hcreated : ∀ i, .visible (.saveUserProfile i false) ∉ twoSaves := by
    intro i
    simp [twoSaves, typeName]
  refine ⟨hnames, (ProfileApp.lastSaveWins_iff storyboardWiring phone_healthy noFiles twoSaves
    hcreated).mpr fun s hrun hwritten save hsave i hi writer hwriter => ?_⟩
  rw [hrun, Option.map_some, Option.some.injEq] at hnames
  have hlength : s.saves.length = 2 := by
    simpa using congrArg List.length hnames
  -- the save that writes last is the second, which was tapped last
  obtain rfl : i = 1 := Option.some.inj hi.symm
  rw [List.getLast?_eq_getElem?, hlength] at hsave
  obtain rfl := Option.some.inj (hwriter.symm.trans hsave)
  rfl

def overtakenSave : List (AppEvent String) :=
  [.visible (.user .editProfilePressed), typeName "A" 0,
    .visible (.saveTapped .saveGSDButton), typeName "B" 1,
    .visible (.saveTapped .saveOperationButton),
    .background 1 (.operation .start), .background 1 (.operation .testCancelled),
    .visible (.saveUserProfile 1 true), .visible (.saveUserProfile 0 true)]

def overtaken : ProfileApp String FileData :=
  (run (ProfileApp.step storyboardWiring phone) (.start phone noFiles)
    overtakenSave).get (by decide)

theorem not_lastSaveWins_overtakenSave :
    ¬ ProfileApp.LastSaveWins storyboardWiring phone noFiles overtakenSave := by
  intro hwins
  have hwritten : overtaken.AllWritten := by
    unfold ProfileApp.AllWritten
    decide
  have hlast : overtaken.saves.getLast?.map (fun save => save.profile.userName) =
      some "AB" := by decide
  obtain ⟨save, hsave, hname⟩ := Option.map_eq_some_iff.mp hlast
  have hholds := hwins overtaken (Option.some_get _).symm hwritten save hsave
  have hfile : some (FileData.utf8 "A") = some (.utf8 save.profile.userName) :=
    storedField_of_holds hholds "name"
  rw [hname] at hfile
  exact absurd hfile (by decide)

def typedBefore : ProfileApp String FileData :=
  (run (ProfileApp.step storyboardWiring phone) (.start phone noFiles)
    [.visible (.user .editProfilePressed), typeName "A" 0]).get (by decide)

def typedAfter : ProfileApp String FileData :=
  (run (ProfileApp.step storyboardWiring phone) typedBefore
    [.visible (.saveTapped .saveGSDButton), typeName "B" 1,
      .visible (.saveUserProfile 0 true), .background 0 .mainAsync]).get (by decide)

def lateLetter : SaveCompletion storyboardWiring phone where
  files := noFiles
  before := [.visible (.user .editProfilePressed), typeName "A" 0]
  tapped := typedBefore
  reachesTap := (Option.some_get _).symm
  captured := ⟨"A", "", "person.fill"⟩
  captures := rfl
  button := .saveGSDButton
  between := [typeName "B" 1, .visible (.saveUserProfile 0 true), .background 0 .mainAsync]
  waiting := typedAfter
  reachesCompletion := (Option.some_get _).symm
  after := (ProfileApp.step storyboardWiring phone typedAfter
    (.visible (.completion 0))).get (by decide)
  completes := (Option.some_get _).symm

theorem not_keepsUnsavedText_lateLetter : ¬ lateLetter.KeepsUnsavedText := by
  intro hkeeps
  obtain ⟨⟨save, hsave, hshown⟩, -⟩ := hkeeps (by decide) (by decide)
  obtain rfl := Option.some.inj hsave
  exact absurd (congrFun hshown .userName) (by decide)

end

end Chatik
