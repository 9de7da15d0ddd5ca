import Chatik.Profile.ProfileApp

/-!
# Sessions of the profile screen

A session begins with a new `ProfileViewController` and ends with Close; the
files stay.  The saves of a session do not overlap, and their writes succeed.  A
session keeps a record of the keys of the profile file that the user has changed
in it.  The screen does not load the stored profile, and a save writes all three
fields, so a field that was not changed is stored with the value that the new
screen began with.
-/

namespace Chatik

open Chatik.Library MainFileManager

variable {Image Data : Type}

structure ProfileSession (Image Data : Type) where
  app : ProfileApp Image Data
  changed : List String

inductive SessionEvent (Image : Type) where
  | app (e : AppEvent Image)
  | reopen

def TextFieldType.key : TextFieldType → String
  | .userName => nameKey
  | .userInfo => infoKey

def profileKeys : List String := [nameKey, infoKey, imageKey]

/-- The keys that an event of the user changes. -/
def changedKeys : ProfileEvent Image → List String
  | .user (.changeCharacters field _ _) => [field.key]
  | .user (.finishPicking (some _)) => [imageKey]
  | _ => []

namespace ProfileSession

def start (device : Device Image Data) (files : Files Data) :
    ProfileSession Image Data :=
  ⟨.start device files, []⟩

def allCompleted (s : ProfileSession Image Data) : Bool :=
  s.app.saves.all fun save => decide (save.process.phase = .completed)

/-- Saves do not overlap, and their writes succeed. -/
def admits (s : ProfileSession Image Data) : AppEvent Image → Bool
  | .visible (.saveTapped _) => s.allCompleted
  | .visible (.saveUserProfile _ created) => created
  | _ => true

def step [Unicode] (wiring : Wiring) (device : Device Image Data)
    (s : ProfileSession Image Data) :
    SessionEvent Image → Option (ProfileSession Image Data)
  | .app e =>
      if s.admits e then
        (s.app.step wiring device e).map fun app =>
          ⟨app, s.changed ++ (e.visible?.map changedKeys).getD []⟩
      else none
  | .reopen =>
      if s.allCompleted then
        some ⟨{ s.app with screen := .viewDidLoad device }, []⟩
      else none

/-- What a new screen would store under a key. -/
def initialField (device : Device Image Data) (key : String) : Option Data := do
  let symbol ← device.systemImage "person.fill"
  let dictionary ← savingData device ⟨"", "", symbol⟩
  dictionary key

/-- The step leaves the stored fields alone that the user has not changed. -/
def KeepsUnchanged (device : Device Image Data) (s s' : ProfileSession Image Data) :
    Prop :=
  ∀ key ∈ profileKeys, key ∉ s.changed →
    storedField device s'.app.files key = storedField device s.app.files key

/-- At a write the fields that the user has not changed are stored with the
values of a new screen already. -/
def UnchangedInitial (device : Device Image Data) (s : ProfileSession Image Data) :
    SessionEvent Image → Prop
  | .app (.visible (.saveUserProfile _ _)) => ∀ key ∈ profileKeys, key ∉ s.changed →
      storedField device s.app.files key = initialField device key
  | _ => True

/-! ## Unchanged fields have their initial values -/

structure FromInitial (device : Device Image Data) (s : TrackedProfile Image Data)
    (changed : List String) : Prop where
  symbol : s.SavesSymbol device
  buffers : ∀ field : TextFieldType, field.key ∉ changed → s.screen.buffer field = ""
  pending : ∀ save ∈ s.saves, save.phase = .pending →
    ∀ field : TextFieldType, field.key ∉ changed → save.profile.text field = ""

theorem fromInitial_start (device : Device Image Data) (files : Files Data) :
    FromInitial device (.start device files) [] where
  symbol := TrackedProfile.savesSymbol_start files
  buffers := fun field _ => by cases field <;> rfl
  pending := fun save hsave => by cases hsave

theorem FromInitial.set {device : Device Image Data} {s : TrackedProfile Image Data}
    {changed : List String} {i : Nat} {save : TrackedSave Image} {phase : SavePhase}
    (h : FromInitial device s changed) (hphase : phase ≠ .pending) :
    ∀ other ∈ s.saves.set i { save with phase := phase }, other.phase = .pending →
      ∀ field : TextFieldType, field.key ∉ changed → other.profile.text field = "" :=
  forall_mem_set h.pending fun hpending => absurd hpending hphase

section

variable [Unicode] {wiring : Wiring} {device : Device Image Data}

theorem FromInitial.step {s s' : TrackedProfile Image Data} {changed : List String}
    {e : ProfileEvent Image} (h : FromInitial device s changed)
    (hstep : TrackedProfile.step device s e = some s') :
    FromInitial device s' (changed ++ changedKeys e) := by
  have hsymbol := h.symbol.step hstep
  cases e with
  | user e =>
      obtain ⟨screen, hscreen, rfl⟩ := TrackedProfile.step_user.mp hstep
      refine ⟨hsymbol, fun field hfield => ?_, fun save hsave hpending field hfield =>
        h.pending save hsave hpending field
          (fun hold => hfield (List.mem_append_left _ hold))⟩
      rcases ProfileViewController.buffer_handle hscreen field with
        hbuffer | ⟨range, string, rfl⟩
      · exact hbuffer.trans
          (h.buffers field fun hold => hfield (List.mem_append_left _ hold))
      · exact absurd (List.mem_append_right _ List.mem_cons_self) hfield
  | saveTapped button =>
      simp only [changedKeys, List.append_nil]
      obtain ⟨-, rfl⟩ := TrackedProfile.step_saveTapped.mp hstep
      refine ⟨hsymbol, fun field hfield => ?_, fun save hsave hpending field hfield => ?_⟩
      · exact (congrFun (ProfileViewController.buffer_saveTapped device) field).trans
          (h.buffers field hfield)
      · rcases List.mem_append.mp hsave with hsave | hsave
        · exact h.pending save hsave hpending field hfield
        · rw [Option.mem_toList, ProfileViewController.saveTapped_captured] at hsave
          obtain ⟨profile, hcaptured, rfl⟩ := Option.map_eq_some_iff.mp hsave
          rw [ProfileViewController.text_of_captured hcaptured]
          exact h.buffers field hfield
  | saveUserProfile i created =>
      simp only [changedKeys, List.append_nil]
      obtain ⟨save, -, -, rfl⟩ := TrackedProfile.step_saveUserProfile.mp hstep
      exact ⟨hsymbol, h.buffers, h.set (by decide)⟩
  | completion i =>
      simp only [changedKeys, List.append_nil]
      obtain ⟨save, -, -, rfl⟩ := TrackedProfile.step_completion.mp hstep
      refine ⟨hsymbol, fun field hfield => ?_, h.set (by decide)⟩
      exact (congrFun ProfileViewController.buffer_saveCompleted field).trans
        (h.buffers field hfield)

/-- The invariant of a session. -/
structure Valid (device : Device Image Data) (s : ProfileSession Image Data) : Prop where
  onCourse : s.app.OnCourse
  initial : FromInitial device s.app.tracked s.changed

omit [Unicode] in
theorem valid_start (device : Device Image Data) (files : Files Data) :
    Valid device (start device files) :=
  ⟨ProfileApp.onCourse_start device files, fromInitial_start device files⟩

theorem step_app {s s' : ProfileSession Image Data} {e : AppEvent Image} :
    step wiring device s (.app e) = some s' ↔
      s.admits e = true ∧ ∃ app, s.app.step wiring device e = some app ∧
        ⟨app, s.changed ++ (e.visible?.map changedKeys).getD []⟩ = s' := by
  simp only [step, Option.ite_none_right_eq_some, Option.map_eq_some_iff]

theorem step_reopen {s s' : ProfileSession Image Data} :
    step wiring device s .reopen = some s' ↔
      s.allCompleted = true ∧
        ⟨{ s.app with screen := .viewDidLoad device }, []⟩ = s' := by
  simp only [step, Option.ite_none_right_eq_some, Option.some.injEq]

omit [Unicode] in
theorem Valid.reopen {s : ProfileSession Image Data} (h : Valid device s)
    (hcompleted : s.allCompleted = true) :
    Valid device ⟨{ s.app with screen := .viewDidLoad device }, []⟩ where
  onCourse := h.onCourse
  initial := by
    refine ⟨⟨rfl, h.initial.symbol.symbol⟩, fun field _ => by cases field <;> rfl, ?_⟩
    intro save hsave hpending
    obtain ⟨source, hsource, rfl⟩ := List.mem_map.mp hsave
    have hphase := List.all_eq_true.mp hcompleted source hsource
    rw [decide_eq_true_eq] at hphase
    rw [hphase] at hpending
    cases hpending

theorem Valid.step {s s' : ProfileSession Image Data} {e : SessionEvent Image}
    (h : Valid device s) (hstep : ProfileSession.step wiring device s e = some s') :
    Valid device s' := by
  cases e with
  | reopen =>
      obtain ⟨hcompleted, rfl⟩ := step_reopen.mp hstep
      exact h.reopen hcompleted
  | app e =>
      obtain ⟨-, app, happ, rfl⟩ := step_app.mp hstep
      have hrefines := ProfileApp.refines wiring device
      refine ⟨h.onCourse.step happ, ?_⟩
      cases e with
      | background i action =>
          have hsame := hrefines.internal _ _ _ h.onCourse happ rfl
          simpa [AppEvent.visible?, hsame] using h.initial
      | visible e =>
          exact h.initial.step (hrefines.simulates _ _ _ e h.onCourse happ rfl)

/-! ## What a write stores -/

/-- A write stores the initial value of every field that was not changed. -/
theorem storedField_write {s s' : ProfileSession Image Data} {i : Nat} {created : Bool}
    (hdevice : device.Healthy) (h : Valid device s)
    (hstep : step wiring device s (.app (.visible (.saveUserProfile i created))) =
      some s') {key : String} (hkey : key ∈ profileKeys) (hchanged : key ∉ s.changed) :
    storedField device s'.app.files key = initialField device key := by
  obtain ⟨hcreated, app, happ, rfl⟩ := step_app.mp hstep
  obtain rfl : created = true := hcreated
  obtain ⟨save, hsave, process, hprocess, rfl⟩ :=
    ProfileApp.step_saveUserProfile.mp happ
  have hpending :=
    (SaveProcess.saveUserProfile_phase (h.onCourse.process hsave) hprocess).2.1
  have htracked := ProfileApp.getElem?_tracked hsave
  have htext := h.initial.pending _ (List.mem_of_getElem? htracked) hpending
  have hsymbol := h.initial.symbol.symbol save.profile
    (List.mem_of_getElem? (TrackedProfile.getElem?_profiles htracked))
  obtain ⟨symbol, symbolData, hsystem, hpng⟩ := hdevice.symbol
  obtain rfl := Option.some.inj (hsystem.symm.trans hsymbol)
  obtain ⟨stored, hstored⟩ := savingData_of_pngData hdevice hpng
  obtain ⟨initial, hinitial⟩ : ∃ initial,
      savingData device ⟨"", "", save.profile.userProfileImage⟩ = some initial :=
    savingData_of_pngData hdevice hpng
  have hfile := storedDictionary_saveUserProfile hdevice s.app.files hstored
  obtain ⟨hname, hinfo, himage⟩ := savingData_fields hstored
  obtain ⟨hname', hinfo', himage'⟩ := savingData_fields hinitial
  have hsame : stored key = initial key := by
    simp only [profileKeys, List.mem_cons, List.not_mem_nil, or_false] at hkey
    rcases hkey with rfl | rfl | rfl
    · have hempty : save.profile.userName = "" := htext .userName hchanged
      rw [hname, hname', hempty]
    · have hempty : save.profile.userInfo = "" := htext .userInfo hchanged
      rw [hinfo, hinfo', hempty]
    · rw [himage, himage']
  simp only [storedField, hfile, initialField, hsymbol, hinitial, Option.bind_eq_bind,
    Option.bind_some, hsame]

theorem unchangedInitial_of_not_write {s s' : ProfileSession Image Data}
    {e : SessionEvent Image} (hstep : step wiring device s e = some s') :
    (∃ i created, e = .app (.visible (.saveUserProfile i created))) ∨
      (s'.app.files = s.app.files ∧ UnchangedInitial device s e) := by
  cases e with
  | reopen =>
      obtain ⟨-, rfl⟩ := step_reopen.mp hstep
      exact Or.inr ⟨rfl, trivial⟩
  | app e =>
      obtain ⟨-, app, happ, rfl⟩ := step_app.mp hstep
      cases e with
      | background i action =>
          obtain ⟨save, -, process, -, rfl⟩ := ProfileApp.step_background.mp happ
          exact Or.inr ⟨rfl, trivial⟩
      | visible e =>
          cases e with
          | user e =>
              obtain ⟨screen, -, rfl⟩ := Option.map_eq_some_iff.mp happ
              exact Or.inr ⟨rfl, trivial⟩
          | saveTapped button =>
              obtain ⟨-, rfl⟩ := ProfileApp.step_saveTapped.mp happ
              exact Or.inr ⟨rfl, trivial⟩
          | saveUserProfile i created => exact Or.inl ⟨i, created, rfl⟩
          | completion i =>
              obtain ⟨save, -, process, -, rfl⟩ := ProfileApp.step_completion.mp happ
              exact Or.inr ⟨rfl, trivial⟩

/-- A run keeps the unchanged fields exactly when they are initial at its writes. -/
theorem keepsUnchanged_iff (wiring : Wiring) (hdevice : device.Healthy)
    (files : Files Data) (es : List (SessionEvent Image)) :
    EveryStep (step wiring device) (fun s _ s' => KeepsUnchanged device s s')
        (start device files) es ↔
      EveryStep (step wiring device) (fun s e _ => UnchangedInitial device s e)
        (start device files) es := by
  refine everyStep_congr (I := Valid device) ?_ (fun s e s' h hstep _ => h.step hstep)
    (valid_start device files) es
  intro s e s' h hstep
  rcases unchangedInitial_of_not_write hstep with
    ⟨i, created, rfl⟩ | ⟨hfiles, hinitial⟩
  · refine forall₃_congr fun key hkey hchanged => ?_
    rw [storedField_write hdevice h hstep hkey hchanged]
    exact eq_comm
  · refine iff_of_true (fun key _ _ => ?_) hinitial
    rw [hfiles]

end

end ProfileSession

/-! ## One field is edited

The stored name is lost when only the info is edited and saved, and survives
when it is the empty text that the screen begins with.
-/

section

attribute [local instance] asciiText

def storedFiles (userName userInfo userProfileImage : String) : Files FileData := fun path =>
  if path = "/Documents/userProfile.json" then
    some (.json (.utf8 userName) (.utf8 userInfo) (.png userProfileImage))
  else none

def editInfo : List (SessionEvent String) :=
  [.app (.visible (.user .editProfilePressed)),
    .app (.visible (.user (.changeCharacters .userInfo ⟨0, 0⟩ "iOS"))),
    .app (.visible (.saveTapped .saveGSDButton)),
    .app (.visible (.saveUserProfile 0 true))]

theorem keepsUnchanged_editInfo :
    EveryStep (ProfileSession.step storyboardWiring phone)
      (fun s _ s' => ProfileSession.KeepsUnchanged phone s s')
      (.start phone (storedFiles "" "" "person.fill")) editInfo := by
  have hinitial : ∀ key ∈ profileKeys,
      storedField phone (storedFiles "" "" "person.fill") key =
        ProfileSession.initialField phone key := by decide
  refine (ProfileSession.keepsUnchanged_iff storyboardWiring phone_healthy _ _).mpr ?_
  intro edited hedited
  obtain rfl := Option.some.inj hedited
  refine ⟨trivial, fun typed htyped => ?_⟩
  obtain rfl := Option.some.inj htyped
  refine ⟨trivial, fun tapped htapped => ?_⟩
  obtain rfl := Option.some.inj htapped
  exact ⟨trivial, fun written _ => ⟨fun key hkey _ => hinitial key hkey, trivial⟩⟩

theorem not_keepsUnchanged_editInfo :
    ¬ EveryStep (ProfileSession.step storyboardWiring phone)
      (fun s _ s' => ProfileSession.KeepsUnchanged phone s s')
      (.start phone (storedFiles "Vlad" "" "person.fill")) editInfo := by
  intro hsteps
  have hwrite := ((((hsteps _ rfl).2 _ rfl).2 _ rfl).2 _ rfl).1
  have hname := hwrite nameKey (by decide) (by decide)
  exact absurd hname (by decide)

end

end Chatik
