import Chatik.Library.Simulation
import Chatik.Profile.SaveProcesses

/-!
# The profile screen with its saves

The screen, the files and the saves that were started on the screen.  A wiring
says which of the two handlers each Save button calls; the storyboard wires each
button to its own.  Blocks sent to the main queue may run in any order, as may
the blocks of the background queue and the operations, each of which has a queue
of its own.  Leaving out the queues gives the tracked saves, and every step of a
tracked save can be carried out by either handler.
-/

namespace Chatik

open Chatik.Library

structure Save (Image : Type) where
  profile : UserProfile Image
  process : SaveProcess

structure ProfileApp (Image Data : Type) where
  screen : ProfileViewController Image
  files : Files Data
  saves : List (Save Image)

inductive AppEvent (Image : Type) where
  | visible (e : ProfileEvent Image)
  | background (save : Nat) (action : BackgroundAction)

def AppEvent.visible? {Image : Type} : AppEvent Image → Option (ProfileEvent Image)
  | .visible e => some e
  | .background _ _ => none

theorem AppEvent.mem_filterMap_visible {Image : Type} {e : ProfileEvent Image}
    {es : List (AppEvent Image)} :
    e ∈ es.filterMap AppEvent.visible? ↔ .visible e ∈ es := by
  rw [List.mem_filterMap]
  constructor
  · rintro ⟨event, hevent, he⟩
    cases event with
    | visible other =>
        obtain rfl := Option.some.inj he
        exact hevent
    | background i action => cases he
  · intro he
    exact ⟨.visible e, he, rfl⟩

variable {Image Data : Type}

def saveGCDTapped (device : Device Image Data) (screen : ProfileViewController Image) :
    ProfileViewController Image × Option (Save Image) :=
  let (screen, captured) := screen.saveTapped device
  (screen, captured.map (⟨·, .gcd .queued⟩))

def saveOperationTapped (device : Device Image Data)
    (screen : ProfileViewController Image) :
    ProfileViewController Image × Option (Save Image) :=
  let (screen, captured) := screen.saveTapped device
  (screen, captured.map (⟨·, .operation ⟨.new, .waiting⟩⟩))

abbrev Wiring := SaveButton → SaveKind

def storyboardWiring : Wiring
  | .saveGSDButton => .gcd
  | .saveOperationButton => .operation

def SaveKind.handler (kind : SaveKind) (device : Device Image Data)
    (screen : ProfileViewController Image) :
    ProfileViewController Image × Option (Save Image) :=
  match kind with
  | .gcd => saveGCDTapped device screen
  | .operation => saveOperationTapped device screen

theorem SaveKind.handler_eq (kind : SaveKind) (device : Device Image Data)
    (screen : ProfileViewController Image) :
    kind.handler device screen =
      ((screen.saveTapped device).1,
        (screen.captured device).map (⟨·, kind.fresh⟩)) := by
  rw [← screen.saveTapped_captured device]
  cases kind <;> rfl

namespace ProfileApp

def start (device : Device Image Data) (files : Files Data) : ProfileApp Image Data :=
  ⟨.viewDidLoad device, files, []⟩

def step [Unicode] (wiring : Wiring) (device : Device Image Data)
    (s : ProfileApp Image Data) : AppEvent Image → Option (ProfileApp Image Data)
  | .visible (.user e) =>
      (s.screen.handle e).map fun screen => { s with screen := screen }
  | .visible (.saveTapped button) =>
      if (s.screen.saveButton button).isTappable then
        let (screen, save) := (wiring button).handler device s.screen
        some { s with screen := screen, saves := s.saves ++ save.toList }
      else none
  | .visible (.saveUserProfile i created) => do
      let save ← s.saves[i]?
      let process ← save.process.saveUserProfile
      some { s with
        files := MainFileManager.saveUserProfile device created s.files save.profile
        saves := s.saves.set i { save with process := process } }
  | .visible (.completion i) => do
      let save ← s.saves[i]?
      let process ← save.process.completion
      some { s with
        screen := s.screen.saveCompleted
        saves := s.saves.set i { save with process := process } }
  | .background i action => do
      let save ← s.saves[i]?
      let process ← save.process.background action
      some { s with saves := s.saves.set i { save with process := process } }

/-- The saves that a step from `s` to `s'` has started. -/
def startedSaves (s s' : ProfileApp Image Data) : List (Save Image) :=
  s'.saves.drop s.saves.length

def tracked (s : ProfileApp Image Data) : TrackedProfile Image Data :=
  ⟨s.screen, s.files, s.saves.map fun save => ⟨save.profile, save.process.phase⟩⟩

def OnCourse (s : ProfileApp Image Data) : Prop :=
  ∀ save ∈ s.saves, save.process.OnCourse

theorem onCourse_start (device : Device Image Data) (files : Files Data) :
    (start device files).OnCourse := by
  intro save hsave
  cases hsave

variable [Unicode] {wiring : Wiring} {device : Device Image Data}
  {s s' : ProfileApp Image Data}

/-! ## What one step does -/

theorem step_saveTapped {button : SaveButton} :
    step wiring device s (.visible (.saveTapped button)) = some s' ↔
      (s.screen.saveButton button).isTappable = true ∧
        { s with
          screen := (s.screen.saveTapped device).1
          saves := s.saves ++
            ((s.screen.captured device).map (⟨·, (wiring button).fresh⟩)).toList } =
          s' := by
  simp only [step, SaveKind.handler_eq, Option.ite_none_right_eq_some,
    Option.some.injEq]

theorem step_saveUserProfile {i : Nat} {created : Bool} :
    step wiring device s (.visible (.saveUserProfile i created)) = some s' ↔
      ∃ save, s.saves[i]? = some save ∧
        ∃ process, save.process.saveUserProfile = some process ∧
          { s with
            files := MainFileManager.saveUserProfile device created s.files save.profile
            saves := s.saves.set i { save with process := process } } = s' := by
  simp only [step, Option.bind_eq_bind, Option.bind_eq_some_iff, Option.some.injEq]

theorem step_completion {i : Nat} :
    step wiring device s (.visible (.completion i)) = some s' ↔
      ∃ save, s.saves[i]? = some save ∧
        ∃ process, save.process.completion = some process ∧
          { s with
            screen := s.screen.saveCompleted
            saves := s.saves.set i { save with process := process } } = s' := by
  simp only [step, Option.bind_eq_bind, Option.bind_eq_some_iff, Option.some.injEq]

theorem step_background {i : Nat} {action : BackgroundAction} :
    step wiring device s (.background i action) = some s' ↔
      ∃ save, s.saves[i]? = some save ∧
        ∃ process, save.process.background action = some process ∧
          { s with saves := s.saves.set i { save with process := process } } = s' := by
  simp only [step, Option.bind_eq_bind, Option.bind_eq_some_iff, Option.some.injEq]

/-! ## The tracked saves are what the handlers carry out -/

omit [Unicode] in
theorem OnCourse.process {i : Nat} {save : Save Image} (h : s.OnCourse)
    (hsave : s.saves[i]? = some save) : save.process.OnCourse :=
  h save (List.mem_of_getElem? hsave)

omit [Unicode] in
theorem OnCourse.set {i : Nat} {save : Save Image} {process : SaveProcess}
    (h : s.OnCourse) (hprocess : process.OnCourse) :
    ∀ other ∈ s.saves.set i { save with process := process },
      other.process.OnCourse :=
  forall_mem_set h hprocess

theorem OnCourse.step {e : AppEvent Image} (h : s.OnCourse)
    (hstep : ProfileApp.step wiring device s e = some s') : s'.OnCourse := by
  cases e with
  | background i action =>
      obtain ⟨save, hsave, process, hprocess, rfl⟩ := step_background.mp hstep
      exact h.set (SaveProcess.background_phase (h.process hsave) hprocess).1
  | visible e =>
      cases e with
      | user e =>
          obtain ⟨screen, -, rfl⟩ := Option.map_eq_some_iff.mp hstep
          exact h
      | saveTapped button =>
          obtain ⟨-, rfl⟩ := step_saveTapped.mp hstep
          intro save hsave
          rcases List.mem_append.mp hsave with hsave | hsave
          · exact h save hsave
          · obtain ⟨profile, -, rfl⟩ := Option.map_eq_some_iff.mp (Option.mem_toList.mp hsave)
            exact SaveKind.onCourse_fresh _
      | saveUserProfile i created =>
          obtain ⟨save, hsave, process, hprocess, rfl⟩ := step_saveUserProfile.mp hstep
          exact h.set (SaveProcess.saveUserProfile_phase (h.process hsave) hprocess).1
      | completion i =>
          obtain ⟨save, hsave, process, hprocess, rfl⟩ := step_completion.mp hstep
          exact h.set (SaveProcess.completion_phase (h.process hsave) hprocess).1

omit [Unicode] in
theorem getElem?_tracked {i : Nat} {save : Save Image}
    (h : s.saves[i]? = some save) :
    s.tracked.saves[i]? = some ⟨save.profile, save.process.phase⟩ := by
  simp [tracked, h]

theorem refines (wiring : Wiring) (device : Device Image Data) :
    Refines (step wiring device) (TrackedProfile.step device) AppEvent.visible?
      tracked OnCourse where
  keeps := fun s e s' h hstep => h.step hstep
  internal := by
    intro s e s' h hstep hvisible
    cases e with
    | visible e => cases hvisible
    | background i action =>
        obtain ⟨save, hsave, process, hprocess, rfl⟩ := step_background.mp hstep
        have hphase := (SaveProcess.background_phase (h.process hsave) hprocess).2
        simp only [tracked]
        rw [map_set_same hsave (by simp [hphase])]
  simulates := by
    intro s e s' event h hstep hvisible
    cases e with
    | background i action => cases hvisible
    | visible e =>
        obtain rfl := Option.some.inj hvisible
        cases e with
        | user e =>
            obtain ⟨screen, hscreen, rfl⟩ := Option.map_eq_some_iff.mp hstep
            exact TrackedProfile.step_user.mpr ⟨screen, hscreen, rfl⟩
        | saveTapped button =>
            obtain ⟨htappable, rfl⟩ := step_saveTapped.mp hstep
            refine TrackedProfile.step_saveTapped.mpr ⟨htappable, ?_⟩
            rw [ProfileViewController.saveTapped_captured]
            simp [tracked, Option.toList_map]
        | saveUserProfile i created =>
            obtain ⟨save, hsave, process, hprocess, rfl⟩ := step_saveUserProfile.mp hstep
            obtain ⟨-, hpending, hwritten⟩ :=
              SaveProcess.saveUserProfile_phase (h.process hsave) hprocess
            refine TrackedProfile.step_saveUserProfile.mpr
              ⟨_, getElem?_tracked hsave, hpending, ?_⟩
            simp [tracked, List.map_set, hwritten]
        | completion i =>
            obtain ⟨save, hsave, process, hprocess, rfl⟩ := step_completion.mp hstep
            obtain ⟨-, hwritten, hcompleted⟩ :=
              SaveProcess.completion_phase (h.process hsave) hprocess
            refine TrackedProfile.step_completion.mpr
              ⟨_, getElem?_tracked hsave, hwritten, ?_⟩
            simp [tracked, List.map_set, hcompleted]

theorem onCourse_run {files : Files Data} {es : List (AppEvent Image)}
    (hrun : run (step wiring device) (start device files) es = some s) : s.OnCourse :=
  (refines wiring device).invariant (onCourse_start device files) hrun

/-- The save that a tap starts keeps the profile that the tap captured. -/
theorem profile_of_tap {button : SaveButton} {between : List (AppEvent Image)}
    {profile : UserProfile Image} (hs : s.OnCourse)
    (hcaptured : s.screen.captured device = some profile)
    (hrun : run (step wiring device) s (.visible (.saveTapped button) :: between) =
      some s') :
    ∃ save, s'.saves[s.saves.length]? = some save ∧ save.profile = profile := by
  have hspec := (refines wiring device).run_spec hs hrun
  obtain ⟨tapped, htap, hbetween⟩ := run_cons_eq_some.mp hspec
  have hlength : s.tracked.profiles.length = s.saves.length := by
    simp [TrackedProfile.profiles, tracked]
  have hscreen : s.tracked.screen.captured device = some profile := hcaptured
  have hprofile : tapped.profiles[s.saves.length]? = some profile := by
    rw [TrackedProfile.profiles_step htap, TrackedProfile.captured, hscreen, ← hlength]
    simp
  have hkept := TrackedProfile.getElem?_profiles_run hbetween hprofile
  simp only [TrackedProfile.profiles, tracked, List.map_map, List.getElem?_map,
    Option.map_eq_some_iff] at hkept
  exact hkept

/-! ## The handlers can carry out every tracked save -/

omit [Unicode] in
theorem set_process_self {i : Nat} {save : Save Image} (h : s.saves[i]? = some save) :
    s.saves.set i { save with process := save.process } = s.saves := by
  obtain ⟨hi, rfl⟩ := List.getElem?_eq_some_iff.mp h
  exact List.set_getElem_self hi

theorem run_background {i : Nat} {save : Save Image} {actions : List BackgroundAction}
    {process : SaveProcess} (hsave : s.saves[i]? = some save)
    (hrun : run SaveProcess.background save.process actions = some process) :
    run (step wiring device) s (actions.map (.background i)) =
      some { s with saves := s.saves.set i { save with process := process } } := by
  induction actions generalizing s save with
  | nil =>
      obtain rfl := Option.some.inj hrun
      rw [set_process_self hsave]
      rfl
  | cons action actions ih =>
      obtain ⟨p, hstep, hrest⟩ := run_cons_eq_some.mp hrun
      have hi : i < s.saves.length := (List.getElem?_eq_some_iff.mp hsave).1
      refine run_cons_eq_some.mpr ⟨_, step_background.mpr ⟨save, hsave, p, hstep, rfl⟩, ?_⟩
      have hset : (s.saves.set i { save with process := p })[i]? =
          some { save with process := p } := List.getElem?_set_self hi
      rw [ih (s := { s with saves := s.saves.set i { save with process := p } }) hset hrest]
      simp only [List.set_set]

omit [Unicode] in
@[simp] theorem filterMap_background (i : Nat) (actions : List BackgroundAction) :
    (actions.map (@AppEvent.background Image i)).filterMap AppEvent.visible? = [] := by
  simp [AppEvent.visible?, List.filterMap_map, Function.comp_def]

def Resting (s : ProfileApp Image Data) : Prop :=
  ∀ save ∈ s.saves, save.process.Resting

omit [Unicode] in
theorem Resting.set {i : Nat} {save : Save Image} {process : SaveProcess}
    (h : s.Resting) (hprocess : process.Resting) :
    ∀ other ∈ s.saves.set i { save with process := process },
      other.process.Resting :=
  forall_mem_set h hprocess

omit [Unicode] in
theorem getElem?_saves_of_tracked {i : Nat} {tracked : TrackedSave Image}
    (h : s.tracked.saves[i]? = some tracked) :
    ∃ save, s.saves[i]? = some save ∧ save.profile = tracked.profile ∧
      save.process.phase = tracked.phase := by
  simp only [ProfileApp.tracked, List.getElem?_map, Option.map_eq_some_iff] at h
  obtain ⟨save, hsave, rfl⟩ := h
  exact ⟨save, hsave, rfl, rfl⟩

/-- The queues take a save to `p`, and then the event is its next step. -/
theorem run_background_visible (wiring : Wiring) (device : Device Image Data)
    (e : ProfileEvent Image) {i : Nat} {save : Save Image}
    {actions : List BackgroundAction} {p : SaveProcess}
    {t : ProfileApp Image Data} (hsave : s.saves[i]? = some save)
    (hrun : run SaveProcess.background save.process actions = some p)
    (hstep : step wiring device
      { s with saves := s.saves.set i { save with process := p } } (.visible e) = some t) :
    ∃ es, run (step wiring device) s es = some t ∧
      es.filterMap AppEvent.visible? = [e] := by
  refine ⟨actions.map (.background i) ++ [.visible e], ?_, ?_⟩
  · exact run_append_eq_some.mpr
      ⟨_, run_background hsave hrun, run_singleton.mpr hstep⟩
  · rw [List.filterMap_append, filterMap_background]
    rfl

theorem realizes (wiring : Wiring) (device : Device Image Data) :
    Realizes (step wiring device) (TrackedProfile.step device) AppEvent.visible?
      tracked Resting := by
  intro s event a hs hstep
  cases event with
  | user e =>
      obtain ⟨screen, hscreen, rfl⟩ := TrackedProfile.step_user.mp hstep
      refine ⟨[.visible (.user e)], { s with screen := screen }, ?_, rfl, rfl, hs⟩
      rw [run_singleton]
      exact Option.map_eq_some_iff.mpr ⟨screen, hscreen, rfl⟩
  | saveTapped button =>
      obtain ⟨htappable, rfl⟩ := TrackedProfile.step_saveTapped.mp hstep
      refine ⟨[.visible (.saveTapped button)], _,
        run_singleton.mpr (step_saveTapped.mpr ⟨htappable, rfl⟩), rfl, ?_, ?_⟩
      · rw [ProfileViewController.saveTapped_captured]
        simp [tracked, Option.toList_map]
      · intro save hsave
        rcases List.mem_append.mp hsave with hsave | hsave
        · exact hs save hsave
        · obtain ⟨profile, -, rfl⟩ := Option.map_eq_some_iff.mp (Option.mem_toList.mp hsave)
          exact Or.inl ⟨_, Or.inl rfl⟩
  | saveUserProfile i created =>
      obtain ⟨saved, hsaved, hphase, rfl⟩ := TrackedProfile.step_saveUserProfile.mp hstep
      obtain ⟨save, hsave, hprofile, hpending⟩ := getElem?_saves_of_tracked hsaved
      obtain ⟨kind, hkind⟩ :=
        (hs save (List.mem_of_getElem? hsave)).of_pending (hpending.trans hphase)
      obtain ⟨p, hrun, hwrite⟩ := kind.reaches_write
      have hi : i < s.saves.length := (List.getElem?_eq_some_iff.mp hsave).1
      obtain ⟨es, hes, hvisible⟩ := run_background_visible wiring device
        (.saveUserProfile i created) hsave (hkind ▸ hrun)
        (step_saveUserProfile.mpr ⟨_, List.getElem?_set_self hi, _, hwrite, rfl⟩)
      refine ⟨es, _, hes, hvisible, ?_, ?_⟩
      · simp [tracked, List.map_set, hprofile]
      · intro other hother
        rw [List.set_set] at hother
        exact hs.set (Or.inl ⟨kind, Or.inr rfl⟩) other hother
  | completion i =>
      obtain ⟨saved, hsaved, hphase, rfl⟩ := TrackedProfile.step_completion.mp hstep
      obtain ⟨save, hsave, hprofile, hwritten⟩ := getElem?_saves_of_tracked hsaved
      obtain ⟨kind, hkind⟩ :=
        (hs save (List.mem_of_getElem? hsave)).of_written (hwritten.trans hphase)
      obtain ⟨p, p', hrun, hcompletion, hcompleted⟩ := kind.reaches_completion
      have hi : i < s.saves.length := (List.getElem?_eq_some_iff.mp hsave).1
      obtain ⟨es, hes, hvisible⟩ := run_background_visible wiring device
        (.completion i) hsave (hkind ▸ hrun)
        (step_completion.mpr ⟨_, List.getElem?_set_self hi, _, hcompletion, rfl⟩)
      refine ⟨es, _, hes, hvisible, ?_, ?_⟩
      · simp [tracked, List.map_set, hprofile, hcompleted]
      · intro other hother
        rw [List.set_set] at hother
        exact hs.set (Or.inr hcompleted) other hother

end ProfileApp

/-! ## Typing into the name field -/

def typeName (text : String) (location : Nat) : AppEvent String :=
  .visible (.user (.changeCharacters .userName ⟨location, 0⟩ text))

def replaceName (range : NSRange) (text : String) : AppEvent String :=
  .visible (.user (.changeCharacters .userName range text))

end Chatik
