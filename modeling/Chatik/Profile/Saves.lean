import Chatik.Library.Runs
import Chatik.Library.Sequences
import Chatik.Profile.Screen
import Mathlib.Data.List.Induction

/-!
# What a save is for

A save captures a profile when a Save button is tapped, writes it to the file
some time later, and completes on the screen after that, once.  This is the
purpose of both handlers of the Save buttons, without the queues and the
operation that carry it out.  The saves of a screen are kept in the order of
their taps, and any pending one may be the next to write.
-/

namespace Chatik

open Chatik.Library MainFileManager

inductive SavePhase where
  | pending
  | written
  | completed
  deriving DecidableEq

inductive Milestone where
  | write
  | completion
  deriving DecidableEq

def SavePhase.milestones : SavePhase → List Milestone
  | .pending => []
  | .written => [.write]
  | .completed => [.write, .completion]

structure TrackedSave (Image : Type) where
  profile : UserProfile Image
  phase : SavePhase

structure TrackedProfile (Image Data : Type) where
  screen : ProfileViewController Image
  files : Files Data
  saves : List (TrackedSave Image)

inductive ProfileEvent (Image : Type) where
  | user (e : UserEvent Image)
  | saveTapped (button : SaveButton)
  | saveUserProfile (save : Nat) (created : Bool)
  | completion (save : Nat)

namespace TrackedProfile

variable {Image Data : Type}

def start (device : Device Image Data) (files : Files Data) :
    TrackedProfile Image Data :=
  ⟨.viewDidLoad device, files, []⟩

def step [Unicode] (device : Device Image Data) (s : TrackedProfile Image Data) :
    ProfileEvent Image → Option (TrackedProfile Image Data)
  | .user e => (s.screen.handle e).map fun screen => { s with screen := screen }
  | .saveTapped button =>
      if (s.screen.saveButton button).isTappable then
        let (screen, captured) := s.screen.saveTapped device
        some { s with
          screen := screen
          saves := s.saves ++ (captured.map (⟨·, .pending⟩)).toList }
      else none
  | .saveUserProfile i created => do
      let save ← s.saves[i]?
      if save.phase = .pending then
        some { s with
          files := saveUserProfile device created s.files save.profile
          saves := s.saves.set i { save with phase := .written } }
      else none
  | .completion i => do
      let save ← s.saves[i]?
      if save.phase = .written then
        some { s with
          screen := s.screen.saveCompleted
          saves := s.saves.set i { save with phase := .completed } }
      else none

variable [Unicode] {device : Device Image Data} {s s' : TrackedProfile Image Data}

/-! ## What one step does -/

theorem step_user {e : UserEvent Image} :
    step device s (.user e) = some s' ↔
      ∃ screen, s.screen.handle e = some screen ∧ { s with screen := screen } = s' := by
  simp only [step, Option.map_eq_some_iff]

theorem step_saveTapped {button : SaveButton} :
    step device s (.saveTapped button) = some s' ↔
      (s.screen.saveButton button).isTappable = true ∧
        { s with
          screen := (s.screen.saveTapped device).1
          saves := s.saves ++
            ((s.screen.saveTapped device).2.map (⟨·, .pending⟩)).toList } = s' := by
  simp only [step, Option.ite_none_right_eq_some, Option.some.injEq]

theorem step_saveUserProfile {i : Nat} {created : Bool} :
    step device s (.saveUserProfile i created) = some s' ↔
      ∃ save, s.saves[i]? = some save ∧ save.phase = .pending ∧
        { s with
          files := saveUserProfile device created s.files save.profile
          saves := s.saves.set i { save with phase := .written } } = s' := by
  simp only [step, Option.bind_eq_bind, Option.bind_eq_some_iff,
    Option.ite_none_right_eq_some, Option.some.injEq]

theorem step_completion {i : Nat} :
    step device s (.completion i) = some s' ↔
      ∃ save, s.saves[i]? = some save ∧ save.phase = .written ∧
        { s with
          screen := s.screen.saveCompleted
          saves := s.saves.set i { save with phase := .completed } } = s' := by
  simp only [step, Option.bind_eq_bind, Option.bind_eq_some_iff,
    Option.ite_none_right_eq_some, Option.some.injEq]

/-! ## The captured profiles

A save keeps the profile that it captured, and the image in it is the person
symbol: nothing ever assigns `profileImageView.image`.
-/

def profiles (s : TrackedProfile Image Data) : List (UserProfile Image) :=
  s.saves.map TrackedSave.profile

omit [Unicode] in
theorem getElem?_profiles {i : Nat} {save : TrackedSave Image}
    (h : s.saves[i]? = some save) : s.profiles[i]? = some save.profile := by
  rw [profiles, List.getElem?_map, h]
  rfl

/-- The profile that a step captures. -/
def captured (device : Device Image Data) (s : TrackedProfile Image Data) :
    ProfileEvent Image → List (UserProfile Image)
  | .saveTapped _ => (s.screen.captured device).toList
  | _ => []

theorem profiles_step {e : ProfileEvent Image} (hstep : step device s e = some s') :
    s'.profiles = s.profiles ++ s.captured device e := by
  cases e with
  | user e =>
      obtain ⟨screen, -, rfl⟩ := step_user.mp hstep
      exact (List.append_nil _).symm
  | saveTapped button =>
      obtain ⟨-, rfl⟩ := step_saveTapped.mp hstep
      simp only [profiles, captured, ProfileViewController.saveTapped_captured,
        List.map_append]
      cases s.screen.captured device <;> rfl
  | saveUserProfile i created =>
      obtain ⟨save, hsave, -, rfl⟩ := step_saveUserProfile.mp hstep
      simp only [captured, List.append_nil]
      exact map_set_same (f := TrackedSave.profile) hsave rfl
  | completion i =>
      obtain ⟨save, hsave, -, rfl⟩ := step_completion.mp hstep
      simp only [captured, List.append_nil]
      exact map_set_same (f := TrackedSave.profile) hsave rfl

theorem profiles_run {es : List (ProfileEvent Image)}
    (hrun : run (step device) s es = some s') : s.profiles <+: s'.profiles := by
  refine run_relates (R := fun s t => s.profiles <+: t.profiles)
    (fun _ => List.prefix_rfl) (fun _ _ _ => List.IsPrefix.trans) ?_ hrun
  intro s e s' hstep
  rw [profiles_step hstep]
  exact List.prefix_append _ _

theorem getElem?_profiles_run {es : List (ProfileEvent Image)} {i : Nat}
    {profile : UserProfile Image} (hrun : run (step device) s es = some s')
    (h : s.profiles[i]? = some profile) : s'.profiles[i]? = some profile := by
  obtain ⟨added, hadded⟩ := profiles_run hrun
  have hi : i < s.profiles.length := (List.getElem?_eq_some_iff.mp h).1
  rw [← hadded, List.getElem?_append_left hi, h]

structure SavesSymbol (device : Device Image Data) (s : TrackedProfile Image Data) :
    Prop where
  noImage : s.screen.profileImageView = none
  symbol : ∀ profile ∈ s.profiles,
    device.systemImage "person.fill" = some profile.userProfileImage

omit [Unicode] in
theorem savesSymbol_start (files : Files Data) : (start device files).SavesSymbol device :=
  ⟨rfl, by simp [profiles, start]⟩

theorem SavesSymbol.step {e : ProfileEvent Image} (hstep : step device s e = some s')
    (h : s.SavesSymbol device) : s'.SavesSymbol device := by
  have himage : s'.screen.profileImageView = s.screen.profileImageView := by
    cases e with
    | user e =>
        obtain ⟨screen, hscreen, rfl⟩ := step_user.mp hstep
        exact ProfileViewController.profileImageView_handle hscreen
    | saveTapped button =>
        obtain ⟨-, rfl⟩ := step_saveTapped.mp hstep
        exact ProfileViewController.profileImageView_saveTapped device
    | saveUserProfile i created =>
        obtain ⟨save, -, -, rfl⟩ := step_saveUserProfile.mp hstep
        rfl
    | completion i =>
        obtain ⟨save, -, -, rfl⟩ := step_completion.mp hstep
        rfl
  refine ⟨himage.trans h.noImage, fun profile hprofile => ?_⟩
  rw [profiles_step hstep, List.mem_append] at hprofile
  rcases hprofile with hprofile | hprofile
  · exact h.symbol profile hprofile
  · cases e with
    | saveTapped button =>
        simp only [captured, ProfileViewController.captured,
          ProfileViewController.userImage, h.noImage, Option.none_or,
          Option.mem_toList, Option.map_eq_some_iff] at hprofile
        obtain ⟨image, hsymbol, rfl⟩ := hprofile
        exact hsymbol
    | _ => cases hprofile

theorem savesSymbol_run {files : Files Data} {es : List (ProfileEvent Image)}
    (hrun : run (step device) (start device files) es = some s) :
    s.SavesSymbol device :=
  run_invariant (I := SavesSymbol device) (fun _ _ _ hstep h => h.step hstep) hrun
    (savesSymbol_start files)

/-! ## Milestones

What has happened to a save, in the order in which it happened.
-/

def milestone (i : Nat) : ProfileEvent Image → Option Milestone
  | .saveUserProfile j _ => if j = i then some .write else none
  | .completion j => if j = i then some .completion else none
  | _ => none

def milestones (s : TrackedProfile Image Data) (i : Nat) : List Milestone :=
  (s.saves[i]?.map fun save => save.phase.milestones).getD []

omit [Unicode] in
theorem milestones_prefix (s : TrackedProfile Image Data) (i : Nat) :
    s.milestones i <+: [.write, .completion] := by
  unfold milestones
  cases s.saves[i]? with
  | none => exact List.nil_prefix
  | some save => cases h : save.phase <;> simp [h, SavePhase.milestones]

omit [Unicode] in
theorem milestones_append (saves : List (TrackedSave Image)) (i : Nat)
    (captured : Option (UserProfile Image)) :
    (((saves ++ (captured.map (⟨·, .pending⟩)).toList : List (TrackedSave Image))[i]?).map
      fun save => save.phase.milestones).getD [] =
      (saves[i]?.map fun save => save.phase.milestones).getD [] := by
  cases captured with
  | none => simp
  | some profile =>
      rcases Nat.lt_trichotomy i saves.length with hi | rfl | hi
      · rw [List.getElem?_append_left hi]
      · simp [SavePhase.milestones]
      · rw [List.getElem?_eq_none (by simp; omega), List.getElem?_eq_none (by omega)]

omit [Unicode] in
theorem milestones_set {saves : List (TrackedSave Image)} {i j : Nat}
    {save : TrackedSave Image} {phase : SavePhase} {event : Milestone}
    (hsave : saves[j]? = some save)
    (hphase : phase.milestones = save.phase.milestones ++ [event]) :
    ((saves.set j { save with phase := phase })[i]?.map
      fun save => save.phase.milestones).getD [] =
      (saves[i]?.map fun save => save.phase.milestones).getD [] ++
        (if j = i then some event else none).toList := by
  by_cases hij : j = i
  · subst hij
    have hj : j < saves.length := (List.getElem?_eq_some_iff.mp hsave).1
    simp [List.getElem?_set_self hj, hsave, hphase]
  · simp [List.getElem?_set_ne hij, hij]

theorem milestones_step {e : ProfileEvent Image} (i : Nat)
    (hstep : step device s e = some s') :
    s'.milestones i = s.milestones i ++ (milestone i e).toList := by
  cases e with
  | user e =>
      obtain ⟨screen, -, rfl⟩ := step_user.mp hstep
      exact (List.append_nil _).symm
  | saveTapped button =>
      obtain ⟨-, rfl⟩ := step_saveTapped.mp hstep
      exact (milestones_append _ _ _).trans (List.append_nil _).symm
  | saveUserProfile j created =>
      obtain ⟨save, hsave, hphase, rfl⟩ := step_saveUserProfile.mp hstep
      exact milestones_set hsave (by rw [hphase]; rfl)
  | completion j =>
      obtain ⟨save, hsave, hphase, rfl⟩ := step_completion.mp hstep
      exact milestones_set hsave (by rw [hphase]; rfl)

theorem milestones_run {es : List (ProfileEvent Image)} (i : Nat)
    (hrun : run (step device) s es = some s') :
    s'.milestones i = s.milestones i ++ es.filterMap (milestone i) := by
  induction es generalizing s with
  | nil =>
      cases hrun
      exact (List.append_nil _).symm
  | cons e es ih =>
      obtain ⟨t, hstep, hrest⟩ := run_cons_eq_some.mp hrun
      rw [ih hrest, milestones_step i hstep, List.append_assoc]
      cases he : milestone i e <;> simp [he]

/-! ## The texts of the fields -/

def typed (texts : TextFieldType → String) :
    ProfileEvent Image → TextFieldType → String
  | .user e => ProfileViewController.typed texts e
  | _ => texts

theorem texts_step {e : ProfileEvent Image} (hstep : step device s e = some s') :
    s'.screen.texts = typed s.screen.texts e := by
  cases e with
  | user e =>
      obtain ⟨screen, hscreen, rfl⟩ := step_user.mp hstep
      exact ProfileViewController.texts_handle hscreen
  | saveTapped button =>
      obtain ⟨-, rfl⟩ := step_saveTapped.mp hstep
      exact ProfileViewController.texts_saveTapped device
  | saveUserProfile i created =>
      obtain ⟨save, -, -, rfl⟩ := step_saveUserProfile.mp hstep
      rfl
  | completion i =>
      obtain ⟨save, -, -, rfl⟩ := step_completion.mp hstep
      exact ProfileViewController.texts_saveCompleted

theorem texts_run {es : List (ProfileEvent Image)}
    (hrun : run (step device) s es = some s') :
    s'.screen.texts = es.foldl typed s.screen.texts :=
  run_foldl (f := fun s : TrackedProfile Image Data => s.screen.texts)
    (fun _ _ _ hstep => texts_step hstep) hrun

/-! ## The file -/

def writer? : ProfileEvent Image → Option Nat
  | .saveUserProfile i _ => some i
  | _ => none

omit [Unicode] in
theorem writer?_eq_some {e : ProfileEvent Image} {i : Nat} :
    writer? e = some i ↔ ∃ created, e = .saveUserProfile i created := by
  cases e <;> simp [writer?]

/-- The save whose write comes last. -/
def lastWriter (es : List (ProfileEvent Image)) : Option Nat :=
  (es.filterMap writer?).getLast?

omit [Unicode] in
theorem lastWriter_append_singleton (es : List (ProfileEvent Image))
    (e : ProfileEvent Image) :
    lastWriter (es ++ [e]) = (writer? e).or (lastWriter es) := by
  unfold lastWriter
  cases he : writer? e <;> simp [he]

theorem files_step {e : ProfileEvent Image} (hstep : step device s e = some s')
    (he : writer? e = none) : s'.files = s.files := by
  cases e with
  | user e =>
      obtain ⟨screen, -, rfl⟩ := step_user.mp hstep
      rfl
  | saveTapped button =>
      obtain ⟨-, rfl⟩ := step_saveTapped.mp hstep
      rfl
  | saveUserProfile i created => cases he
  | completion i =>
      obtain ⟨save, -, -, rfl⟩ := step_completion.mp hstep
      rfl

theorem holds_of_write {i : Nat} (hdevice : device.Healthy)
    (hs : s.SavesSymbol device)
    (hstep : step device s (.saveUserProfile i true) = some s') :
    ∃ profile, s'.profiles[i]? = some profile ∧ Holds device s'.files profile := by
  obtain ⟨save, hsave, -, rfl⟩ := step_saveUserProfile.mp hstep
  have hprofile := getElem?_profiles hsave
  obtain ⟨image, imageData, hsymbol, hpng⟩ := hdevice.symbol
  have himage := hs.symbol save.profile (List.mem_of_getElem? hprofile)
  rw [hsymbol, Option.some.injEq] at himage
  rw [himage] at hpng
  exact ⟨save.profile, getElem?_profiles_run (run_singleton.mpr hstep) hprofile,
    holds_saveUserProfile hdevice s.files hpng⟩

/-- When all writes succeed the file holds what the last writer captured. -/
theorem holds_lastWriter {files : Files Data} {es : List (ProfileEvent Image)}
    (hdevice : device.Healthy) (hcreated : ∀ i, .saveUserProfile i false ∉ es)
    (hrun : run (step device) (start device files) es = some s) {i : Nat}
    (hi : lastWriter es = some i) :
    ∃ profile, s.profiles[i]? = some profile ∧ Holds device s.files profile := by
  induction es using List.reverseRecOn generalizing s with
  | nil => cases hi
  | append_singleton es e ih =>
      obtain ⟨t, hbefore, hlast⟩ := run_append_eq_some.mp hrun
      rw [run_singleton] at hlast
      rw [lastWriter_append_singleton] at hi
      cases he : writer? e with
      | none =>
          rw [he, Option.none_or] at hi
          obtain ⟨profile, hprofile, hholds⟩ :=
            ih (fun j hj => hcreated j (List.mem_append_left _ hj)) hbefore hi
          rw [← files_step hlast he] at hholds
          exact ⟨profile, getElem?_profiles_run (run_singleton.mpr hlast) hprofile,
            hholds⟩
      | some j =>
          rw [he, Option.some_or] at hi
          obtain rfl := Option.some.inj hi
          obtain ⟨created, rfl⟩ := writer?_eq_some.mp he
          cases created with
          | false =>
              exact absurd (List.mem_append_right _ List.mem_cons_self) (hcreated j)
          | true => exact holds_of_write hdevice (savesSymbol_run hbefore) hlast

/-- Once a save has written there is a last writer. -/
theorem exists_lastWriter {files : Files Data} {es : List (ProfileEvent Image)}
    (hrun : run (step device) (start device files) es = some s) {i : Nat}
    {save : TrackedSave Image} (hsave : s.saves[i]? = some save)
    (hphase : save.phase ≠ .pending) : ∃ j, lastWriter es = some j := by
  have hhappened := milestones_run i hrun
  have hwrite : Milestone.write ∈ s.milestones i := by
    rw [milestones, hsave]
    cases hcase : save.phase with
    | pending => exact absurd hcase hphase
    | written => simp [hcase, SavePhase.milestones]
    | completed => simp [hcase, SavePhase.milestones]
  have hstart : (start device files).milestones i = [] := rfl
  rw [hhappened, hstart, List.nil_append] at hwrite
  obtain ⟨e, he, hmilestone⟩ := List.mem_filterMap.mp hwrite
  have hwriter : ∃ j, writer? e = some j := by
    cases e with
    | saveUserProfile j created => exact ⟨j, rfl⟩
    | completion j =>
        simp [milestone] at hmilestone
    | _ => cases hmilestone
  obtain ⟨j, hj⟩ := hwriter
  have hne : es.filterMap writer? ≠ [] :=
    List.ne_nil_of_mem (List.mem_filterMap.mpr ⟨e, he, hj⟩)
  exact ⟨_, List.getLast?_eq_some_getLast hne⟩

/-! ## Saves in turn

If every tap comes when the earlier saves have written, only the save tapped
last can be pending, and once it has written, its write is the last one.
-/

def AllWritten (s : TrackedProfile Image Data) : Prop :=
  ∀ save ∈ s.saves, save.phase ≠ .pending

structure InTurn (s : TrackedProfile Image Data) (last : Option Nat) : Prop where
  pending : ∀ i save, s.saves[i]? = some save → save.phase = .pending →
    i + 1 = s.saves.length
  written : s.AllWritten → ∀ i ∈ last, i + 1 = s.saves.length

omit [Unicode] in
theorem inTurn_start (files : Files Data) : (start device files).InTurn none where
  pending := fun i save hsave => by cases hsave
  written := fun _ i hi => by cases hi

omit [Unicode] in
theorem InTurn.append {last : Option Nat} (h : s.InTurn last) (hwritten : s.AllWritten)
    (screen : ProfileViewController Image) (captured : Option (UserProfile Image)) :
    InTurn { s with
      screen := screen
      saves := s.saves ++ (captured.map (⟨·, .pending⟩)).toList } last := by
  cases captured with
  | none =>
      refine ⟨fun i save hsave hpending => ?_, fun _ i hi => ?_⟩
      · simp only [Option.map_none, Option.toList_none, List.append_nil] at hsave ⊢
        exact h.pending i save hsave hpending
      · simp only [Option.map_none, Option.toList_none, List.append_nil]
        exact h.written hwritten i hi
  | some profile =>
      refine ⟨fun i save hsave hpending => ?_, fun hall => ?_⟩
      · rcases Nat.lt_or_ge i s.saves.length with hi | hi
        · -- an earlier save has written
          rw [List.getElem?_append_left hi] at hsave
          exact absurd hpending (hwritten save (List.mem_of_getElem? hsave))
        · have hlt := (List.getElem?_eq_some_iff.mp hsave).1
          simp only [Option.map_some, Option.toList_some, List.length_append,
            List.length_singleton] at hlt ⊢
          omega
      · exact absurd rfl (hall ⟨profile, .pending⟩ (by simp))

omit [Unicode] in
theorem InTurn.set {last : Option Nat} {i : Nat} {save : TrackedSave Image}
    {phase : SavePhase} (h : s.InTurn last) (hphase : phase ≠ .pending) :
    ∀ j other, (s.saves.set i { save with phase := phase })[j]? = some other →
      other.phase = .pending → j + 1 = s.saves.length := by
  intro j other hother hpending
  rcases getElem?_set_cases hother with ⟨-, hold⟩ | ⟨-, rfl⟩
  · exact h.pending j other hold hpending
  · exact absurd hpending hphase

theorem InTurn.step {e : ProfileEvent Image} {last : Option Nat} (h : s.InTurn last)
    (hstep : TrackedProfile.step device s e = some s')
    (hturn : ∀ button, e = .saveTapped button → s.AllWritten) :
    s'.InTurn ((writer? e).or last) := by
  cases e with
  | user e =>
      obtain ⟨screen, -, rfl⟩ := step_user.mp hstep
      exact ⟨h.pending, h.written⟩
  | saveTapped button =>
      obtain ⟨-, rfl⟩ := step_saveTapped.mp hstep
      exact h.append (hturn button rfl) _ _
  | saveUserProfile i created =>
      obtain ⟨save, hsave, hphase, rfl⟩ := step_saveUserProfile.mp hstep
      refine ⟨fun j other hother hpending => ?_, fun _ j hj => ?_⟩
      · rw [List.length_set]
        exact h.set (by decide) j other hother hpending
      · obtain rfl := Option.some.inj hj
        rw [List.length_set]
        exact h.pending i save hsave hphase
  | completion i =>
      obtain ⟨save, hsave, hphase, rfl⟩ := step_completion.mp hstep
      refine ⟨fun j other hother hpending => ?_, fun hall j hj => ?_⟩
      · rw [List.length_set]
        exact h.set (by decide) j other hother hpending
      · rw [List.length_set]
        refine h.written (fun other hother => ?_) j hj
        -- completing a save that has written makes no other save written
        obtain ⟨k, hk⟩ := List.getElem?_of_mem hother
        by_cases hik : i = k
        · subst hik
          obtain rfl := Option.some.inj (hsave.symm.trans hk)
          rw [hphase]
          decide
        · refine hall other (List.mem_of_getElem? (i := k) ?_)
          rw [List.getElem?_set_ne hik, hk]

end TrackedProfile

end Chatik
