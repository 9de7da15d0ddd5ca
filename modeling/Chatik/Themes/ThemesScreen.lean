import Chatik.Library.Runs
import Chatik.Themes.ThemeCell
import Mathlib.Data.List.Induction
import Mathlib.Logic.Function.Basic
import Mathlib.Tactic.IntervalCases

/-!
# The themes screen

`ThemesViewController` lists the three themes, and its delegate, the screen with the
channels, keeps the selected one and takes on its colours.  The selected theme is
stored once in the delegate and once in every cell on the screen.  The navigation
controller shows a themes screen over the channels until Cancel or Back is tapped;
the button that opens one is then not on the screen.  The table asks for a cell
whenever it shows a row and drops it when the row leaves the screen.
-/

namespace Chatik

open Chatik.Library

/-! ## The delegate -/

structure NavigationBarAppearance where
  backgroundColor : ThemeColor
  /-- Without a foreground colour a title has the one of the system. -/
  titleTextAttributes : Option ThemeColor
  largeTitleTextAttributes : Option ThemeColor
  deriving DecidableEq

/-- What `ConversationListViewController` keeps of themes. -/
structure ThemeDelegate where
  selectedThemeBuffer : Theme
  standardAppearance : NavigationBarAppearance
  compactAppearance : NavigationBarAppearance
  scrollEdgeAppearance : NavigationBarAppearance
  view : ThemeColor
  profileBarButton : ThemeColor
  settingsBarButton : ThemeColor
  channelBarButton : ThemeColor
  deriving DecidableEq

namespace ThemeDelegate

/-- The appearance before the first selection. -/
def launchAppearance : NavigationBarAppearance where
  backgroundColor := .named "TinkoffYellow"
  titleTextAttributes := some .black
  largeTitleTextAttributes := some .black

def viewDidLoad : ThemeDelegate where
  selectedThemeBuffer := .classic
  standardAppearance := launchAppearance
  compactAppearance := launchAppearance
  scrollEdgeAppearance := launchAppearance
  view := .systemBackground
  profileBarButton := .black
  settingsBarButton := .black
  channelBarButton := .black

def selectedTheme (s : ThemeDelegate) : Theme := s.selectedThemeBuffer

def setTheme (s : ThemeDelegate) : ThemeDelegate :=
  let (appearanceNew, view) : NavigationBarAppearance × ThemeColor :=
    match s.selectedTheme with
    | .classic => (⟨.named "TinkoffYellow", none, none⟩, .white)
    | .day => (⟨.dayColor, none, none⟩, .dayColor)
    | .night => (⟨.nightColor, some .white, some .white⟩, .nightColor)
  let titleColor : ThemeColor := if s.selectedTheme = Theme.night then .white else .black
  { s with
    standardAppearance := appearanceNew
    compactAppearance := appearanceNew
    scrollEdgeAppearance := appearanceNew
    view := view
    profileBarButton := titleColor
    settingsBarButton := titleColor
    channelBarButton := titleColor }

def setSelectedTheme (s : ThemeDelegate) (newValue : Theme) : ThemeDelegate :=
  setTheme { s with selectedThemeBuffer := newValue }

/-- The appearance in a theme that has been selected. -/
def appearance : Theme → NavigationBarAppearance
  | .classic => ⟨.named "TinkoffYellow", none, none⟩
  | .day => ⟨.dayColor, none, none⟩
  | .night => ⟨.nightColor, some .white, some .white⟩

/-- The screen in a theme that has been selected. -/
def themed (theme : Theme) : ThemeDelegate where
  selectedThemeBuffer := theme
  standardAppearance := appearance theme
  compactAppearance := appearance theme
  scrollEdgeAppearance := appearance theme
  view := if theme = .classic then .white else theme.background
  profileBarButton := theme.titleColor
  settingsBarButton := theme.titleColor
  channelBarButton := theme.titleColor

/-- A selection leaves nothing of the theme before it. -/
theorem setSelectedTheme_eq (s : ThemeDelegate) (theme : Theme) :
    s.setSelectedTheme theme = themed theme := by
  cases theme <;> rfl

end ThemeDelegate

/-! ## The screen -/

/-- The cell that the table hands out, or a cell of another class. -/
inductive TableViewCell where
  | themeCell (cell : ThemeCell)
  | other
  deriving DecidableEq

def TableViewCell.setSelectedTheme (theme : Theme) : TableViewCell → TableViewCell
  | .themeCell cell => .themeCell (cell.setSelectedTheme theme)
  | .other => .other

structure ThemesViewController where
  containerView : ThemeColor
  view : ThemeColor
  cells : Nat → Option TableViewCell

namespace ThemesViewController

def numberOfRowsInSection : Nat := 3

def setTheme (s : ThemesViewController) (theme : Theme) : ThemesViewController :=
  match theme with
  | .classic => { s with containerView := .classicColor, view := .classicColor }
  | .day => { s with containerView := .dayColor, view := .dayColor }
  | .night => { s with containerView := .nightColor, view := .nightColor }

def delegateTheme (delegate : Option ThemeDelegate) : Theme :=
  (delegate.map ThemeDelegate.selectedTheme).getD .classic

/-- The scene of the storyboard, and no row shown yet. -/
def viewDidLoad (delegate : Option ThemeDelegate) : ThemesViewController :=
  setTheme ⟨.systemGray6, .systemGray3, fun _ => none⟩ (delegateTheme delegate)

def typeTheme (row : Nat) : Theme :=
  match row with
  | 0 => .classic
  | 1 => .day
  | 2 => .night
  | _ => .classic

def cellForRowAt (delegate : Option ThemeDelegate) (row : Nat) :
    TableViewCell → TableViewCell
  | .other => .other
  | .themeCell cell =>
      .themeCell ((cell.setTypeTheme (typeTheme row)).setSelectedTheme (delegateTheme delegate))

/-- The loop over the visible cells; `false` if it has met a cell of another class, where
the whole handler returns. -/
def selectVisible (theme : Theme) :
    List Nat → (Nat → Option TableViewCell) → (Nat → Option TableViewCell) × Bool
  | [], cells => (cells, true)
  | row :: rows, cells =>
      match cells row with
      | none => selectVisible theme rows cells
      | some .other => (cells, false)
      | some (.themeCell cell) =>
          selectVisible theme rows
            (Function.update cells row (some (.themeCell (cell.setSelectedTheme theme))))

def didSelectRowAt (delegate : Option ThemeDelegate) (s : ThemesViewController) (row : Nat) :
    Option ThemeDelegate × ThemesViewController :=
  let selectedTheme := (Theme.ofRawValue? row).getD .classic
  let delegate := delegate.map fun delegate => delegate.setSelectedTheme selectedTheme
  match selectVisible selectedTheme (List.range numberOfRowsInSection) s.cells with
  | (cells, false) => (delegate, { s with cells := cells })
  | (cells, true) => (delegate, { s with cells := cells }.setTheme selectedTheme)

/-- The theme that a row draws is the one that a tap on it selects. -/
theorem typeTheme_eq (row : Nat) : typeTheme row = (Theme.ofRawValue? row).getD .classic := by
  match row with
  | 0 => rfl
  | 1 => rfl
  | 2 => rfl
  | n + 3 =>
      have hvalue : Theme.ofRawValue? ((n + 3 : Nat) : Int) = none := by
        unfold Theme.ofRawValue?
        rw [if_neg (by omega), if_neg (by omega), if_neg (by omega)]
      rw [hvalue]
      rfl

theorem setTheme_eq (s : ThemesViewController) (theme : Theme) :
    s.setTheme theme =
      { s with containerView := theme.background, view := theme.background } := by
  cases theme <;> rfl

/-- Where every visible cell is a theme cell the loop reaches all of them. -/
theorem selectVisible_of_themeCells (theme : Theme) {rows : List Nat} (hnodup : rows.Nodup)
    {cells : Nat → Option TableViewCell} (hcells : ∀ row, cells row ≠ some .other) :
    selectVisible theme rows cells =
      (fun row => if row ∈ rows then (cells row).map (TableViewCell.setSelectedTheme theme)
        else cells row, true) := by
  induction rows generalizing cells with
  | nil => simp [selectVisible]
  | cons first rows ih =>
      obtain ⟨hfirst, hrest⟩ := List.nodup_cons.mp hnodup
      cases hcell : cells first with
      | none =>
          simp only [selectVisible, hcell]
          rw [ih hrest hcells]
          congr 1
          funext row
          by_cases hrow : row = first
          · subst hrow
            simp [hfirst, hcell]
          · simp [hrow]
      | some visible =>
          cases visible with
          | other => exact absurd hcell (hcells first)
          | themeCell cell =>
              simp only [selectVisible, hcell]
              rw [ih hrest fun row => ?_]
              · congr 1
                funext row
                by_cases hrow : row = first
                · subst hrow
                  simp [hfirst, hcell, TableViewCell.setSelectedTheme]
                · simp [hrow]
              · by_cases hrow : row = first
                · subst hrow
                  simp
                · rw [Function.update_of_ne hrow]
                  exact hcells row

end ThemesViewController

/-! ## Runs -/

structure Themes where
  delegate : ThemeDelegate
  themesVC : Option ThemesViewController

inductive ThemesEvent where
  | settingsButtonTapped
  | cellForRowAt (row : Nat) (dequeued : TableViewCell)
  | didEndDisplaying (row : Nat)
  | didSelectRowAt (row : Nat)
  | cancelButtonTapped

/-- The cells registered for the table are theme cells. -/
def ThemesEvent.DequeuesThemeCell (e : ThemesEvent) : Prop :=
  ∀ row, e ≠ .cellForRowAt row .other

def ThemesEvent.selection? : ThemesEvent → Option Theme
  | .didSelectRowAt row => some (ThemesViewController.typeTheme row)
  | _ => none

namespace Themes

def start : Themes := ⟨.viewDidLoad, none⟩

def step (s : Themes) : ThemesEvent → Option Themes
  | .settingsButtonTapped =>
      if s.themesVC.isNone then
        some { s with themesVC := some (.viewDidLoad (some s.delegate)) }
      else none
  | .cellForRowAt row dequeued => do
      let themesVC ← s.themesVC
      if row < ThemesViewController.numberOfRowsInSection then
        let cell := ThemesViewController.cellForRowAt (some s.delegate) row dequeued
        some { s with
          themesVC := some { themesVC with
            cells := Function.update themesVC.cells row (some cell) } }
      else none
  | .didEndDisplaying row => do
      let themesVC ← s.themesVC
      some { s with
        themesVC := some { themesVC with cells := Function.update themesVC.cells row none } }
  | .didSelectRowAt row => do
      let themesVC ← s.themesVC
      let _ ← themesVC.cells row
      let (delegate, themesVC) := themesVC.didSelectRowAt (some s.delegate) row
      some ⟨delegate.getD s.delegate, some themesVC⟩
  | .cancelButtonTapped => s.themesVC.map fun _ => { s with themesVC := none }

/-- The theme that was selected last. -/
def lastSelected (es : List ThemesEvent) : Option Theme :=
  es.foldl (fun selected e => e.selection?.or selected) none

/-- The screen with the channels after a selection. -/
def shownDelegate (selected : Option Theme) : ThemeDelegate :=
  match selected with
  | none => .viewDidLoad
  | some theme => .themed theme

variable {s s' : Themes} {e : ThemesEvent}

theorem step_didSelectRowAt {row : Nat} (h : step s (.didSelectRowAt row) = some s') :
    ∃ themesVC cell, s.themesVC = some themesVC ∧ themesVC.cells row = some cell ∧
      s'.delegate = .themed (ThemesViewController.typeTheme row) ∧
      s'.themesVC = some (themesVC.didSelectRowAt (some s.delegate) row).2 := by
  simp only [step, Option.bind_eq_bind, Option.bind_eq_some_iff, Option.some.injEq] at h
  obtain ⟨themesVC, hthemes, cell, hcell, rfl⟩ := h
  refine ⟨themesVC, cell, hthemes, hcell, ?_, rfl⟩
  have hdelegate : (themesVC.didSelectRowAt (some s.delegate) row).1 =
      some (.themed (ThemesViewController.typeTheme row)) := by
    rw [ThemesViewController.typeTheme_eq]
    simp only [ThemesViewController.didSelectRowAt, Option.map_some,
      ThemeDelegate.setSelectedTheme_eq]
    split <;> rfl
  simp only [hdelegate, Option.getD_some]

/-- Only a selection reaches the screen with the channels. -/
theorem delegate_step {selected : Option Theme} (h : s.delegate = shownDelegate selected)
    (hstep : step s e = some s') : s'.delegate = shownDelegate (e.selection?.or selected) := by
  cases e with
  | settingsButtonTapped =>
      simp only [step, Option.ite_none_right_eq_some, Option.some.injEq] at hstep
      obtain ⟨-, rfl⟩ := hstep
      exact h
  | cellForRowAt row dequeued =>
      simp only [step, Option.bind_eq_bind, Option.bind_eq_some_iff,
        Option.ite_none_right_eq_some, Option.some.injEq] at hstep
      obtain ⟨themesVC, -, -, rfl⟩ := hstep
      exact h
  | didEndDisplaying row =>
      simp only [step, Option.bind_eq_bind, Option.bind_eq_some_iff, Option.some.injEq] at hstep
      obtain ⟨themesVC, -, rfl⟩ := hstep
      exact h
  | didSelectRowAt row =>
      obtain ⟨themesVC, cell, -, -, hdelegate, -⟩ := step_didSelectRowAt hstep
      exact hdelegate
  | cancelButtonTapped =>
      obtain ⟨themesVC, -, rfl⟩ := Option.map_eq_some_iff.mp hstep
      exact h

theorem delegate_run {es : List ThemesEvent} (hrun : run step start es = some s) :
    s.delegate = shownDelegate (lastSelected es) := by
  induction es using List.reverseRecOn generalizing s with
  | nil =>
      obtain rfl := Option.some.inj hrun
      rfl
  | append_singleton es e ih =>
      obtain ⟨t, hbefore, hlast⟩ := run_append_eq_some.mp hrun
      rw [run_singleton] at hlast
      rw [lastSelected, List.foldl_append]
      exact delegate_step (ih hbefore) hlast

/-! ## One theme everywhere -/

/-- The themes screen and every cell on it show the theme of the delegate. -/
structure Shows (themesVC : ThemesViewController) (selectedTheme : Theme) : Prop where
  containerView : themesVC.containerView = selectedTheme.background
  view : themesVC.view = selectedTheme.background
  cells : ∀ row cell, themesVC.cells row = some cell →
    row < ThemesViewController.numberOfRowsInSection ∧
      cell = .themeCell (.drawn (ThemesViewController.typeTheme row) selectedTheme)

def Coherent (s : Themes) : Prop :=
  ∀ themesVC, s.themesVC = some themesVC → Shows themesVC s.delegate.selectedTheme

theorem Shows.ne_other {themesVC : ThemesViewController} {theme : Theme}
    (h : Shows themesVC theme) (row : Nat) : themesVC.cells row ≠ some .other := by
  intro hother
  obtain ⟨-, hcell⟩ := h.cells row _ hother
  cases hcell

theorem shows_viewDidLoad (delegate : ThemeDelegate) :
    Shows (.viewDidLoad (some delegate)) delegate.selectedTheme := by
  rw [ThemesViewController.viewDidLoad, ThemesViewController.setTheme_eq]
  exact ⟨rfl, rfl, fun row cell hcell => by cases hcell⟩

/-- A selection reaches every cell that is visible. -/
theorem Shows.didSelectRowAt {themesVC : ThemesViewController} {theme : Theme}
    (h : Shows themesVC theme) (delegate : Option ThemeDelegate) (row : Nat) :
    Shows (themesVC.didSelectRowAt delegate row).2 (ThemesViewController.typeTheme row) := by
  have hvisible := ThemesViewController.selectVisible_of_themeCells
    ((Theme.ofRawValue? row).getD .classic)
    (List.nodup_range (n := ThemesViewController.numberOfRowsInSection)) h.ne_other
  simp only [ThemesViewController.typeTheme_eq row, ThemesViewController.didSelectRowAt,
    hvisible, ThemesViewController.setTheme_eq]
  refine ⟨rfl, rfl, fun other cell hcell => ?_⟩
  simp only at hcell
  split at hcell
  · rename_i hmem
    obtain ⟨before, hbefore, rfl⟩ := Option.map_eq_some_iff.mp hcell
    obtain ⟨-, rfl⟩ := h.cells other before hbefore
    refine ⟨List.mem_range.mp hmem, ?_⟩
    exact congrArg TableViewCell.themeCell (ThemeCell.setSelectedTheme_drawn _ _ _)
  · rename_i hmem
    obtain ⟨hrow, -⟩ := h.cells other cell hcell
    exact absurd (List.mem_range.mpr hrow) hmem

theorem Coherent.step (h : s.Coherent) (he : e.DequeuesThemeCell)
    (hstep : Themes.step s e = some s') : s'.Coherent := by
  cases e with
  | settingsButtonTapped =>
      simp only [Themes.step, Option.ite_none_right_eq_some, Option.some.injEq] at hstep
      obtain ⟨-, rfl⟩ := hstep
      intro themesVC hthemes
      obtain rfl := Option.some.inj hthemes
      exact shows_viewDidLoad s.delegate
  | cellForRowAt row dequeued =>
      simp only [Themes.step, Option.bind_eq_bind, Option.bind_eq_some_iff,
        Option.ite_none_right_eq_some, Option.some.injEq] at hstep
      obtain ⟨before, hbefore, hrow, rfl⟩ := hstep
      intro themesVC hthemes
      obtain rfl := Option.some.inj hthemes
      obtain ⟨hcontainer, hview, hcells⟩ := h before hbefore
      refine ⟨hcontainer, hview, fun other cell hcell => ?_⟩
      by_cases hother : other = row
      · subst hother
        simp only [Function.update_self, Option.some.injEq] at hcell
        subst hcell
        refine ⟨hrow, ?_⟩
        cases dequeued with
        | other => exact absurd rfl (he other)
        | themeCell cell =>
            exact congrArg TableViewCell.themeCell
              (ThemeCell.setSelectedTheme_setTypeTheme cell _ _)
      · simp only [Function.update_of_ne hother] at hcell
        exact hcells other cell hcell
  | didEndDisplaying row =>
      simp only [Themes.step, Option.bind_eq_bind, Option.bind_eq_some_iff,
        Option.some.injEq] at hstep
      obtain ⟨before, hbefore, rfl⟩ := hstep
      intro themesVC hthemes
      obtain rfl := Option.some.inj hthemes
      obtain ⟨hcontainer, hview, hcells⟩ := h before hbefore
      refine ⟨hcontainer, hview, fun other cell hcell => ?_⟩
      by_cases hother : other = row
      · simp only [hother, Function.update_self] at hcell
        cases hcell
      · simp only [Function.update_of_ne hother] at hcell
        exact hcells other cell hcell
  | didSelectRowAt row =>
      obtain ⟨before, cell, hbefore, -, hdelegate, hafter⟩ := step_didSelectRowAt hstep
      intro themesVC hthemes
      rw [hafter, Option.some.injEq] at hthemes
      subst hthemes
      rw [hdelegate]
      exact (h before hbefore).didSelectRowAt _ row
  | cancelButtonTapped =>
      obtain ⟨themesVC, -, rfl⟩ := Option.map_eq_some_iff.mp hstep
      intro other hother
      cases hother

theorem coherent_run {es : List ThemesEvent} (hrun : run step start es = some s)
    (hes : ∀ e ∈ es, e.DequeuesThemeCell) : s.Coherent := by
  refine run_invariant_of_forall (I := Coherent) (fun _ _ _ he hstep h => h.step he hstep)
    hrun hes ?_
  intro themesVC hthemes
  cases hthemes

/-- However the themes screen is opened, scrolled, tapped and closed, the screen with the
channels shows the theme that was selected last, a themes screen shows the same, and among
its visible rows the highlighted one is the row of that theme. -/
theorem one_theme_everywhere (es : List ThemesEvent) (s : Themes)
    (hrun : run step start es = some s) (hes : ∀ e ∈ es, e.DequeuesThemeCell) :
    s.delegate = shownDelegate (lastSelected es) ∧
    ∀ themesVC, s.themesVC = some themesVC →
      Shows themesVC ((lastSelected es).getD .classic) ∧
      ∀ row cell, themesVC.cells row = some (.themeCell cell) →
        (cell.isHighlighted = true ↔
          Theme.ofRawValue? row = some ((lastSelected es).getD .classic)) := by
  have hdelegate := delegate_run hrun
  have hselected : s.delegate.selectedTheme = (lastSelected es).getD .classic := by
    rw [hdelegate]
    cases lastSelected es <;> rfl
  refine ⟨hdelegate, fun themesVC hthemes => ?_⟩
  have hshows := coherent_run hrun hes themesVC hthemes
  rw [hselected] at hshows
  refine ⟨hshows, fun row cell hcell => ?_⟩
  obtain ⟨hrow, hdrawn⟩ := hshows.cells row _ hcell
  obtain rfl := TableViewCell.themeCell.inj hdrawn
  rw [ThemeCell.isHighlighted_drawn, decide_eq_true_iff]
  have hvalue : Theme.ofRawValue? row = some (ThemesViewController.typeTheme row) := by
    have hthree : row < 3 := hrow
    interval_cases row <;> rfl
  rw [hvalue, Option.some.injEq]

/-! ## A selection before and one after the screen was closed -/

def reopened : List ThemesEvent :=
  [.settingsButtonTapped, .cellForRowAt 0 (.themeCell .loaded),
    .cellForRowAt 2 (.themeCell .loaded), .didSelectRowAt 2, .cancelButtonTapped,
    .settingsButtonTapped, .cellForRowAt 1 (.themeCell (.drawn .night .day))]

theorem one_theme_everywhere_reopened : ∃ s : Themes, run step start reopened = some s ∧
    s.themesVC.isSome = true ∧ s.delegate = .themed .night ∧
    ∀ themesVC, s.themesVC = some themesVC → Shows themesVC .night := by
  have hshown : (run step start reopened).map (fun s => s.themesVC.isSome) = some true := by
    decide
  obtain ⟨s, hrun, hopen⟩ := Option.map_eq_some_iff.mp hshown
  have hcells : ∀ e ∈ reopened, e.DequeuesThemeCell := by
    simp [reopened, ThemesEvent.DequeuesThemeCell]
  obtain ⟨hdelegate, hscreen⟩ := one_theme_everywhere reopened s hrun hcells
  exact ⟨s, hrun, hopen, hdelegate, fun themesVC h => (hscreen themesVC h).1⟩

end Themes

end Chatik
