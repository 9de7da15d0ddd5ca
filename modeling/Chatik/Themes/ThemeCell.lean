import Mathlib.Tactic.Common

/-!
# The theme cell

`ThemeCell` draws one theme, and by its border and the colour around it shows which
theme is selected.  Both of its properties redraw the cell when they are assigned.
Colours are told apart by the names under which the code asks for them; both colours
of the asset catalogue that it asks for exist.
-/

namespace Chatik

inductive Theme where
  | classic
  | day
  | night
  deriving DecidableEq

namespace Theme

def rawValue : Theme → Int
  | .classic => 0
  | .day => 1
  | .night => 2

def ofRawValue? (value : Int) : Option Theme :=
  if value = 0 then some .classic
  else if value = 1 then some .day
  else if value = 2 then some .night
  else none

@[simp] theorem ofRawValue?_rawValue (theme : Theme) :
    ofRawValue? theme.rawValue = some theme := by
  cases theme <;> rfl

/-- What the interpolation of a theme into a string gives. -/
def description : Theme → String
  | .classic => "classic"
  | .day => "day"
  | .night => "night"

end Theme

inductive ThemeColor where
  | white
  | black
  | yellow
  | systemYellow
  | systemTeal
  | systemGray2
  | systemGray3
  | systemGray4
  | systemGray6
  | systemBackground
  | named (name : String)
  deriving DecidableEq

namespace ThemeColor

def classicColor : ThemeColor := .systemGray6
def dayColor : ThemeColor := .systemGray4
def nightColor : ThemeColor := .black

end ThemeColor

structure ChatView where
  backgroundColor : ThemeColor
  cornerRadius : Nat
  masksToBounds : Bool
  deriving DecidableEq

structure BorderedView extends ChatView where
  borderColor : ThemeColor
  borderWidth : Nat
  deriving DecidableEq

structure ThemeLabel where
  text : String
  textColor : Option ThemeColor
  deriving DecidableEq

structure ThemeCell where
  typeTheme : Theme
  selectedTheme : Theme
  container : BorderedView
  themeName : ThemeLabel
  leftChat : ChatView
  rightChat : ChatView
  contentView : Option ThemeColor
  deriving DecidableEq

namespace ThemeCell

/-- The cell as `ThemeCell.xib` describes it. -/
def loaded : ThemeCell where
  typeTheme := .classic
  selectedTheme := .classic
  container := ⟨⟨.systemGray2, 0, false⟩, .black, 0⟩
  themeName := ⟨"Label", none⟩
  leftChat := ⟨.systemTeal, 0, false⟩
  rightChat := ⟨.systemYellow, 0, false⟩
  contentView := none

def bordering (cell : ThemeCell) : ThemeCell :=
  let cell :=
    if cell.typeTheme = cell.selectedTheme then
      { cell with container := { cell.container with borderColor := .yellow, borderWidth := 3 } }
    else
      { cell with
        container := { cell.container with borderWidth := 2, borderColor := .systemGray2 } }
  let cell := { cell with
    themeName := { cell.themeName with
      textColor := some (if cell.selectedTheme = Theme.night then .white else .black) } }
  match cell.selectedTheme with
  | .classic => { cell with contentView := some .classicColor }
  | .day => { cell with contentView := some .dayColor }
  | .night => { cell with contentView := some .nightColor }

def coloring (cell : ThemeCell) : ThemeCell :=
  let cell := { cell with
    themeName := { cell.themeName with text := cell.typeTheme.description } }
  let cell := match cell.typeTheme with
    | .classic => { cell with
        container := { cell.container with backgroundColor := .white }
        leftChat := { cell.leftChat with backgroundColor := .named "Light" }
        rightChat := { cell.rightChat with backgroundColor := .systemGray6 } }
    | .day => { cell with
        container := { cell.container with backgroundColor := .white }
        leftChat := { cell.leftChat with backgroundColor := .systemTeal }
        rightChat := { cell.rightChat with backgroundColor := .systemGray6 } }
    | .night => { cell with
        container := { cell.container with backgroundColor := .black }
        leftChat := { cell.leftChat with backgroundColor := .systemGray2 }
        rightChat := { cell.rightChat with backgroundColor := .systemGray4 } }
  let cell := { cell with
    container := { cell.container with cornerRadius := 7, masksToBounds := true }
    leftChat := { cell.leftChat with cornerRadius := 7, masksToBounds := true }
    rightChat := { cell.rightChat with cornerRadius := 7, masksToBounds := true } }
  cell.bordering

def setTypeTheme (cell : ThemeCell) (typeTheme : Theme) : ThemeCell :=
  coloring { cell with typeTheme := typeTheme }

def setSelectedTheme (cell : ThemeCell) (selectedTheme : Theme) : ThemeCell :=
  bordering { cell with selectedTheme := selectedTheme }

/-! ## What the cell is to show -/

/-- The colours of the container and of the two chats in it. -/
def palette : Theme → ThemeColor × ThemeColor × ThemeColor
  | .classic => (.white, .named "Light", .systemGray6)
  | .day => (.white, .systemTeal, .systemGray6)
  | .night => (.black, .systemGray2, .systemGray4)

end ThemeCell

def Theme.background : Theme → ThemeColor
  | .classic => .classicColor
  | .day => .dayColor
  | .night => .nightColor

def Theme.titleColor (theme : Theme) : ThemeColor :=
  if theme = .night then .white else .black

namespace ThemeCell

/-- The cell for a theme while a theme is selected. -/
def drawn (typeTheme selectedTheme : Theme) : ThemeCell where
  typeTheme := typeTheme
  selectedTheme := selectedTheme
  container := {
    backgroundColor := (palette typeTheme).1
    cornerRadius := 7
    masksToBounds := true
    borderColor := if typeTheme = selectedTheme then .yellow else .systemGray2
    borderWidth := if typeTheme = selectedTheme then 3 else 2 }
  themeName := ⟨typeTheme.description, some selectedTheme.titleColor⟩
  leftChat := ⟨(palette typeTheme).2.1, 7, true⟩
  rightChat := ⟨(palette typeTheme).2.2, 7, true⟩
  contentView := some selectedTheme.background

def isHighlighted (cell : ThemeCell) : Bool :=
  decide (cell.container.borderColor = .yellow ∧ cell.container.borderWidth = 3)

theorem isHighlighted_drawn (typeTheme selectedTheme : Theme) :
    (drawn typeTheme selectedTheme).isHighlighted = decide (typeTheme = selectedTheme) := by
  cases typeTheme <;> cases selectedTheme <;> decide

/-- Whatever a cell was used for, assigning both properties draws it anew. -/
theorem setSelectedTheme_setTypeTheme (cell : ThemeCell) (typeTheme selectedTheme : Theme) :
    (cell.setTypeTheme typeTheme).setSelectedTheme selectedTheme =
      drawn typeTheme selectedTheme := by
  obtain ⟨typeBefore, selectedBefore, container, themeName, leftChat, rightChat, contentView⟩ :=
    cell
  cases typeTheme <;> cases selectedBefore <;> cases selectedTheme <;> rfl

theorem setSelectedTheme_drawn (typeTheme selectedTheme newValue : Theme) :
    (drawn typeTheme selectedTheme).setSelectedTheme newValue = drawn typeTheme newValue := by
  cases typeTheme <;> cases selectedTheme <;> cases newValue <;> rfl

end ThemeCell

end Chatik
