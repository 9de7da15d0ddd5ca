import Chatik.Model.ChatikAppModel

/-!
# The cells

`ChannelCell`, `InMessageCell` and `SendingMessageCell` with the labels that their
outlets name.  In `ChannelCell.xib` the outlets `lastChannelMessageTitle` and
`viewCellChannel` lead to one label.  A table view dequeues a cell that it has
shown before, after `prepareForReuse`, or else one loaded from the xib; both xibs
and classes are registered under the identifiers that the screens ask for, so the
casts of the dequeued cells succeed.
-/

namespace Chatik

/-- `DateFormatter` with a `dateFormat`, in the time zone of the device. -/
class DateFormatter (Date : Type) where
  string : String → Date → String

inductive UIColor where
  | white
  | black
  | systemGray
  /-- What a label has whose `textColor` is nil. -/
  | labelColor
  /-- A third of white, in generic gamma 2.2. -/
  | darkGray
  deriving DecidableEq

inductive UIFont where
  | system (size : Nat)
  | boldSystem (size : Nat)
  | semiboldSystem (size : Nat)
  | italicSystem (size : Nat)
  deriving DecidableEq

structure UILabel where
  text : Option String
  font : UIFont
  textColor : UIColor
  backgroundColor : Option UIColor
  deriving DecidableEq

structure ChannelCell where
  lastChannelMessageTitle : UILabel
  nameChannelTitle : UILabel
  lastActivityTitle : UILabel

structure InMessageCell where
  senderLabel : UILabel
  timeLabel : UILabel
  messageLabel : UILabel

structure SendingMessageCell where
  timeLabel : UILabel
  messageLabel : UILabel

variable {Date : Type} [DateFormatter Date]

namespace ChannelCell

def configure (cell : ChannelCell) (model : Channel Date) : ChannelCell :=
  let dateString := match model.lastActivity with
    | none => "00:00"
    | some date => DateFormatter.string "HH:mm" date
  let cell := { cell with
    nameChannelTitle := { cell.nameChannelTitle with text := some model.name }
    lastActivityTitle := { cell.lastActivityTitle with text := some dateString } }
  match model.lastMessage with
  | some lastMessage => { cell with
      lastChannelMessageTitle :=
        { cell.lastChannelMessageTitle with text := some lastMessage } }
  | none => { cell with
      lastChannelMessageTitle := { cell.lastChannelMessageTitle with
        font := .italicSystem 15
        textColor := .systemGray
        text := some "No message yet" } }

def prepareForReuse (cell : ChannelCell) : ChannelCell where
  -- `viewCellChannel` and `lastChannelMessageTitle` are outlets of one label
  lastChannelMessageTitle := { cell.lastChannelMessageTitle with
    backgroundColor := some .white
    textColor := .black
    font := .system 15 }
  nameChannelTitle := { cell.nameChannelTitle with text := none }
  lastActivityTitle := { cell.lastActivityTitle with text := none }

/-- The cell as `ChannelCell.xib` describes it. -/
def loaded : ChannelCell where
  lastChannelMessageTitle := ⟨some "Привет, как жизнь?", .system 15, .labelColor, none⟩
  nameChannelTitle := ⟨some "Boltushki", .boldSystem 18, .labelColor, none⟩
  lastActivityTitle := ⟨some "19:15", .system 17, .darkGray, none⟩

def dequeue (reused : Option ChannelCell) : ChannelCell :=
  match reused with
  | none => loaded
  | some cell => cell.prepareForReuse

/-- The texts of the cell are those of the channel. -/
structure Shows (cell : ChannelCell) (model : Channel Date) : Prop where
  name : cell.nameChannelTitle.text = some model.name
  lastActivity : cell.lastActivityTitle.text =
    some ((model.lastActivity.map (DateFormatter.string "HH:mm")).getD "00:00")
  lastMessage : cell.lastChannelMessageTitle.text =
    some (model.lastMessage.getD "No message yet")

theorem shows_configure (cell : ChannelCell) (model : Channel Date) :
    (cell.configure model).Shows model := by
  obtain ⟨identifier, name, lastMessage, lastActivity⟩ := model
  cases lastMessage <;> cases lastActivity <;> exact ⟨rfl, rfl, rfl⟩

end ChannelCell

namespace InMessageCell

def configure (cell : InMessageCell) (model : Message Date) : InMessageCell where
  messageLabel := { cell.messageLabel with text := some model.content }
  senderLabel := { cell.senderLabel with text := some model.senderName }
  timeLabel := { cell.timeLabel with
    text := some (DateFormatter.string "HH:mm" model.created) }

def prepareForReuse (cell : InMessageCell) : InMessageCell :=
  { cell with messageLabel := { cell.messageLabel with text := none } }

/-- The cell as `InMessageCell.xib` describes it. -/
def loaded : InMessageCell where
  senderLabel := ⟨some "me", .semiboldSystem 16, .labelColor, none⟩
  timeLabel := ⟨some "0", .system 15, .darkGray, none⟩
  messageLabel := ⟨some "Label", .system 15, .labelColor, none⟩

def dequeue (reused : Option InMessageCell) : InMessageCell :=
  match reused with
  | none => loaded
  | some cell => cell.prepareForReuse

end InMessageCell

namespace SendingMessageCell

def configure (cell : SendingMessageCell) (model : Message Date) :
    SendingMessageCell where
  messageLabel := { cell.messageLabel with text := some model.content }
  timeLabel := { cell.timeLabel with
    text := some (DateFormatter.string "HH:mm" model.created) }

def prepareForReuse (cell : SendingMessageCell) : SendingMessageCell :=
  { cell with messageLabel := { cell.messageLabel with text := none } }

/-- The cell as `SendingMessageCell.xib` describes it. -/
def loaded : SendingMessageCell where
  timeLabel := ⟨some "0", .system 15, .darkGray, none⟩
  messageLabel := ⟨some "Label", .system 15, .labelColor, none⟩

def dequeue (reused : Option SendingMessageCell) : SendingMessageCell :=
  match reused with
  | none => loaded
  | some cell => cell.prepareForReuse

end SendingMessageCell

/-! ## The cells of the conversation -/

inductive MessageCell where
  | inMessage (cell : InMessageCell)
  | sendingMessage (cell : SendingMessageCell)

namespace MessageCell

def messageLabel : MessageCell → UILabel
  | .inMessage cell => cell.messageLabel
  | .sendingMessage cell => cell.messageLabel

def timeLabel : MessageCell → UILabel
  | .inMessage cell => cell.timeLabel
  | .sendingMessage cell => cell.timeLabel

/-- The texts of the cell are those of the message. -/
structure Shows (cell : MessageCell) (model : Message Date) : Prop where
  content : cell.messageLabel.text = some model.content
  created : cell.timeLabel.text = some (DateFormatter.string "HH:mm" model.created)
  sender : ∀ inCell, cell = .inMessage inCell →
    inCell.senderLabel.text = some model.senderName

theorem shows_inMessage (cell : InMessageCell) (model : Message Date) :
    (MessageCell.inMessage (cell.configure model)).Shows model := by
  refine ⟨rfl, rfl, fun inCell h => ?_⟩
  obtain rfl := MessageCell.inMessage.inj h
  rfl

theorem shows_sendingMessage (cell : SendingMessageCell) (model : Message Date) :
    (MessageCell.sendingMessage (cell.configure model)).Shows model :=
  ⟨rfl, rfl, fun _ h => by cases h⟩

end MessageCell

/-- A formatter in universal time; the clock is the only format in use. -/
@[reducible] def universalClock : DateFormatter Int where
  string _ date :=
    let minutes := (date / 60000000000 % 1440).toNat
    let twoDigits (n : Nat) : String :=
      if n < 10 then "0" ++ Nat.repr n else Nat.repr n
    twoDigits (minutes / 60) ++ ":" ++ twoDigits (minutes % 60)

end Chatik
