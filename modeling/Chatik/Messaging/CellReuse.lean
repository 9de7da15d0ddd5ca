import Chatik.Library.Reuse
import Chatik.Messaging.MessageTable

/-!
# Reused cells

Configuring a cell overwrites its texts and reads the rest of its labels.  The
message cells never change that rest, so a row of the conversation screen looks the
same whatever its cell has shown before.  `ChannelCell` prepares its lower label with
a background that the xib does not give it, so a cell that has been in use differs
from one just loaded.
-/

namespace Chatik

open Chatik.Library

variable {Date : Type} [DateFormatter Date]

/-- The label without its text. -/
def UILabel.blank (label : UILabel) : UILabel := { label with text := none }

def channelCells : Reusable (Channel Date) ChannelCell :=
  ⟨ChannelCell.loaded, ChannelCell.prepareForReuse, ChannelCell.configure⟩

def inMessageCells : Reusable (Message Date) InMessageCell :=
  ⟨InMessageCell.loaded, InMessageCell.prepareForReuse, InMessageCell.configure⟩

def sendingMessageCells : Reusable (Message Date) SendingMessageCell :=
  ⟨SendingMessageCell.loaded, SendingMessageCell.prepareForReuse,
    SendingMessageCell.configure⟩

namespace ChannelCell

def blank (cell : ChannelCell) : ChannelCell :=
  ⟨cell.lastChannelMessageTitle.blank, cell.nameChannelTitle.blank,
    cell.lastActivityTitle.blank⟩

theorem framed : (channelCells : Reusable (Channel Date) ChannelCell).Framed blank where
  configure_congr := by
    rintro ⟨⟨_, _, _, _⟩, ⟨_, _, _, _⟩, ⟨_, _, _, _⟩⟩
      ⟨⟨_, _, _, _⟩, ⟨_, _, _, _⟩, ⟨_, _, _, _⟩⟩ model h
    simp only [blank, UILabel.blank, ChannelCell.mk.injEq, UILabel.mk.injEq] at h
    obtain ⟨⟨-, rfl, rfl, rfl⟩, ⟨-, rfl, rfl, rfl⟩, -, rfl, rfl, rfl⟩ := h
    simp only [channelCells, configure]
  prepare_configure := by
    intro cell model
    simp only [channelCells, configure]
    cases model.lastMessage <;> rfl
  prepare_prepare := fun _ => rfl

theorem backgroundColor_configure (cell : ChannelCell) (model : Channel Date) :
    (cell.configure model).lastChannelMessageTitle.backgroundColor =
      cell.lastChannelMessageTitle.backgroundColor := by
  unfold configure
  cases model.lastMessage <;> rfl

/-- The lower label has a background exactly if the cell has been in use. -/
theorem backgroundColor_shown (history : List (Channel Date)) (model : Channel Date) :
    (channelCells.shown history model).lastChannelMessageTitle.backgroundColor =
      if history = [] then none else some .white := by
  have hshown : channelCells.shown history model =
      (channelCells.dequeue (channelCells.used history)).configure model := rfl
  rw [hshown, backgroundColor_configure]
  split
  · rename_i hempty
    rw [hempty]
    rfl
  · rename_i hne
    have hframe := congrArg
      (fun cell : ChannelCell => cell.lastChannelMessageTitle.backgroundColor)
      (framed.frame_dequeue hne)
    exact hframe

theorem shown_eq_iff (history history' : List (Channel Date)) (model : Channel Date) :
    channelCells.shown history model = channelCells.shown history' model ↔
      (history = [] ↔ history' = []) := by
  constructor
  · intro hsame
    have hbackground := congrArg
      (fun cell : ChannelCell => cell.lastChannelMessageTitle.backgroundColor) hsame
    simp only [backgroundColor_shown] at hbackground
    by_cases h : history = [] <;> by_cases h' : history' = [] <;> simp_all
  · intro hused
    exact framed.shown_congr hused model

end ChannelCell

namespace InMessageCell

def blank (cell : InMessageCell) : InMessageCell :=
  ⟨cell.senderLabel.blank, cell.timeLabel.blank, cell.messageLabel.blank⟩

theorem framed :
    (inMessageCells : Reusable (Message Date) InMessageCell).Framed blank where
  configure_congr := by
    rintro ⟨⟨_, _, _, _⟩, ⟨_, _, _, _⟩, ⟨_, _, _, _⟩⟩
      ⟨⟨_, _, _, _⟩, ⟨_, _, _, _⟩, ⟨_, _, _, _⟩⟩ model h
    simp only [blank, UILabel.blank, InMessageCell.mk.injEq, UILabel.mk.injEq] at h
    obtain ⟨⟨-, rfl, rfl, rfl⟩, ⟨-, rfl, rfl, rfl⟩, -, rfl, rfl, rfl⟩ := h
    rfl
  prepare_configure := fun _ _ => rfl
  prepare_prepare := fun _ => rfl

end InMessageCell

namespace SendingMessageCell

def blank (cell : SendingMessageCell) : SendingMessageCell :=
  ⟨cell.timeLabel.blank, cell.messageLabel.blank⟩

theorem framed :
    (sendingMessageCells : Reusable (Message Date) SendingMessageCell).Framed blank where
  configure_congr := by
    rintro ⟨⟨_, _, _, _⟩, ⟨_, _, _, _⟩⟩ ⟨⟨_, _, _, _⟩, ⟨_, _, _, _⟩⟩ model h
    simp only [blank, UILabel.blank, SendingMessageCell.mk.injEq, UILabel.mk.injEq] at h
    obtain ⟨⟨-, rfl, rfl, rfl⟩, -, rfl, rfl, rfl⟩ := h
    rfl
  prepare_configure := fun _ _ => rfl
  prepare_prepare := fun _ => rfl

end SendingMessageCell

/-- The screens dequeue their cells by the rule of the library. -/
theorem dequeue_eq :
    ChannelCell.dequeue = (channelCells : Reusable (Channel Date) _).dequeue ∧
      InMessageCell.dequeue = (inMessageCells : Reusable (Message Date) _).dequeue ∧
      SendingMessageCell.dequeue =
        (sendingMessageCells : Reusable (Message Date) _).dequeue := by
  refine ⟨funext fun reused => ?_, funext fun reused => ?_, funext fun reused => ?_⟩ <;>
    cases reused <;> rfl

/-- A row of the conversation screen does not depend on what its cells have shown. -/
theorem messageCell_used [Unicode] (model : Message Date)
    (identifierForVendor : Option String) (received received' sent sent' : List (Message Date)) :
    MessageTable.messageCell model identifierForVendor (inMessageCells.used received)
        (sendingMessageCells.used sent) =
      MessageTable.messageCell model identifierForVendor (inMessageCells.used received')
        (sendingMessageCells.used sent') := by
  obtain ⟨-, hdequeueIn, hdequeueSending⟩ := @dequeue_eq Date _
  have hin := InMessageCell.framed.shown_eq rfl received received' model
  have hsending := SendingMessageCell.framed.shown_eq rfl sent sent' model
  unfold MessageTable.messageCell
  rw [hdequeueIn, hdequeueSending]
  split
  · exact congrArg MessageCell.inMessage hin
  · exact congrArg MessageCell.sendingMessage hsending

/-- The labels of the three cells are the same after either history. -/
def ShowsNoTrace (channels channels' : List (Channel Date)) (channel : Channel Date)
    (messages messages' : List (Message Date)) (message : Message Date) : Prop :=
  channelCells.shown channels channel = channelCells.shown channels' channel ∧
  inMessageCells.shown messages message = inMessageCells.shown messages' message ∧
  sendingMessageCells.shown messages message =
    sendingMessageCells.shown messages' message

/-- The histories leave no trace exactly if both channel cells have been in use or
neither has. -/
theorem showsNoTrace_iff (channels channels' : List (Channel Date))
    (channel : Channel Date) (messages messages' : List (Message Date))
    (message : Message Date) :
    ShowsNoTrace channels channels' channel messages messages' message ↔
      (channels = [] ↔ channels' = []) := by
  have hin := InMessageCell.framed.shown_eq rfl messages messages' message
  have hsending := SendingMessageCell.framed.shown_eq rfl messages messages' message
  unfold ShowsNoTrace
  rw [ChannelCell.shown_eq_iff, and_iff_left ⟨hin, hsending⟩]

section

attribute [local instance] universalClock

/-- A cell that has shown a channel, and one just loaded. -/
theorem not_showsNoTrace_usedCell :
    ¬ ShowsNoTrace [⟨"garden", "Garden", some "Hi", none⟩] []
      (⟨"lobby", "Lobby", some "Good Night", none⟩ : Channel Int) [] []
      ⟨"Vladislav", "device", "Hi", 0⟩ := by
  intro htrace
  exact absurd (congrArg
    (fun cell : ChannelCell => cell.lastChannelMessageTitle.backgroundColor) htrace.1)
    (by decide)

end

end Chatik
