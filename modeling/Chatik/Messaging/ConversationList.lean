import Chatik.Messaging.Client
import Chatik.Messaging.MessageTable

/-!
# The channel list and the conversations opened from it

`ConversationListViewController` with its table, and the conversation screens
that taps on its rows have pushed.  A tap on a row instantiates the conversation
from the storyboard, which holds one under the identifier asked for, gives it the
channel at the row's index and reloads the list.  The events of the screens
interleave freely; each conversation observes the messages of its own channel.
-/

namespace Chatik

open Chatik.Library FirebaseService

section

variable {Date : Type}

structure ConversationListViewController (Date : Type) where
  channelsList : List (Channel Date)
  channels : Observed Unit QuerySnapshot
  tableViewConversationList : TableView (Channel Date) ChannelCell
  trapped : Bool

inductive ConversationListEvent where
  | createButton (channelName : Option String) (random : Nat) (now : Timestamp)
      (documentID : String) (isSegment : segments documentID = [documentID])
  | change (snap : QuerySnapshot)
  | deliver (listener : Nat)
  | fail (listener : Nat) (err : FirestoreError)
  | numberOfRowsInSection
  | cellForRowAt (row : Nat) (reused : Option ChannelCell)

namespace ConversationListViewController

def messagesArray : List (Option String) :=
  [some "Hello to all followers", some "Good Afternoon followers", some "Let's go",
    some "Have a nice day", some "Good Night", none]

def generateLastMessage (random : Nat) : String :=
  match messagesArray[random]? with
  | some (some message) => message
  | _ => "No message yet"

def newChannel (channelName randomMessage : String) (now : Timestamp) :
    Dictionary FieldValue := fun key =>
  if key = "name" then some (.string channelName)
  else if key = "lastMessage" then some (.string randomMessage)
  else if key = "lastActivity" then some (.timestamp now)
  else none

def addAllChannels (s : ConversationListViewController Date) :
    ConversationListViewController Date :=
  { s with channels := s.channels.attach () }

def viewDidLoad (snap : QuerySnapshot) : ConversationListViewController Date :=
  addAllChannels ⟨[], Observed.start snap, TableView.empty, false⟩

def numberOfRowsInSection (s : ConversationListViewController Date) : Nat :=
  s.channelsList.length

def reloadData (s : ConversationListViewController Date) :
    ConversationListViewController Date :=
  { s with tableViewConversationList :=
      s.tableViewConversationList.reloadData s.numberOfRowsInSection }

/-- The action of the alert's Create button. -/
def createButton (s : ConversationListViewController Date) (channelName : Option String)
    (random : Nat) (now : Timestamp) (documentID : String)
    (isSegment : segments documentID = [documentID]) :
    Option (ConversationListViewController Date) :=
  match channelName with
  | none => some s
  | some channelName => do
      let snap ← s.channels.current.insert?
        ⟨documentID, newChannel channelName (generateLastMessage random) now, isSegment⟩
      some { s with channels := s.channels.change snap }.reloadData

variable [Instant Date]

/-- The block of `getAllChannels` with the completion that `addAllChannels` gives it. -/
def runChannelsBlock (s : ConversationListViewController Date)
    (snap : Option QuerySnapshot) (err : Option FirestoreError) :
    ConversationListViewController Date :=
  match getAllChannelsBlock snap err with
  | none => s
  | some channels => { s with channelsList := channels }.reloadData

variable [DateFormatter Date]

def cellForRowAt (s : ConversationListViewController Date) (row : Nat)
    (reused : Option ChannelCell) : ConversationListViewController Date :=
  match s.channelsList[row]? with
  | none => { s with trapped := true }
  | some model => { s with
      tableViewConversationList := s.tableViewConversationList.display row model
        ((ChannelCell.dequeue reused).configure model) }

def step (s : ConversationListViewController Date) :
    ConversationListEvent → Option (ConversationListViewController Date)
  | .createButton channelName random now documentID isSegment =>
      s.createButton channelName random now documentID isSegment
  | .change snap => some { s with channels := s.channels.change snap }
  | .deliver listener => do
      let (_, snap, channels) ← s.channels.deliver listener
      some (runChannelsBlock { s with channels := channels } (some snap) none)
  | .fail listener err => do
      let _ ← s.channels.listeners[listener]?
      some (s.runChannelsBlock none (some err))
  | .numberOfRowsInSection => some s.reloadData
  | .cellForRowAt row reused =>
      if row < s.tableViewConversationList.numberOfRows then
        some (s.cellForRowAt row reused)
      else none

/-! ## The rows are the channels -/

structure RowsMatch (s : ConversationListViewController Date) : Prop where
  running : s.trapped = false
  agrees : s.tableViewConversationList.Agrees ChannelCell.Shows s.channelsList

omit [Instant Date] in
theorem rowsMatch_viewDidLoad (snap : QuerySnapshot) :
    (viewDidLoad snap : ConversationListViewController Date).RowsMatch :=
  ⟨rfl, TableView.agrees_empty⟩

omit [Instant Date] in
theorem rowsMatch_reloadData {s : ConversationListViewController Date}
    (h : s.trapped = false) : s.reloadData.RowsMatch :=
  ⟨h, TableView.agrees_reloadData s.tableViewConversationList s.channelsList⟩

omit [Instant Date] in
theorem RowsMatch.createButton {s s' : ConversationListViewController Date}
    (h : s.RowsMatch) {channelName : Option String} {random : Nat} {now : Timestamp}
    {documentID : String} {isSegment : segments documentID = [documentID]}
    (hcreate : s.createButton channelName random now documentID isSegment = some s') :
    s'.RowsMatch := by
  cases channelName with
  | none =>
      obtain rfl := Option.some.inj hcreate
      exact h
  | some channelName =>
      simp only [ConversationListViewController.createButton, Option.bind_eq_bind,
        Option.bind_eq_some_iff] at hcreate
      obtain ⟨snap, -, hs'⟩ := hcreate
      obtain rfl := Option.some.inj hs'
      exact rowsMatch_reloadData h.running

theorem RowsMatch.runChannelsBlock {s : ConversationListViewController Date}
    (h : s.RowsMatch) (snap : Option QuerySnapshot) (err : Option FirestoreError) :
    (s.runChannelsBlock snap err).RowsMatch := by
  unfold ConversationListViewController.runChannelsBlock
  split
  · exact h
  · exact rowsMatch_reloadData h.running

omit [Instant Date] in
theorem RowsMatch.cellForRowAt {s : ConversationListViewController Date}
    (h : s.RowsMatch) {row : Nat}
    (hrow : row < s.tableViewConversationList.numberOfRows)
    (reused : Option ChannelCell) : (s.cellForRowAt row reused).RowsMatch := by
  obtain ⟨model, hmodel⟩ := h.agrees.exists_model hrow
  unfold ConversationListViewController.cellForRowAt
  rw [hmodel]
  exact ⟨h.running, h.agrees.display hmodel (ChannelCell.shows_configure _ model)⟩

theorem rowsMatch_step {s s' : ConversationListViewController Date}
    {e : ConversationListEvent} (hstep : step s e = some s') (h : s.RowsMatch) :
    s'.RowsMatch := by
  cases e with
  | createButton channelName random now documentID isSegment =>
      exact h.createButton hstep
  | change snap =>
      obtain rfl := Option.some.inj hstep
      exact ⟨h.running, h.agrees⟩
  | deliver i =>
      simp only [step, Option.bind_eq_bind, Option.bind_eq_some_iff] at hstep
      obtain ⟨⟨key, snap, channels⟩, -, hs'⟩ := hstep
      obtain rfl := Option.some.inj hs'
      have hdelivered : RowsMatch { s with channels } := ⟨h.running, h.agrees⟩
      exact hdelivered.runChannelsBlock (some snap) none
  | fail i err =>
      simp only [step, Option.bind_eq_bind, Option.bind_eq_some_iff] at hstep
      obtain ⟨l, -, hs'⟩ := hstep
      obtain rfl := Option.some.inj hs'
      exact h.runChannelsBlock none (some err)
  | numberOfRowsInSection =>
      obtain rfl := Option.some.inj hstep
      exact rowsMatch_reloadData h.running
  | cellForRowAt row reused =>
      simp only [step] at hstep
      split at hstep
      · rename_i hrow
        obtain rfl := Option.some.inj hstep
        exact h.cellForRowAt hrow reused
      · cases hstep

end ConversationListViewController

/-! ## Navigation -/

structure ConversationScreens (Date : Type) where
  conversationList : ConversationListViewController Date
  conversations : List (MessageTable Date)

inductive ScreensEvent where
  | conversationList (e : ConversationListEvent)
  | didSelectRowAt (row : Nat) (messages : QuerySnapshot)
  | conversation (index : Nat) (e : MessageTableEvent)

namespace ConversationScreens

def start (snap : QuerySnapshot) : ConversationScreens Date :=
  ⟨ConversationListViewController.viewDidLoad snap, []⟩

def trapped (s : ConversationScreens Date) : Bool :=
  s.conversationList.trapped || s.conversations.any MessageTable.trapped

/-- `messages` is what the collection of the opened conversation holds. -/
def didSelectRowAt (s : ConversationScreens Date) (row : Nat)
    (messages : QuerySnapshot) : ConversationScreens Date where
  conversationList := s.conversationList.reloadData
  conversations := s.conversations ++
    [MessageTable.viewDidLoad (safe s.conversationList.channelsList row) messages]

variable [Instant Date] [Unicode] [DateFormatter Date]

def perform (s : ConversationScreens Date) :
    ScreensEvent → Option (ConversationScreens Date)
  | .conversationList e => do
      let conversationList ← s.conversationList.step e
      some { s with conversationList := conversationList }
  | .didSelectRowAt row messages =>
      if row < s.conversationList.tableViewConversationList.numberOfRows then
        some (s.didSelectRowAt row messages)
      else none
  | .conversation index e => do
      let conversation ← s.conversations[index]?
      let conversation ← conversation.step e
      some { s with conversations := s.conversations.set index conversation }

def step (s : ConversationScreens Date) (e : ScreensEvent) :
    Option (ConversationScreens Date) :=
  if s.trapped = true then none else s.perform e

theorem step_didSelectRowAt {s s' : ConversationScreens Date} {row : Nat}
    {messages : QuerySnapshot} (h : step s (.didSelectRowAt row messages) = some s') :
    row < s.conversationList.tableViewConversationList.numberOfRows ∧
      s' = s.didSelectRowAt row messages := by
  unfold step at h
  split at h
  · cases h
  · simp only [perform] at h
    split at h
    · rename_i hrow
      exact ⟨hrow, (Option.some.inj h).symm⟩
    · cases h

/-- No screen has stopped the program, and in each the rows agree with the list
behind them. -/
structure RowsMatch (s : ConversationScreens Date) : Prop where
  conversationList : s.conversationList.RowsMatch
  conversations : ∀ conversation ∈ s.conversations, conversation.RowsMatch

omit [Instant Date] [Unicode] in
theorem rowsMatch_start (snap : QuerySnapshot) :
    (start snap : ConversationScreens Date).RowsMatch :=
  ⟨ConversationListViewController.rowsMatch_viewDidLoad snap, fun _ h => by cases h⟩

omit [Instant Date] [Unicode] in
theorem RowsMatch.didSelectRowAt {s : ConversationScreens Date} (h : s.RowsMatch)
    (row : Nat) (messages : QuerySnapshot) :
    (s.didSelectRowAt row messages).RowsMatch := by
  refine ⟨ConversationListViewController.rowsMatch_reloadData
    h.conversationList.running, List.forall_mem_append.mpr ⟨h.conversations, ?_⟩⟩
  exact List.forall_mem_singleton.mpr (MessageTable.rowsMatch_viewDidLoad _ messages)

theorem rowsMatch_step {s s' : ConversationScreens Date} {e : ScreensEvent}
    (hstep : step s e = some s') (h : s.RowsMatch) : s'.RowsMatch := by
  unfold step at hstep
  split at hstep
  · cases hstep
  · cases e with
    | conversationList e =>
        simp only [perform, Option.bind_eq_bind, Option.bind_eq_some_iff] at hstep
        obtain ⟨conversationList, hlist, hs'⟩ := hstep
        obtain rfl := Option.some.inj hs'
        exact ⟨ConversationListViewController.rowsMatch_step hlist h.conversationList,
          h.conversations⟩
    | didSelectRowAt row messages =>
        simp only [perform] at hstep
        split at hstep
        · obtain rfl := Option.some.inj hstep
          exact h.didSelectRowAt row messages
        · cases hstep
    | conversation index e =>
        simp only [perform, Option.bind_eq_bind, Option.bind_eq_some_iff] at hstep
        obtain ⟨conversation, hget, stepped, hconversation, hs'⟩ := hstep
        obtain rfl := Option.some.inj hs'
        have hstepped := MessageTable.rowsMatch_step hconversation
          (h.conversations conversation (List.mem_of_getElem? hget))
        exact ⟨h.conversationList, forall_mem_set h.conversations hstepped⟩

theorem rowsMatch_run {snap : QuerySnapshot} {es : List ScreensEvent}
    {s : ConversationScreens Date} (hrun : run step (start snap) es = some s) :
    s.RowsMatch :=
  run_invariant (I := RowsMatch) (fun _ _ _ hstep => rowsMatch_step hstep) hrun
    (rowsMatch_start snap)

/-- The tap opens the conversation of a channel that is at the row's index, and
the row, where it has been shown, shows that channel. -/
def OpensShown (s : ConversationScreens Date) (row : Nat) (messages : QuerySnapshot)
    (s' : ConversationScreens Date) : Prop :=
  ∃ channel, s.conversationList.channelsList[row]? = some channel ∧
    (∀ shown cell, s.conversationList.tableViewConversationList.rows row =
      some (shown, cell) → shown = channel ∧ cell.Shows channel) ∧
    s'.conversations =
      s.conversations ++ [MessageTable.viewDidLoad (some channel) messages]

theorem RowsMatch.opensShown {s s' : ConversationScreens Date} (h : s.RowsMatch)
    {row : Nat} {messages : QuerySnapshot}
    (hstep : step s (.didSelectRowAt row messages) = some s') :
    s.OpensShown row messages s' := by
  obtain ⟨hrow, rfl⟩ := step_didSelectRowAt hstep
  have hagrees := h.conversationList.agrees
  obtain ⟨channel, hchannel⟩ := hagrees.exists_model hrow
  refine ⟨channel, hchannel, fun shown cell hshown => ?_, ?_⟩
  · obtain ⟨hmodel, hcell⟩ := hagrees.rows row shown cell hshown
    obtain rfl := Option.some.inj (hmodel.symm.trans hchannel)
    exact ⟨rfl, hcell⟩
  · simp only [ConversationScreens.didSelectRowAt, safe_eq_getElem?, hchannel]

/-- In every run no subscript is out of range, the rows of every screen agree
with its list, and a tap opens the conversation of the channel that its row shows. -/
theorem rows_agree (snap : QuerySnapshot) (es : List ScreensEvent)
    (s : ConversationScreens Date) (hrun : run step (start snap) es = some s) :
    s.RowsMatch ∧ ∀ row messages s', step s (.didSelectRowAt row messages) = some s' →
      s.OpensShown row messages s' :=
  ⟨rowsMatch_run hrun, fun _ _ _ hstep => (rowsMatch_run hrun).opensShown hstep⟩

end ConversationScreens

end

section

attribute [local instance] nanosecondDates asciiText universalClock

def listedLobby : QueryDocumentSnapshot where
  documentID := "lobby"
  data := ConversationListViewController.newChannel "Lobby" "Good Night" tenSeconds
  isSegment := segments_lobby

def listedChannels : QuerySnapshot where
  documents := [listedLobby]

/-- The list arrives and its row is shown; a conversation is opened from it and
receives its messages; the list comes back and is shown again. -/
def shownLobby : List ScreensEvent :=
  [.conversationList (.deliver 0), .conversationList (.cellForRowAt 0 none),
    .didSelectRowAt 0 storedMessages, .conversation 0 (.deliver 0),
    .conversation 0 (.cellForRowAt 0 (some "device") none none),
    .conversationList (.cellForRowAt 0 none)]

theorem rows_agree_shownLobby :
    ∃ s s', run ConversationScreens.step
        (ConversationScreens.start listedChannels : ConversationScreens Int)
        shownLobby = some s ∧
      ConversationScreens.step s (.didSelectRowAt 0 storedMessages) = some s' ∧
      s.OpensShown 0 storedMessages s' := by
  have hsteps : (run ConversationScreens.step
      (ConversationScreens.start listedChannels : ConversationScreens Int)
      (shownLobby ++ [.didSelectRowAt 0 storedMessages])).isSome = true := by
    decide +kernel
  obtain ⟨s', hrun⟩ := Option.isSome_iff_exists.mp hsteps
  obtain ⟨s, hshown, htap⟩ := run_append_eq_some.mp hrun
  have hstep := run_singleton.mp htap
  exact ⟨s, s', hshown, hstep, (ConversationScreens.rows_agree listedChannels
    shownLobby s hshown).2 0 storedMessages s' hstep⟩

end

end Chatik
