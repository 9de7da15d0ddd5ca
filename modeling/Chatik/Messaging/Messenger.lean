import Chatik.Messaging.ConversationList
import Mathlib.Logic.Function.Basic

/-!
# The messenger

Any number of devices that run the program on one shared store.  A call of
`addDocument(data:)` is under way until its document, under an ID of its own,
reaches the collection; the writes may overtake each other.  What Firestore shows
a device of its own writes before they arrive is left out.  The listeners of all
devices on `channels` are kept together, each with the request that attached it;
one that reports an error receives nothing more.  What has been stored is logged
with its origin, which no device can see.  A tap may come at any row, also at one
that the list does not have.
-/

namespace Chatik

open Chatik.Library FirebaseService

/-! ## The devices -/

/-- The vendor identifiers of the devices; at some moments UIKit answers nil. -/
structure VendorIdentifiers (DeviceID : Type) [Unicode] where
  uuidString : DeviceID → String
  distinct : ∀ a b, sameText (uuidString a) (uuidString b) = true → a = b
  ne_empty : ∀ a, sameText (uuidString a) "" = false

def VendorIdentifiers.identifierForVendor {DeviceID : Type} [Unicode]
    (ids : VendorIdentifiers DeviceID) (device : DeviceID) (available : Bool) :
    Option String :=
  if available then some (ids.uuidString device) else none

structure SentMessage (DeviceID : Type) where
  device : DeviceID
  random : Nat
  now : Timestamp
  identifierForVendor : Option String

def SentMessage.fakeMessage {DeviceID : Type} (sent : SentMessage DeviceID) :
    Dictionary FieldValue :=
  ConversationViewController.fakeMessage sent.random sent.now sent.identifierForVendor

/-! ## The store -/

inductive Origin (DeviceID : Type) where
  | channelButtonTapped (channelName randomMessage : String) (now : Timestamp)
  | sendFakeMessage (sent : SentMessage DeviceID)

structure Addition (DeviceID : Type) where
  write : Write
  origin : Origin DeviceID

structure StoredDocument (DeviceID : Type) extends Addition DeviceID where
  documentID : String
  isSegment : segments documentID = [documentID]

def StoredDocument.document {DeviceID : Type} (stored : StoredDocument DeviceID) :
    QueryDocumentSnapshot :=
  ⟨stored.documentID, stored.write.data, stored.isSegment⟩

inductive Request (DeviceID Date : Type) where
  | createMessage (sent : SentMessage DeviceID) (channel : Option (Channel Date))
  | getAllChannels (device : DeviceID)

structure OpenConversation (DeviceID Date : Type) where
  device : DeviceID
  table : MessageTable Date

structure Messenger (DeviceID Date : Type) where
  channels : Observed (Request DeviceID Date) QuerySnapshot
  stopped : List Nat
  messages : CollectionReference → QuerySnapshot
  underWay : List (Addition DeviceID)
  stored : List (StoredDocument DeviceID)
  channelsList : DeviceID → List (Channel Date)
  conversations : List (OpenConversation DeviceID Date)

/-- What UIKit and Firestore do with an open conversation. -/
inductive OpenConversationEvent where
  | deliver (listener : Nat)
  | fail (listener : Nat) (err : FirestoreError)
  | numberOfRowsInSection
  | cellForRowAt (row : Nat) (available : Bool) (inMessage : Option InMessageCell)
      (sendingMessage : Option SendingMessageCell)

def OpenConversationEvent.tableEvent (identifierForVendor : Bool → Option String) :
    OpenConversationEvent → MessageTableEvent
  | .deliver listener => .deliver listener
  | .fail listener err => .fail listener err
  | .numberOfRowsInSection => .numberOfRowsInSection
  | .cellForRowAt row available inMessage sendingMessage =>
      .cellForRowAt row (identifierForVendor available) inMessage sendingMessage

inductive MessengerEvent (DeviceID : Type) where
  | addAllChannels (device : DeviceID)
  | createButton (channelName : Option String) (random : Nat) (now : Timestamp)
  | didSelectRowAt (device : DeviceID) (row : Nat)
  | sendFakeMessage (index : Nat) (available : Bool) (random : Nat) (now : Timestamp)
  | arrive (index : Nat) (documentID : String)
      (isSegment : segments documentID = [documentID])
  | deliver (listener : Nat)
  | fail (listener : Nat) (err : FirestoreError)
  | conversation (index : Nat) (e : OpenConversationEvent)

section

variable {DeviceID Date : Type}

namespace OpenConversation

variable [Instant Date] [Unicode] [DateFormatter Date]

def step (conversation : OpenConversation DeviceID Date) (e : MessageTableEvent) :
    Option (OpenConversation DeviceID Date) :=
  (conversation.table.step e).map fun table => { conversation with table := table }

/-- A change of a collection as the conversation observes it. -/
def observe (reference : CollectionReference) (snap : QuerySnapshot)
    (conversation : OpenConversation DeviceID Date) : OpenConversation DeviceID Date :=
  if getMessagesReference conversation.table.channel = some reference then
    (conversation.step (.change snap)).getD conversation
  else conversation

end OpenConversation

namespace Messenger

def emptyCollection : QuerySnapshot where
  documents := []

def start : Messenger DeviceID Date where
  channels := Observed.start emptyCollection
  stopped := []
  messages _ := emptyCollection
  underWay := []
  stored := []
  channelsList _ := []
  conversations := []

def snapshot (s : Messenger DeviceID Date) (reference : CollectionReference) :
    QuerySnapshot :=
  if reference = collection "channels" then s.channels.current
  else s.messages reference

def addDocument (s : Messenger DeviceID Date) (write : Write) (origin : Origin DeviceID) :
    Messenger DeviceID Date :=
  { s with underWay := s.underWay ++ [⟨write, origin⟩] }

/-- The action of the alert's Create button. -/
def createButton (s : Messenger DeviceID Date) (channelName : Option String)
    (random : Nat) (now : Timestamp) : Messenger DeviceID Date :=
  match channelName with
  | none => s
  | some channelName =>
      let randomMessage := ConversationListViewController.generateLastMessage random
      s.addDocument
        ((collection "channels").addDocument
          (ConversationListViewController.newChannel channelName randomMessage now))
        (.channelButtonTapped channelName randomMessage now)

/-- The write reaches its collection. -/
def store (s : Messenger DeviceID Date) (index : Nat) (stored : StoredDocument DeviceID) :
    Messenger DeviceID Date :=
  { s with underWay := s.underWay.eraseIdx index, stored := s.stored ++ [stored] }

def didSelectRowAt (s : Messenger DeviceID Date) (device : DeviceID) (row : Nat) :
    Messenger DeviceID Date :=
  let channel := safe (s.channelsList device) row
  let messages := match getMessagesReference channel with
    | none => emptyCollection
    | some reference => s.snapshot reference
  { s with
    conversations := s.conversations ++
      [⟨device, MessageTable.viewDidLoad channel messages⟩] }

variable [Instant Date] [Unicode] [DecidableEq DeviceID]

def runBlock (s : Messenger DeviceID Date) (request : Request DeviceID Date)
    (snap : Option QuerySnapshot) (err : Option FirestoreError) :
    Messenger DeviceID Date :=
  match request with
  | .createMessage sent channel =>
      { s with
        underWay := s.underWay ++
          (createMessageBlock sent.fakeMessage channel snap err).map
            (⟨·, .sendFakeMessage sent⟩) }
  | .getAllChannels device =>
      match getAllChannelsBlock snap err with
      | none => s
      | some channels =>
          { s with channelsList := Function.update s.channelsList device channels }

variable [DateFormatter Date]

omit [DecidableEq DeviceID] in
/-- The collection takes a new state. -/
def change (s : Messenger DeviceID Date) (reference : CollectionReference)
    (snap : QuerySnapshot) : Messenger DeviceID Date :=
  if reference = collection "channels" then
    { s with channels := s.channels.change snap }
  else
    { s with
      messages := Function.update s.messages reference snap
      conversations := s.conversations.map (OpenConversation.observe reference snap) }

def step (ids : VendorIdentifiers DeviceID) (s : Messenger DeviceID Date) :
    MessengerEvent DeviceID → Option (Messenger DeviceID Date)
  | .addAllChannels device =>
      some { s with channels := s.channels.attach (.getAllChannels device) }
  | .createButton channelName random now => some (s.createButton channelName random now)
  | .didSelectRowAt device row => some (s.didSelectRowAt device row)
  | .sendFakeMessage index available random now => do
      let conversation ← s.conversations[index]?
      let sent : SentMessage DeviceID := ⟨conversation.device, random, now,
        ids.identifierForVendor conversation.device available⟩
      let conversation ← conversation.step .sendFakeMessage
      some { s with
        channels := s.channels.attach (.createMessage sent conversation.table.channel)
        conversations := s.conversations.set index conversation }
  | .arrive index documentID isSegment => do
      let addition ← s.underWay[index]?
      let stored : StoredDocument DeviceID := ⟨addition, documentID, isSegment⟩
      let snap ← (s.snapshot stored.write.collection).insert? stored.document
      some ((s.store index stored).change stored.write.collection snap)
  | .deliver listener => do
      let (request, snap, channels) ← s.channels.deliver listener
      if listener ∈ s.stopped then none
      else some (runBlock { s with channels := channels } request (some snap) none)
  | .fail listener err => do
      let l ← s.channels.listeners[listener]?
      if listener ∈ s.stopped then none
      else some (runBlock { s with stopped := listener :: s.stopped } l.key none (some err))
  | .conversation index e => do
      let conversation ← s.conversations[index]?
      let conversation ← conversation.step
        (e.tableEvent (ids.identifierForVendor conversation.device))
      some { s with conversations := s.conversations.set index conversation }

/-! ## What one step does -/

variable {ids : VendorIdentifiers DeviceID} {s s' : Messenger DeviceID Date}

theorem step_sendFakeMessage {index random : Nat} {available : Bool} {now : Timestamp}
    (h : step ids s (.sendFakeMessage index available random now) = some s') :
    ∃ conversation conversation', s.conversations[index]? = some conversation ∧
      conversation.step .sendFakeMessage = some conversation' ∧
      s' = { s with
        channels := s.channels.attach (.createMessage
          ⟨conversation.device, random, now,
            ids.identifierForVendor conversation.device available⟩
          conversation'.table.channel)
        conversations := s.conversations.set index conversation' } := by
  simp only [step, Option.bind_eq_bind, Option.bind_eq_some_iff] at h
  obtain ⟨conversation, hget, conversation', hstep, hs'⟩ := h
  exact ⟨conversation, conversation', hget, hstep, (Option.some.inj hs').symm⟩

theorem step_arrive {index : Nat} {documentID : String}
    {isSegment : segments documentID = [documentID]}
    (h : step ids s (.arrive index documentID isSegment) = some s') :
    ∃ stored : StoredDocument DeviceID, ∃ snap,
      s.underWay[index]? = some stored.toAddition ∧
      snap.documents =
        (s.snapshot stored.write.collection).documents ++ [stored.document] ∧
      s' = (s.store index stored).change stored.write.collection snap := by
  simp only [step, Option.bind_eq_bind, Option.bind_eq_some_iff] at h
  obtain ⟨addition, hget, snap, hinsert, hs'⟩ := h
  exact ⟨⟨addition, documentID, isSegment⟩, snap, hget, documents_insert hinsert,
    (Option.some.inj hs').symm⟩

theorem step_deliver {i : Nat} (h : step ids s (.deliver i) = some s') :
    ∃ request snap channels, i ∉ s.stopped ∧
      s.channels.deliver i = some (request, snap, channels) ∧
      s' = runBlock { s with channels := channels } request (some snap) none := by
  simp only [step, Option.bind_eq_bind, Option.bind_eq_some_iff] at h
  obtain ⟨⟨request, snap, channels⟩, hdeliver, h⟩ := h
  split at h
  · cases h
  · rename_i hactive
    exact ⟨request, snap, channels, hactive, hdeliver, (Option.some.inj h).symm⟩

omit [DateFormatter Date] in
@[simp] theorem runBlock_error (s : Messenger DeviceID Date)
    (request : Request DeviceID Date) (err : FirestoreError) :
    s.runBlock request none (some err) = s := by
  cases request with
  | createMessage sent channel => simp [runBlock, createMessageBlock]
  | getAllChannels device => rfl

/-- An error stops its listener and changes nothing else. -/
theorem step_fail {i : Nat} {err : FirestoreError}
    (h : step ids s (.fail i err) = some s') :
    (∃ l, s.channels.listeners[i]? = some l) ∧ i ∉ s.stopped ∧
      s' = { s with stopped := i :: s.stopped } := by
  simp only [step, Option.bind_eq_bind, Option.bind_eq_some_iff, runBlock_error] at h
  obtain ⟨l, hl, h⟩ := h
  split at h
  · cases h
  · rename_i hactive
    exact ⟨⟨l, hl⟩, hactive, (Option.some.inj h).symm⟩

theorem step_conversation {index : Nat} {e : OpenConversationEvent}
    (h : step ids s (.conversation index e) = some s') :
    ∃ conversation conversation', s.conversations[index]? = some conversation ∧
      conversation.step (e.tableEvent (ids.identifierForVendor conversation.device)) =
        some conversation' ∧
      s' = { s with conversations := s.conversations.set index conversation' } := by
  simp only [step, Option.bind_eq_bind, Option.bind_eq_some_iff] at h
  obtain ⟨conversation, hget, conversation', hstep, hs'⟩ := h
  exact ⟨conversation, conversation', hget, hstep, (Option.some.inj hs').symm⟩

/-- Only an arrival changes what is stored. -/
theorem step_store {e : MessengerEvent DeviceID} (hstep : step ids s e = some s')
    (he : ∀ index documentID isSegment, e ≠ .arrive index documentID isSegment) :
    s'.channels.current = s.channels.current ∧ s'.stored = s.stored := by
  cases e with
  | addAllChannels device =>
      obtain rfl := Option.some.inj hstep
      exact ⟨rfl, rfl⟩
  | createButton channelName random now =>
      obtain rfl := Option.some.inj hstep
      cases channelName <;> exact ⟨rfl, rfl⟩
  | didSelectRowAt device row =>
      obtain rfl := Option.some.inj hstep
      exact ⟨rfl, rfl⟩
  | sendFakeMessage index available random now =>
      obtain ⟨conversation, conversation', -, -, rfl⟩ := step_sendFakeMessage hstep
      exact ⟨rfl, rfl⟩
  | arrive index documentID isSegment => exact absurd rfl (he index documentID isSegment)
  | deliver i =>
      obtain ⟨request, snap, channels, -, hdeliver, rfl⟩ := step_deliver hstep
      obtain ⟨l, -, -, -, hhistory, -⟩ := Observed.deliver_eq_some hdeliver
      have hcurrent := Observed.current_of_history_eq hhistory
      cases request with
      | createMessage sent channel => exact ⟨hcurrent, rfl⟩
      | getAllChannels device =>
          simp only [runBlock, getAllChannelsBlock_snapshot]
          exact ⟨hcurrent, trivial⟩
  | fail i err =>
      obtain ⟨-, -, rfl⟩ := step_fail hstep
      exact ⟨rfl, rfl⟩
  | conversation index e =>
      obtain ⟨conversation, conversation', -, -, rfl⟩ := step_conversation hstep
      exact ⟨rfl, rfl⟩

/-! ## The collections -/

omit [DecidableEq DeviceID] in
theorem snapshot_change (s : Messenger DeviceID Date) (reference other : CollectionReference)
    (snap : QuerySnapshot) : (s.change reference snap).snapshot other =
      if other = reference then snap else s.snapshot other := by
  by_cases hchannels : reference = collection "channels"
  · subst hchannels
    by_cases hother : other = collection "channels" <;> simp [change, snapshot, hother]
  · by_cases hother : other = reference
    · subst hother
      simp [change, snapshot, hchannels]
    · simp [change, snapshot, hchannels, hother]

omit [DecidableEq DeviceID] in
@[simp] theorem stored_change (s : Messenger DeviceID Date)
    (reference : CollectionReference) (snap : QuerySnapshot) :
    (s.change reference snap).stored = s.stored := by
  unfold change
  split <;> rfl

omit [DecidableEq DeviceID] in
@[simp] theorem underWay_change (s : Messenger DeviceID Date)
    (reference : CollectionReference) (snap : QuerySnapshot) :
    (s.change reference snap).underWay = s.underWay := by
  unfold change
  split <;> rfl

omit [DecidableEq DeviceID] in
@[simp] theorem stopped_change (s : Messenger DeviceID Date)
    (reference : CollectionReference) (snap : QuerySnapshot) :
    (s.change reference snap).stopped = s.stopped := by
  unfold change
  split <;> rfl

omit [DecidableEq DeviceID] in
theorem channels_change (s : Messenger DeviceID Date) (reference : CollectionReference)
    (snap : QuerySnapshot) : (s.change reference snap).channels =
      if reference = collection "channels" then s.channels.change snap
      else s.channels := by
  unfold change
  split <;> rfl

omit [DecidableEq DeviceID] in
theorem subset_change {reference : CollectionReference} {snap : QuerySnapshot}
    (hsnap : (s.snapshot reference).documents ⊆ snap.documents) :
    s.channels.current.documents ⊆
      (s.change reference snap).channels.current.documents := by
  rw [channels_change]
  split
  · rename_i hchannels
    rw [Observed.current_change]
    simpa only [snapshot, hchannels, ↓reduceIte] using hsnap
  · exact List.Subset.refl _

omit [DecidableEq DeviceID] in
theorem mem_history_change {reference : CollectionReference} {snap state : QuerySnapshot}
    (hstate : state ∈ (s.change reference snap).channels.history) :
    state ∈ s.channels.history ∨
      state = (s.change reference snap).channels.current := by
  rw [channels_change] at hstate ⊢
  split at hstate
  · rename_i hchannels
    rw [if_pos hchannels, Observed.current_change]
    exact (List.mem_append.mp hstate).imp id List.mem_singleton.mp
  · exact Or.inl hstate

omit [DecidableEq DeviceID] in
@[simp] theorem listeners_change (s : Messenger DeviceID Date)
    (reference : CollectionReference) (snap : QuerySnapshot) :
    (s.change reference snap).channels.listeners = s.channels.listeners := by
  rw [channels_change]
  split <;> rfl

end Messenger

end

end Chatik
