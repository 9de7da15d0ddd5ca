import Chatik.Library.Simulation
import Chatik.Messaging.StoredDocuments
import Mathlib.Data.List.Perm.Basic

/-!
# The messenger as one client

For `channels` the services of all devices together are one client: a listener is
told apart by its position, whoever has attached it.  Every run of the messenger
is matched by a run of that client, whose writes are the messages that have been
stored or are under way.
-/

namespace Chatik

open Chatik.Library FirebaseService

section

variable {DeviceID Date : Type}

def Request.block : Request DeviceID Date → ChannelsBlock Date
  | .createMessage sent channel => .createMessage sent.fakeMessage channel
  | .getAllChannels _ => .getAllChannels

def Addition.isMessage (addition : Addition DeviceID) : Bool :=
  match addition.origin with
  | .channelButtonTapped _ _ _ => false
  | .sendFakeMessage _ => true

namespace Messenger

def additions (s : Messenger DeviceID Date) : List (Addition DeviceID) :=
  s.stored.map StoredDocument.toAddition ++ s.underWay

/-- The writes of messages that have been stored or are under way. -/
def messageWrites (s : Messenger DeviceID Date) : List Write :=
  (s.additions.filter Addition.isMessage).map Addition.write

structure Follows (s : Messenger DeviceID Date) (client : Client Date) : Prop where
  channels : client.channels = s.channels.mapKeys Request.block
  writes : (client.writes.map Prod.snd).Perm s.messageWrites

/-- A write that arrives is stored instead of under way. -/
theorem additions_store {s : Messenger DeviceID Date} {index : Nat}
    {stored : StoredDocument DeviceID}
    (hget : s.underWay[index]? = some stored.toAddition) :
    (s.store index stored).additions.Perm s.additions := by
  obtain ⟨hindex, hstored⟩ := List.getElem?_eq_some_iff.mp hget
  have hrest := List.getElem_cons_eraseIdx_perm hindex
  rw [hstored] at hrest
  simp only [additions, store, List.map_append, List.map_cons, List.map_nil,
    List.append_assoc, List.singleton_append]
  exact hrest.append_left _

variable [Instant Date] [Unicode] [DateFormatter Date]
  {ids : VendorIdentifiers DeviceID} {s s' : Messenger DeviceID Date} {client : Client Date}

omit [Instant Date] [Unicode] [DateFormatter Date] in
/-- What changes neither the collection nor the additions is nothing to the client. -/
theorem Follows.congr (h : s.Follows client) (hchannels : s'.channels = s.channels)
    (hadditions : s'.additions.Perm s.additions) : s'.Follows client where
  channels := by rw [hchannels, h.channels]
  writes := h.writes.trans ((hadditions.symm.filter _).map _)

theorem additions_change (reference : CollectionReference) (snap : QuerySnapshot) :
    (s.change reference snap).additions = s.additions := by
  rw [additions, stored_change, underWay_change]
  rfl

/-- The state of `channels` changes for the client too; a message that is stored
below is no change of `channels`. -/
theorem Follows.change (h : s.Follows client) (reference : CollectionReference)
    (snap : QuerySnapshot) :
    ∃ events client', run Client.step client events = some client' ∧
      (s.change reference snap).Follows client' := by
  by_cases hchannels : reference = collection "channels"
  · refine ⟨[.change snap], _, run_singleton.mpr rfl, ?_, ?_⟩
    · rw [channels_change, if_pos hchannels, Observed.mapKeys_change, h.channels]
    · rw [messageWrites, additions_change]
      exact h.writes
  · refine ⟨[], client, rfl, h.congr ?_ ?_⟩
    · rw [channels_change, if_neg hchannels]
    · rw [additions_change]

omit [DateFormatter Date] in
theorem Follows.attach (h : s.Follows client) (request : Request DeviceID Date)
    (hchannels : s'.channels = s.channels.attach request)
    (hadditions : s'.additions = s.additions) :
    ∃ events client', run Client.step client events = some client' ∧
      s'.Follows client' := by
  have hwrites : (client.writes.map Prod.snd).Perm s'.messageWrites := by
    rw [messageWrites, hadditions]
    exact h.writes
  have hattached : s'.channels.mapKeys Request.block =
      client.channels.attach request.block := by
    rw [hchannels, Observed.mapKeys_attach, h.channels]
  cases request with
  | createMessage sent channel =>
      exact ⟨[.createMessage sent.fakeMessage channel], _, run_singleton.mpr rfl,
        hattached.symm, hwrites⟩
  | getAllChannels device =>
      exact ⟨[.getAllChannels], _, run_singleton.mpr rfl, hattached.symm, hwrites⟩

variable [DecidableEq DeviceID]

omit [DateFormatter Date] in
/-- The blocks of the two make the same writes. -/
theorem Follows.deliver (h : s.Follows client) {i : Nat} {request : Request DeviceID Date}
    {snap : QuerySnapshot} {channels : Observed (Request DeviceID Date) QuerySnapshot}
    (hdeliver : s.channels.deliver i = some (request, snap, channels)) :
    ∃ client', Client.step client (.deliver i) = some client' ∧
      (runBlock { s with channels := channels } request (some snap) none).Follows
        client' := by
  have hclient := Observed.deliver_mapKeys Request.block hdeliver
  rw [← h.channels] at hclient
  refine ⟨Client.runBlock { client with channels := channels.mapKeys Request.block } i
    request.block (some snap) none, ?_, ?_, ?_⟩
  · simp only [Client.step, hclient]
    rfl
  · rw [Client.channels_runBlock]
    cases request with
    | createMessage sent channel => rfl
    | getAllChannels device =>
        simp only [runBlock, getAllChannelsBlock_snapshot]
  · have hwrites := h.writes
    rw [Client.writes_runBlock_snapshot, List.map_append, List.map_map]
    cases request with
    | createMessage sent channel =>
        simpa [runBlock, messageWrites, additions, List.filter_map, Function.comp_def,
          Addition.isMessage, Request.block, ChannelsBlock.writes, ← List.append_assoc]
          using hwrites.append_right
            (createMessageBlock sent.fakeMessage channel (some snap) none)
    | getAllChannels device =>
        simp only [runBlock, getAllChannelsBlock_snapshot, Request.block,
          ChannelsBlock.writes, List.map_nil, List.append_nil]
        exact hwrites

theorem Follows.step (h : s.Follows client) {e : MessengerEvent DeviceID}
    (hstep : Messenger.step ids s e = some s') :
    ∃ events client', run Client.step client events = some client' ∧
      s'.Follows client' := by
  cases e with
  | addAllChannels device =>
      obtain rfl := Option.some.inj hstep
      exact h.attach (.getAllChannels device) rfl rfl
  | createButton channelName random now =>
      obtain rfl := Option.some.inj hstep
      cases channelName with
      | none => exact ⟨[], client, rfl, h⟩
      | some channelName =>
          refine ⟨[], client, rfl, h.channels, ?_⟩
          simpa [messageWrites, additions, createButton, addDocument,
            Addition.isMessage] using h.writes
  | didSelectRowAt device row =>
      obtain rfl := Option.some.inj hstep
      exact ⟨[], client, rfl, h.channels, h.writes⟩
  | sendFakeMessage index available random now =>
      obtain ⟨conversation, conversation', -, -, rfl⟩ := step_sendFakeMessage hstep
      exact h.attach _ rfl rfl
  | arrive index documentID isSegment =>
      obtain ⟨stored, snap, hget, -, rfl⟩ := step_arrive hstep
      have hstored : (s.store index stored).Follows client :=
        h.congr rfl (additions_store hget)
      exact hstored.change stored.write.collection snap
  | deliver i =>
      obtain ⟨request, snap, channels, -, hdeliver, rfl⟩ := step_deliver hstep
      obtain ⟨client', hclient, hfollows⟩ := h.deliver hdeliver
      exact ⟨[.deliver i], client', run_singleton.mpr hclient, hfollows⟩
  | fail i err =>
      obtain ⟨-, -, rfl⟩ := step_fail hstep
      exact ⟨[], client, rfl, h.channels, h.writes⟩
  | conversation index e =>
      obtain ⟨conversation, conversation', -, -, rfl⟩ := step_conversation hstep
      exact ⟨[], client, rfl, h.channels, h.writes⟩

end Messenger

end

/-! ## The client of the first send -/

section

attribute [local instance] asciiText nanosecondDates universalClock

end

end Chatik
