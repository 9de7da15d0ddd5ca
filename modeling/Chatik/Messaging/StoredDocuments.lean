import Chatik.Messaging.Messenger

/-!
# Stored documents

What the devices write is what they read.  Two view controllers build the
dictionaries and the service casts their fields, so the format is an invariant of
the whole store: every document of a collection was written with the dictionary
of its origin, the channels to `channels` and the messages to a collection below
a document that `channels` holds.
-/

namespace Chatik

open Chatik.Library FirebaseService

section

variable {DeviceID Date : Type}

/-! ## What was written -/

/-- The channel that was entered, under the ID of its document. -/
def StoredDocument.channel [Instant Date] (stored : StoredDocument DeviceID) :
    Option (Channel Date) :=
  match stored.origin with
  | .channelButtonTapped channelName randomMessage now =>
      some ⟨stored.documentID, channelName, some randomMessage,
        some (Instant.dateValue now)⟩
  | .sendFakeMessage _ => none

/-- The message that was sent. -/
def StoredDocument.message [Instant Date] (stored : StoredDocument DeviceID) :
    Option (Message Date) :=
  match stored.origin with
  | .channelButtonTapped _ _ _ => none
  | .sendFakeMessage sent =>
      some ⟨"Vladislav", getDeviceUUID sent.identifierForVendor,
        ConversationViewController.contents[sent.random]?.getD "noText",
        Instant.dateValue sent.now⟩

def Messenger.storedIn (s : Messenger DeviceID Date) (reference : CollectionReference) :
    List (StoredDocument DeviceID) :=
  s.stored.filter (·.write.collection = reference)

theorem Messenger.mem_storedIn {s : Messenger DeviceID Date}
    {reference : CollectionReference} {stored : StoredDocument DeviceID} :
    stored ∈ s.storedIn reference ↔
      stored ∈ s.stored ∧ stored.write.collection = reference := by
  simp [storedIn]

variable [Unicode]

/-- The sender's device supplied its identifier or nil. -/
def SentMessage.Identified (ids : VendorIdentifiers DeviceID)
    (sent : SentMessage DeviceID) : Prop :=
  ∃ available, sent.identifierForVendor = ids.identifierForVendor sent.device available

/-- The write has the collection and the dictionary of its origin. -/
def Addition.Formed (ids : VendorIdentifiers DeviceID) (channels : QuerySnapshot)
    (addition : Addition DeviceID) : Prop :=
  match addition.origin with
  | .channelButtonTapped channelName randomMessage now =>
      addition.write = (collection "channels").addDocument
        (ConversationListViewController.newChannel channelName randomMessage now)
  | .sendFakeMessage sent =>
      sent.Identified ids ∧ ∃ doc ∈ channels.documents,
        addition.write = (messagesOf doc).addDocument sent.fakeMessage

theorem Addition.Formed.mono {ids : VendorIdentifiers DeviceID}
    {channels channels' : QuerySnapshot} {addition : Addition DeviceID}
    (h : addition.Formed ids channels) (hsub : channels.documents ⊆ channels'.documents) :
    addition.Formed ids channels' := by
  unfold Addition.Formed at h ⊢
  split at h
  · exact h
  · obtain ⟨hsent, doc, hdoc, hwrite⟩ := h
    exact ⟨hsent, doc, hsub hdoc, hwrite⟩

omit [Unicode] in
theorem messagesOf_ne_channels (doc : QueryDocumentSnapshot) :
    messagesOf doc ≠ collection "channels" := by
  intro h
  have hpath := congrArg (fun reference => reference.path.length) h
  have hchannels : (collection "channels").path.length = 1 := by decide
  simp [messagesOf_path, hchannels] at hpath

/-! ## The readers on one document -/

omit [Unicode] in
theorem channelFromSnapshot_newChannel [Instant Date] (documentID : String)
    (isSegment : segments documentID = [documentID]) (channelName randomMessage : String)
    (now : Timestamp) :
    channelFromSnapshot ⟨documentID,
        ConversationListViewController.newChannel channelName randomMessage now,
        isSegment⟩ =
      some (⟨documentID, channelName, some randomMessage,
        some (Instant.dateValue now)⟩ : Channel Date) :=
  channelFromSnapshot_eq_some.mpr ⟨channelName, randomMessage, now, rfl, rfl, rfl, rfl⟩

omit [Unicode] in
theorem messageOf_fakeMessage [Instant Date] (documentID : String)
    (isSegment : segments documentID = [documentID]) (sent : SentMessage DeviceID) :
    messageOf ⟨documentID, sent.fakeMessage, isSegment⟩ =
      some (⟨"Vladislav", getDeviceUUID sent.identifierForVendor,
        ConversationViewController.contents[sent.random]?.getD "noText",
        Instant.dateValue sent.now⟩ : Message Date) :=
  messageOf_eq_some.mpr ⟨_, _, _, sent.now, rfl, rfl, rfl, rfl, rfl⟩

/-- A document of `channels` was entered on some device and decodes to what was
entered. -/
theorem StoredDocument.channel_of_formed [Instant Date]
    {ids : VendorIdentifiers DeviceID} {channels : QuerySnapshot}
    {stored : StoredDocument DeviceID} (h : stored.toAddition.Formed ids channels)
    (hchannels : stored.write.collection = collection "channels") :
    ∃ channel : Channel Date, stored.channel = some channel ∧
      channelFromSnapshot stored.document = some channel := by
  obtain ⟨⟨write, origin⟩, documentID, isSegment⟩ := stored
  cases origin with
  | channelButtonTapped channelName randomMessage now =>
      obtain rfl : write = _ := h
      exact ⟨_, rfl, channelFromSnapshot_newChannel ..⟩
  | sendFakeMessage sent =>
      obtain ⟨-, doc, -, rfl⟩ := h
      exact absurd hchannels (messagesOf_ne_channels doc)

/-- A document of any other collection was sent from some device and decodes to
what was sent. -/
theorem StoredDocument.message_of_formed [Instant Date]
    {ids : VendorIdentifiers DeviceID} {channels : QuerySnapshot}
    {stored : StoredDocument DeviceID} (h : stored.toAddition.Formed ids channels)
    (hmessages : stored.write.collection ≠ collection "channels") :
    ∃ message : Message Date, stored.message = some message ∧
      messageOf stored.document = some message := by
  obtain ⟨⟨write, origin⟩, documentID, isSegment⟩ := stored
  cases origin with
  | channelButtonTapped channelName randomMessage now =>
      obtain rfl : write = _ := h
      exact absurd rfl hmessages
  | sendFakeMessage sent =>
      obtain ⟨-, doc, -, rfl⟩ := h
      exact ⟨_, rfl, messageOf_fakeMessage ..⟩

/-! ## The store is a record of what was written -/

namespace Messenger

structure Recorded (ids : VendorIdentifiers DeviceID) (s : Messenger DeviceID Date) :
    Prop where
  documents : ∀ reference, (s.snapshot reference).documents =
    (s.storedIn reference).map StoredDocument.document
  underWay : ∀ addition ∈ s.underWay, addition.Formed ids s.channels.current
  stored : ∀ stored ∈ s.stored, stored.toAddition.Formed ids s.channels.current
  grows : ∀ snap ∈ s.channels.history, snap.documents ⊆ s.channels.current.documents
  requests : ∀ l ∈ s.channels.listeners, ∀ sent channel,
    l.key = .createMessage sent channel → sent.Identified ids

variable {ids : VendorIdentifiers DeviceID} {s s' : Messenger DeviceID Date}

theorem recorded_start : (start : Messenger DeviceID Date).Recorded ids where
  documents reference := by
    unfold snapshot
    split <;> rfl
  underWay addition haddition := by cases haddition
  stored stored hstored := by cases hstored
  grows snap hsnap := by
    obtain rfl := List.mem_singleton.mp hsnap
    exact List.Subset.refl _
  requests l hl := by cases hl

theorem Recorded.attach (h : s.Recorded ids) (request : Request DeviceID Date)
    (hrequest : ∀ sent channel, request = .createMessage sent channel →
      sent.Identified ids) :
    { s with channels := s.channels.attach request }.Recorded ids where
  documents := h.documents
  underWay := h.underWay
  stored := h.stored
  grows := h.grows
  requests := List.forall_mem_append.mpr
    ⟨h.requests, List.forall_mem_singleton.mpr hrequest⟩

theorem Recorded.createButton (h : s.Recorded ids) (channelName : Option String)
    (random : Nat) (now : Timestamp) :
    (s.createButton channelName random now).Recorded ids := by
  cases channelName with
  | none => exact h
  | some channelName =>
      refine ⟨h.documents, List.forall_mem_append.mpr ⟨h.underWay, ?_⟩, h.stored,
        h.grows, h.requests⟩
      exact List.forall_mem_singleton.mpr rfl

/-- A delivery moves a listener and keeps the collection. -/
theorem Recorded.deliver (h : s.Recorded ids) {i : Nat} {request : Request DeviceID Date}
    {snap : QuerySnapshot} {channels : Observed (Request DeviceID Date) QuerySnapshot}
    (hdeliver : s.channels.deliver i = some (request, snap, channels)) :
    { s with channels := channels }.Recorded ids ∧ snap ∈ channels.history ∧
      ∀ sent channel, request = .createMessage sent channel → sent.Identified ids := by
  have hsnap := Observed.state_mem_history hdeliver
  obtain ⟨l, hl, -, rfl, hhistory, hlisteners⟩ := Observed.deliver_eq_some hdeliver
  have hcurrent := Observed.current_of_history_eq hhistory
  have hrequest := h.requests l (List.mem_of_getElem? hl)
  refine ⟨⟨fun reference => ?_, ?_, ?_, ?_, ?_⟩, hhistory ▸ hsnap, hrequest⟩
  · have hdocuments := h.documents reference
    simp only [snapshot, hcurrent] at hdocuments ⊢
    exact hdocuments
  · simpa only [hcurrent] using h.underWay
  · simpa only [hcurrent] using h.stored
  · simpa only [hcurrent, hhistory] using h.grows
  · simp only [hlisteners]
    exact forall_mem_set h.requests hrequest

theorem Recorded.runBlock [Instant Date] [DecidableEq DeviceID] (h : s.Recorded ids)
    {snap : QuerySnapshot} (hsnap : snap ∈ s.channels.history)
    {request : Request DeviceID Date}
    (hrequest : ∀ sent channel, request = .createMessage sent channel →
      sent.Identified ids) :
    (s.runBlock request (some snap) none).Recorded ids := by
  cases request with
  | createMessage sent channel =>
      refine ⟨h.documents, List.forall_mem_append.mpr ⟨h.underWay, ?_⟩, h.stored,
        h.grows, h.requests⟩
      -- the block writes below documents of the delivered snapshot
      rw [createMessageBlock_snapshot, List.map_map]
      intro addition haddition
      obtain ⟨doc, hdoc, rfl⟩ := List.mem_map.mp haddition
      exact ⟨hrequest sent channel rfl, doc,
        h.grows snap hsnap (List.mem_of_mem_filter hdoc), rfl⟩
  | getAllChannels device =>
      simp only [Messenger.runBlock, getAllChannelsBlock_snapshot]
      exact ⟨h.documents, h.underWay, h.stored, h.grows, h.requests⟩

/-- The written document joins its collection, and no other document leaves one. -/
theorem Recorded.arrive [Instant Date] [DateFormatter Date] (h : s.Recorded ids)
    {index : Nat} {stored : StoredDocument DeviceID} {snap : QuerySnapshot}
    (hget : s.underWay[index]? = some stored.toAddition)
    (hsnap : snap.documents =
      (s.snapshot stored.write.collection).documents ++ [stored.document]) :
    ((s.store index stored).change stored.write.collection snap).Recorded ids := by
  have hsub : ((s.store index stored).snapshot stored.write.collection).documents ⊆
      snap.documents := by
    rw [hsnap]
    exact List.subset_append_left _ _
  have hcurrent : s.channels.current.documents ⊆
      ((s.store index stored).change stored.write.collection snap).channels.current.documents :=
    subset_change hsub
  refine ⟨fun reference => ?_, fun other hother => ?_, ?_, fun state hstate => ?_, ?_⟩
  · have hdocuments := h.documents reference
    rw [snapshot_change, storedIn, stored_change, store, List.filter_append, List.map_append]
    split
    · rename_i hreference
      subst hreference
      simp [hsnap, hdocuments, storedIn]
    · rename_i hreference
      simp only [snapshot] at hdocuments ⊢
      simp [hdocuments, storedIn, Ne.symm hreference]
  · rw [underWay_change] at hother
    exact (h.underWay other (List.mem_of_mem_eraseIdx hother)).mono hcurrent
  · rw [stored_change]
    refine List.forall_mem_append.mpr ⟨fun other hother => ?_, ?_⟩
    · exact (h.stored other hother).mono hcurrent
    · have harrived := h.underWay _ (List.mem_of_getElem? hget)
      exact List.forall_mem_singleton.mpr (harrived.mono hcurrent)
  · rcases mem_history_change hstate with hold | rfl
    · exact List.Subset.trans (h.grows state hold) hcurrent
    · exact List.Subset.refl _
  · rw [listeners_change]
    exact h.requests

theorem Recorded.step [Instant Date] [DateFormatter Date] [DecidableEq DeviceID]
    (h : s.Recorded ids) {e : MessengerEvent DeviceID} (hstep : step ids s e = some s') :
    s'.Recorded ids := by
  cases e with
  | addAllChannels device =>
      obtain rfl := Option.some.inj hstep
      exact h.attach _ fun sent channel hrequest => by cases hrequest
  | createButton channelName random now =>
      obtain rfl := Option.some.inj hstep
      exact h.createButton channelName random now
  | didSelectRowAt device row =>
      obtain rfl := Option.some.inj hstep
      exact ⟨h.documents, h.underWay, h.stored, h.grows, h.requests⟩
  | sendFakeMessage index available random now =>
      obtain ⟨conversation, conversation', -, -, rfl⟩ := step_sendFakeMessage hstep
      have hattached := h.attach (.createMessage
        ⟨conversation.device, random, now,
          ids.identifierForVendor conversation.device available⟩
        conversation'.table.channel) fun sent channel hrequest => by
          obtain ⟨rfl, -⟩ := Request.createMessage.inj hrequest
          exact ⟨available, rfl⟩
      exact ⟨hattached.documents, hattached.underWay, hattached.stored, hattached.grows,
        hattached.requests⟩
  | arrive index documentID isSegment =>
      obtain ⟨stored, snap, hget, hsnap, rfl⟩ := step_arrive hstep
      exact h.arrive hget hsnap
  | deliver i =>
      obtain ⟨request, snap, channels, -, hdeliver, rfl⟩ := step_deliver hstep
      obtain ⟨hdelivered, hsnap, hrequest⟩ := h.deliver hdeliver
      exact hdelivered.runBlock hsnap hrequest
  | fail i err =>
      obtain ⟨-, -, rfl⟩ := step_fail hstep
      exact ⟨h.documents, h.underWay, h.stored, h.grows, h.requests⟩
  | conversation index e =>
      obtain ⟨conversation, conversation', -, -, rfl⟩ := step_conversation hstep
      exact ⟨h.documents, h.underWay, h.stored, h.grows, h.requests⟩

theorem recorded_run [Instant Date] [DateFormatter Date] [DecidableEq DeviceID]
    {es : List (MessengerEvent DeviceID)} (hrun : run (step ids) start es = some s) :
    s.Recorded ids :=
  run_invariant (I := Recorded ids) (fun _ _ _ hstep h => h.step hstep) hrun recorded_start

theorem Recorded.exists_stored (h : s.Recorded ids) {reference : CollectionReference}
    {doc : QueryDocumentSnapshot} (hdoc : doc ∈ (s.snapshot reference).documents) :
    ∃ stored ∈ s.stored, stored.document = doc ∧ stored.write.collection = reference := by
  rw [h.documents] at hdoc
  obtain ⟨stored, hstored, hdocument⟩ := List.mem_map.mp hdoc
  obtain ⟨hmem, hreference⟩ := mem_storedIn.mp hstored
  exact ⟨stored, hmem, hdocument, hreference⟩

/-! ## Read back -/

variable [Instant Date]

/-- Every document is accepted by the block that reads its collection, and the
lists that the blocks deliver hold, document by document, what was written. -/
structure ReadsBack (s : Messenger DeviceID Date) : Prop where
  documents : ∀ reference, (s.snapshot reference).documents =
    (s.storedIn reference).map StoredDocument.document
  decoded : ∀ stored ∈ s.storedIn (collection "channels"), ∃ channel : Channel Date,
    stored.channel = some channel ∧ channelFromSnapshot stored.document = some channel
  channels : ∃ channelsList : List (Channel Date),
    getAllChannelsBlock (some (s.snapshot (collection "channels"))) none =
      some channelsList ∧
    (channelsList.map some).Perm
      ((s.storedIn (collection "channels")).map StoredDocument.channel)
  messages : ∀ reference, reference ≠ collection "channels" →
    ∃ messagesList : List (Message Date),
      getAllMessagesBlock (some (s.snapshot reference)) none = some messagesList ∧
      (messagesList.map some).Perm
        ((s.storedIn reference).map StoredDocument.message)

theorem Recorded.readsBack (h : s.Recorded ids) : s.ReadsBack := by
  have hchannels : ∀ stored ∈ s.storedIn (collection "channels"), ∃ channel : Channel Date,
      stored.channel = some channel ∧
        channelFromSnapshot stored.document = some channel := by
    intro stored hstored
    obtain ⟨hmem, hreference⟩ := mem_storedIn.mp hstored
    exact StoredDocument.channel_of_formed (h.stored stored hmem) hreference
  refine ⟨h.documents, hchannels, ⟨_, getAllChannelsBlock_snapshot _, ?_⟩,
    fun reference hreference => ⟨_, getAllMessagesBlock_snapshot _, ?_⟩⟩
  · refine ((sorted_perm _ _).map some).trans ?_
    rw [h.documents, List.filterMap_map,
      map_some_filterMap (f := channelFromSnapshot ∘ StoredDocument.document) hchannels]
  · refine ((sorted_perm _ _).map some).trans ?_
    rw [h.documents, List.filterMap_map,
      map_some_filterMap (f := messageOf ∘ StoredDocument.document) fun stored hstored => ?_]
    obtain ⟨hmem, hcollection⟩ := mem_storedIn.mp hstored
    exact StoredDocument.message_of_formed (h.stored stored hmem)
      (hcollection ▸ hreference)

/-- After every run of the devices, what they wrote is what they read. -/
theorem readsBack_run [DateFormatter Date] [DecidableEq DeviceID]
    (ids : VendorIdentifiers DeviceID) (es : List (MessengerEvent DeviceID))
    (s : Messenger DeviceID Date) (hrun : run (step ids) start es = some s) :
    s.ReadsBack :=
  (recorded_run hrun).readsBack

end Messenger

end

/-! ## Two devices -/

section

attribute [local instance] asciiText nanosecondDates universalClock

def twoDevices : VendorIdentifiers Bool where
  uuidString device :=
    if device then "E621E1F8-C36C-495A-93FC-0C247A3E6E5F"
    else "68753A44-4D6F-1226-9C60-0050E4C00067"
  distinct := by decide
  ne_empty := by decide

theorem segments_first : segments "first" = ["first"] := by decide

/-- A device creates a channel, finds it in its list, opens it and sends a message. -/
def firstSend : List (MessengerEvent Bool) :=
  [.createButton (some "Lobby") 0 tenSeconds, .arrive 0 "lobby" segments_lobby,
    .addAllChannels false, .deliver 0, .didSelectRowAt false 0,
    .sendFakeMessage 0 true 0 twentySeconds, .deliver 1,
    .arrive 0 "first" segments_first]

theorem readsBack_firstSend :
    ∃ s : Messenger Bool Int, run (Messenger.step twoDevices) Messenger.start firstSend =
        some s ∧
      s.stored.length = 2 ∧ s.ReadsBack := by
  have hstored : (run (Messenger.step twoDevices) (Messenger.start : Messenger Bool Int)
      firstSend).map (fun s => s.stored.length) = some 2 := by decide +kernel
  obtain ⟨s, hrun, hlength⟩ := Option.map_eq_some_iff.mp hstored
  exact ⟨s, hrun, hlength, Messenger.readsBack_run twoDevices firstSend s hrun⟩

end

end Chatik
