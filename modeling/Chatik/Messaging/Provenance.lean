import Chatik.Messaging.Custody

/-!
# Where what is shown comes from

No device shows what nobody has entered.  The channels of a list have been entered in
the alerts of the devices, each of them as often as it is listed; a message of a
conversation has been sent by a tap in a conversation on the same collection.  When
the messenger has come to rest, nothing that was entered is missing where no listener
has reported an error.
-/

namespace Chatik

open Chatik.Library FirebaseService

section

variable {DeviceID Date : Type} [Instant Date]

/-! ## Channels that are entered -/

omit [Instant Date] in
/-- What a channel is entered with: all but its identifier. -/
structure ChannelEntry (Date : Type) where
  name : String
  lastMessage : Option String
  lastActivity : Option Date

omit [Instant Date] in
def Channel.entry (channel : Channel Date) : ChannelEntry Date :=
  ⟨channel.name, channel.lastMessage, channel.lastActivity⟩

def MessengerEvent.entry? : MessengerEvent DeviceID → Option (ChannelEntry Date)
  | .createButton (some channelName) random now =>
      some ⟨channelName, some (ConversationListViewController.generateLastMessage random),
        some (Instant.dateValue now)⟩
  | _ => none

def Addition.entry? (addition : Addition DeviceID) : Option (ChannelEntry Date) :=
  match addition.origin with
  | .channelButtonTapped channelName randomMessage now =>
      some ⟨channelName, some randomMessage, some (Instant.dateValue now)⟩
  | .sendFakeMessage _ => none

/-- The message that is read where a sent one is stored. -/
def SentMessage.message (sent : SentMessage DeviceID) : Message Date :=
  ⟨"Vladislav", getDeviceUUID sent.identifierForVendor,
    ConversationViewController.contents[sent.random]?.getD "noText",
    Instant.dateValue sent.now⟩

theorem StoredDocument.entry_of_channel (stored : StoredDocument DeviceID)
    {channel : Channel Date} (h : stored.channel = some channel) :
    stored.toAddition.entry? = some channel.entry := by
  obtain ⟨⟨write, origin⟩, documentID, isSegment⟩ := stored
  cases origin with
  | channelButtonTapped channelName randomMessage now =>
      obtain rfl := Option.some.inj h
      rfl
  | sendFakeMessage sent => cases h

namespace Messenger

def entries (s : Messenger DeviceID Date) : List (ChannelEntry Date) :=
  s.additions.filterMap Addition.entry?

variable [Unicode] {ids : VendorIdentifiers DeviceID} {s s' : Messenger DeviceID Date}

theorem entries_deliver [DecidableEq DeviceID] (request : Request DeviceID Date)
    (snap : QuerySnapshot) (channels : Observed (Request DeviceID Date) QuerySnapshot) :
    (runBlock { s with channels := channels } request (some snap) none).entries =
      s.entries := by
  cases request with
  | createMessage sent channel =>
      have hnone : ∀ writes : List Write, ((writes.map fun write =>
          (⟨write, .sendFakeMessage sent⟩ : Addition DeviceID)).filterMap
            Addition.entry? : List (ChannelEntry Date)) = [] := by
        intro writes
        rw [List.filterMap_map]
        exact List.filterMap_eq_nil_iff.mpr fun write _ => rfl
      simp only [entries, additions, runBlock, List.filterMap_append, hnone, List.append_nil]
  | getAllChannels device =>
      simp only [runBlock, getAllChannelsBlock_snapshot]
      rfl

variable [DecidableEq DeviceID] [DateFormatter Date]

/-- Only the Create button adds a channel. -/
theorem entries_step {e : MessengerEvent DeviceID} (hstep : step ids s e = some s') :
    s'.entries.Perm (s.entries ++ e.entry?.toList) := by
  have hsame : ∀ s'' : Messenger DeviceID Date, s''.entries = s.entries →
      s''.entries.Perm (s.entries ++ []) := fun s'' h => by
    rw [List.append_nil, h]
  cases e with
  | addAllChannels device =>
      obtain rfl := Option.some.inj hstep
      exact hsame _ rfl
  | createButton channelName random now =>
      obtain rfl := Option.some.inj hstep
      cases channelName with
      | none => exact hsame _ rfl
      | some channelName =>
          refine List.Perm.of_eq ?_
          simp [entries, additions, createButton, addDocument, Addition.entry?,
            MessengerEvent.entry?]
  | didSelectRowAt device row =>
      obtain rfl := Option.some.inj hstep
      exact hsame _ rfl
  | sendFakeMessage index available random now =>
      obtain ⟨before, after, -, -, rfl⟩ := step_sendFakeMessage hstep
      exact hsame _ rfl
  | arrive index documentID isSegment =>
      obtain ⟨stored, snap, hget, -, rfl⟩ := step_arrive hstep
      have hadditions : ((s.store index stored).additions.filterMap Addition.entry?).Perm
          s.entries := (additions_store hget).filterMap _
      rw [entries, additions_change]
      exact hadditions.trans (List.Perm.of_eq (List.append_nil _).symm)
  | deliver i =>
      obtain ⟨request, snap, channels, -, -, rfl⟩ := step_deliver hstep
      exact hsame _ (entries_deliver request snap channels)
  | fail i err =>
      obtain ⟨-, -, rfl⟩ := step_fail hstep
      exact hsame _ rfl
  | conversation index e =>
      obtain ⟨before, after, -, -, rfl⟩ := step_conversation hstep
      exact hsame _ rfl

theorem entries_run {es : List (MessengerEvent DeviceID)}
    (hrun : run (Messenger.step ids) start es = some s) :
    s.entries.Perm (es.filterMap MessengerEvent.entry?) :=
  run_collects (f := entries) (fun _ _ _ hstep => entries_step hstep) hrun

omit [DecidableEq DeviceID] [DateFormatter Date] in
/-- A document of `channels` decodes to what was entered, and no other document was
entered. -/
theorem Recorded.entry_stored (h : s.Recorded ids) {stored : StoredDocument DeviceID}
    (hmem : stored ∈ s.stored) :
    (if stored.write.collection = collection "channels" then
      (channelFromSnapshot stored.document : Option (Channel Date)).map Channel.entry
      else none) = stored.toAddition.entry? := by
  have hformed := h.stored stored hmem
  split
  · rename_i hchannels
    obtain ⟨channel, hchannel, hdecoded⟩ : ∃ channel : Channel Date,
        stored.channel = some channel ∧ channelFromSnapshot stored.document = some channel :=
      StoredDocument.channel_of_formed hformed hchannels
    rw [hdecoded, stored.entry_of_channel hchannel]
    rfl
  · rename_i hother
    cases horigin : stored.origin with
    | channelButtonTapped channelName randomMessage now =>
        simp only [Addition.Formed, horigin] at hformed
        exact absurd (congrArg Write.collection hformed) hother
    | sendFakeMessage sent => rw [Addition.entry?, horigin]

omit [DecidableEq DeviceID] [DateFormatter Date] in
theorem Recorded.entries_shown (h : s.Recorded ids) :
    ((shownChannels s.channels.current : List (Channel Date)).map Channel.entry).Perm
      ((s.stored.map StoredDocument.toAddition).filterMap Addition.entry?) := by
  have hdocuments : s.channels.current.documents =
      (s.storedIn (collection "channels")).map StoredDocument.document :=
    h.documents (collection "channels")
  refine ((sorted_perm _ _).map Channel.entry).trans (List.Perm.of_eq ?_)
  rw [hdocuments, List.filterMap_map, List.map_filterMap, storedIn, List.filterMap_filter,
    List.filterMap_map]
  refine List.filterMap_congr fun stored hstored => ?_
  simp only [decide_eq_true_eq, Function.comp_apply]
  exact h.entry_stored hstored

omit [DecidableEq DeviceID] [DateFormatter Date] in
/-- What a device has received of `channels` is there still. -/
theorem Recorded.shownChannels_subperm (h : s.Recorded ids) {snap : QuerySnapshot}
    (hsnap : snap ∈ s.channels.history) :
    (shownChannels snap : List (Channel Date)).Subperm (shownChannels s.channels.current) := by
  have hdocuments : snap.documents.Subperm s.channels.current.documents :=
    List.subperm_of_subset (List.Nodup.of_map _ snap.nodup) (h.grows snap hsnap)
  exact subperm_sorted _ (subperm_filterMap channelFromSnapshot hdocuments)

/-! ## Requests -/

omit [DateFormatter Date] [Instant Date] in
/-- What an event asks of the service, and how often `channels` has changed before. -/
def requested (ids : VendorIdentifiers DeviceID) (s : Messenger DeviceID Date) :
    MessengerEvent DeviceID → Option (Request DeviceID Date × Nat)
  | .addAllChannels device => some (.getAllChannels device, s.channels.changes.length)
  | .sendFakeMessage index available random now =>
      s.conversations[index]?.map fun conversation =>
        (.createMessage ⟨conversation.device, random, now,
          ids.identifierForVendor conversation.device available⟩ conversation.table.channel,
          s.channels.changes.length)
  | _ => none

omit [DateFormatter Date] [Instant Date] [Unicode] [DecidableEq DeviceID] in
def requests (s : Messenger DeviceID Date) : List (Request DeviceID Date × Nat) :=
  s.channels.listeners.map fun l => (l.key, l.since)

/-- A listener is attached where an event asks for it, and its request never changes. -/
theorem requests_step {e : MessengerEvent DeviceID} (hstep : step ids s e = some s') :
    s'.requests = s.requests ++ (requested ids s e).toList := by
  have hsame : ∀ s'' : Messenger DeviceID Date, s''.requests = s.requests →
      s''.requests = s.requests ++ [] := fun s'' h => by
    rw [List.append_nil, h]
  cases e with
  | addAllChannels device =>
      obtain rfl := Option.some.inj hstep
      simp [requests, requested, Observed.attach]
  | createButton channelName random now =>
      obtain rfl := Option.some.inj hstep
      cases channelName <;> exact hsame _ rfl
  | didSelectRowAt device row =>
      obtain rfl := Option.some.inj hstep
      exact hsame _ rfl
  | sendFakeMessage index available random now =>
      obtain ⟨before, after, hget, hsend, rfl⟩ := step_sendFakeMessage hstep
      obtain ⟨table, htable, rfl⟩ := Option.map_eq_some_iff.mp hsend
      have hchannel : table.channel = before.table.channel :=
        (MessageTable.step_listed htable).1
      simp [requests, requested, Observed.attach, hget, hchannel]
  | arrive index documentID isSegment =>
      obtain ⟨stored, snap, -, -, rfl⟩ := step_arrive hstep
      refine hsame _ ?_
      rw [requests, listeners_change]
      rfl
  | deliver i =>
      obtain ⟨request, snap, channels, -, hdeliver, rfl⟩ := step_deliver hstep
      obtain ⟨l, hl, -, -, -, hlisteners⟩ := Observed.deliver_eq_some hdeliver
      refine hsame _ ?_
      have hkeys : (channels.listeners.map fun l => (l.key, l.since)) = s.requests := by
        rw [hlisteners]
        exact map_set_same hl rfl
      cases request with
      | createMessage sent channel => exact hkeys
      | getAllChannels device =>
          simp only [runBlock, getAllChannelsBlock_snapshot]
          exact hkeys
  | fail i err =>
      obtain ⟨-, -, rfl⟩ := step_fail hstep
      exact hsame _ rfl
  | conversation index e =>
      obtain ⟨before, after, -, -, rfl⟩ := step_conversation hstep
      exact hsame _ rfl

theorem requests_run {es : List (MessengerEvent DeviceID)}
    (hrun : run (Messenger.step ids) start es = some s) :
    s.requests = written (Messenger.step ids) (requested ids) start es :=
  run_written_append (f := requests) (fun _ _ _ hstep => requests_step hstep) hrun

/-- A device that has asked for its channels goes on listing them. -/
theorem listsChannels_run {es : List (MessengerEvent DeviceID)}
    (hrun : run (Messenger.step ids) start es = some s) {device : DeviceID}
    (hasked : .addAllChannels device ∈ es) : s.ListsChannels device := by
  have hwrites : ∃ t, ∀ request, requested ids t (.addAllChannels device) = some request →
      request ∈ written (Messenger.step ids) (requested ids) start es :=
    exists_written_of_mem hrun hasked
  obtain ⟨t, hwritten⟩ := hwrites
  have hrequest := hwritten _ rfl
  rw [← requests_run hrun] at hrequest
  obtain ⟨l, hl, hkey⟩ := List.mem_map.mp hrequest
  exact ⟨l, hl, (Prod.mk.inj hkey).1⟩

/-! ## Channels that are listed -/

omit [DateFormatter Date] [Instant Date] [Unicode] [DecidableEq DeviceID] in
/-- No listener that lists the channels for the device has reported an error. -/
def Listening (s : Messenger DeviceID Date) (device : DeviceID) : Prop :=
  ∀ (i : Nat) (l : Listener (Request DeviceID Date)), s.channels.listeners[i]? = some l →
    l.key = .getAllChannels device → i ∉ s.stopped

/-- Every channel of a list was entered, no channel more often than it was, and at rest
the list of a device that has opened it and been told of no error holds all that were
entered. -/
theorem lists_hold_entries (ids : VendorIdentifiers DeviceID)
    (es : List (MessengerEvent DeviceID)) (s : Messenger DeviceID Date)
    (hrun : run (Messenger.step ids) start es = some s) (device : DeviceID) :
    ((s.channelsList device).map Channel.entry).Subperm
        (es.filterMap MessengerEvent.entry?) ∧
      (Quiet (Messenger.step ids) MessengerEvent.isOwn s → .addAllChannels device ∈ es →
        s.Listening device →
          ((s.channelsList device).map Channel.entry).Perm
            (es.filterMap MessengerEvent.entry?)) := by
  have hsynced := synced_run hrun
  have hrecorded := hsynced.traced.recorded
  have hentries := entries_run hrun
  have hshown := hrecorded.entries_shown
  constructor
  · have hbelow : (s.channelsList device).Subperm (shownChannels s.channels.current) := by
      rcases (hsynced.lists device).eq_first_or_view with hlist | ⟨snap, hsnap, hlist⟩
      · rw [hlist]
        exact List.nil_subperm
      · rw [hlist]
        exact hrecorded.shownChannels_subperm hsnap
    have hstored : ((s.stored.map StoredDocument.toAddition).filterMap
        Addition.entry?).Subperm s.entries :=
      ((List.sublist_append_left _ _).filterMap _).subperm
    exact (subperm_map Channel.entry hbelow).trans (hshown.subperm.trans
      (hstored.trans hentries.subperm))
  · intro hquiet hasked hlistening
    have hreceived : ∀ l ∈ s.channels.listeners, l.key = .getAllChannels device →
        l.next = s.channels.history.length := by
      intro l hl hkey
      obtain ⟨i, hi⟩ := List.getElem?_of_mem hl
      exact next_of_quiet hquiet hi (hlistening i l hi hkey)
    have hlist : s.channelsList device = shownChannels s.channels.current :=
      (hsynced.lists device).settled hreceived (listsChannels_run hrun hasked)
    rw [entries, additions_of_quiet hquiet] at hentries
    rw [hlist]
    exact hshown.trans hentries

/-! ## Messages that are shown -/

omit [DateFormatter Date] [DecidableEq DeviceID] in
/-- A message that has been added is a copy of a request on its collection. -/
theorem Copied.exists_request (h : s.Copied ids) (hids : s.channels.current.ExactIDs)
    {addition : Addition DeviceID} (hmem : addition ∈ s.addedMessages) :
    ∃ sent channel since, (.createMessage sent channel, since) ∈ s.requests ∧
      getMessagesReference channel = some addition.write.collection ∧
      addition.origin = .sendFakeMessage sent := by
  obtain ⟨l, hl, hmade⟩ := List.mem_flatMap.mp ((h.addedMessages_perm hids).mem_iff.mp hmem)
  obtain ⟨copy, hcopy, hcopies⟩ := List.mem_flatMap.mp hmade
  obtain rfl := List.eq_of_mem_replicate hcopies
  rw [Option.mem_toList] at hcopy
  have hrequest : (l.key, l.since) ∈ s.requests := List.mem_map.mpr ⟨l, hl, rfl⟩
  cases hkey : l.key with
  | getAllChannels device =>
      rw [hkey] at hcopy
      cases hcopy
  | createMessage sent channel =>
      rw [hkey] at hcopy hrequest
      obtain ⟨reference, hreference, rfl⟩ := Option.map_eq_some_iff.mp hcopy
      exact ⟨sent, channel, l.since, hrequest, hreference, rfl⟩

omit [Unicode] [DateFormatter Date] [DecidableEq DeviceID] in
theorem exists_sent_of_message (stored : StoredDocument DeviceID) {message : Message Date}
    (h : stored.message = some message) :
    ∃ sent : SentMessage DeviceID, stored.origin = .sendFakeMessage sent ∧
      message = sent.message := by
  obtain ⟨⟨write, origin⟩, documentID, isSegment⟩ := stored
  cases origin with
  | channelButtonTapped channelName randomMessage now => cases h
  | sendFakeMessage sent => exact ⟨sent, rfl, (Option.some.inj h).symm⟩

omit [DecidableEq DeviceID] in
/-- A message of a conversation is stored in its collection, as it was sent. -/
theorem Traced.exists_stored (h : s.Traced ids)
    {conversation : OpenConversation DeviceID Date} (hmem : conversation ∈ s.conversations)
    {message : Message Date} (hmessage : message ∈ conversation.table.messagesList) :
    ∃ stored ∈ s.stored, stored.message = some message ∧
      getMessagesReference conversation.table.channel = some stored.write.collection := by
  have hattributed := h.attributed conversation hmem
  rw [hattributed.listed.list] at hmessage
  obtain ⟨⟨doc, message⟩, hlisted, rfl⟩ := List.mem_map.mp hmessage
  obtain ⟨⟨snap, hsnap, hdoc⟩, hdecoded⟩ := MessageTable.mem_history_of_mem_listed hlisted
  obtain ⟨stored, hstored, rfl, hreference⟩ := hattributed.observed snap hsnap doc hdoc
  obtain ⟨written, hwritten, hread⟩ : ∃ written : Message Date,
      stored.message = some written ∧ messageOf stored.document = some written :=
    StoredDocument.message_of_formed (h.recorded.stored stored hstored)
      (getMessagesReference_ne_channels hreference)
  obtain rfl := Option.some.inj (hread.symm.trans hdecoded)
  exact ⟨stored, hstored, hwritten, hreference⟩

/-- The message is what a tap has sent in a conversation on the collection. -/
def SentTo (ids : VendorIdentifiers DeviceID) (es : List (MessengerEvent DeviceID))
    (reference : CollectionReference) (message : Message Date) : Prop :=
  ∃ (before : List (MessengerEvent DeviceID)) (index random : Nat) (available : Bool)
    (now : Timestamp) (after : List (MessengerEvent DeviceID))
    (t : Messenger DeviceID Date) (sender : OpenConversation DeviceID Date),
    es = before ++ .sendFakeMessage index available random now :: after ∧
    run (Messenger.step ids) start before = some t ∧
    t.conversations[index]? = some sender ∧
    getMessagesReference sender.table.channel = some reference ∧
    message = SentMessage.message
      ⟨sender.device, random, now, ids.identifierForVendor sender.device available⟩

theorem sentTo_of_request {es : List (MessengerEvent DeviceID)}
    (hrun : run (Messenger.step ids) start es = some s) {sent : SentMessage DeviceID}
    {channel : Option (Channel Date)} {since : Nat}
    (hrequest : (.createMessage sent channel, since) ∈ s.requests)
    {reference : CollectionReference} (hreference : getMessagesReference channel = some reference) :
    SentTo ids es reference (sent.message : Message Date) := by
  rw [requests_run hrun] at hrequest
  obtain ⟨before, e, after, t, rfl, hbefore, hrequested⟩ := exists_of_mem_written hrequest
  cases e with
  | sendFakeMessage index available random now =>
      obtain ⟨sender, hsender, heq⟩ := Option.map_eq_some_iff.mp hrequested
      obtain ⟨rfl, rfl⟩ := Request.createMessage.inj (Prod.mk.inj heq).1
      exact ⟨before, index, random, available, now, after, t, sender, rfl, hbefore, hsender,
        hreference, rfl⟩
  | addAllChannels device => cases hrequested
  | createButton channelName random now => cases hrequested
  | didSelectRowAt device row => cases hrequested
  | arrive index documentID isSegment => cases hrequested
  | deliver i => cases hrequested
  | fail i err => cases hrequested
  | conversation index e => cases hrequested

/-- Every message that a conversation shows was sent by a tap in a conversation on the same
collection, with the text, the sender and the time of that tap. -/
theorem shown_messages_sent (ids : VendorIdentifiers DeviceID)
    (es : List (MessengerEvent DeviceID)) (s : Messenger DeviceID Date)
    (hrun : run (Messenger.step ids) start es = some s)
    (hids : s.channels.current.ExactIDs) :
    ∀ conversation ∈ s.conversations, ∀ message ∈ conversation.table.messagesList,
      ∃ reference, getMessagesReference conversation.table.channel = some reference ∧
        SentTo ids es reference message := by
  intro conversation hconversation message hmessage
  obtain ⟨stored, hstored, hsent, hreference⟩ :=
    (traced_run hrun).exists_stored hconversation hmessage
  refine ⟨stored.write.collection, hreference, ?_⟩
  obtain ⟨sent, horigin, rfl⟩ := exists_sent_of_message stored hsent
  have hadded : stored.toAddition ∈ s.addedMessages := by
    refine List.mem_filter.mpr ⟨List.mem_append_left _ (List.mem_map_of_mem hstored), ?_⟩
    rw [Addition.isMessage, horigin]
  obtain ⟨sent', channel, since, hrequest, hchannel, hsame⟩ :=
    (copied_run hrun).exists_request hids hadded
  obtain rfl := Origin.sendFakeMessage.inj (horigin.symm.trans hsame)
  exact sentTo_of_request hrun hrequest hchannel

/-! ## Messages at rest -/

end Messenger

end

/-! ## One channel and one message -/

section

attribute [local instance] asciiText nanosecondDates universalClock

/-- Two devices list the channels, and the listener of the second reports an error. -/
def enteredLobby : List (MessengerEvent Bool) :=
  [.createButton (some "Lobby") 0 tenSeconds, .addAllChannels false, .addAllChannels true,
    .fail 1 ⟨"Missing or insufficient permissions."⟩]

theorem lists_hold_entries_enteredLobby : ∃ (s : Messenger Bool Int)
    (own : List (MessengerEvent Bool)),
    run (Messenger.step twoDevices) Messenger.start (enteredLobby ++ own) = some s ∧
      ⟨"Lobby", some "Hello to all followers", some (Instant.dateValue tenSeconds)⟩ ∈
        (s.channelsList false).map Channel.entry := by
  obtain ⟨r, hentered, hstopped, l, hl, hother⟩ : ∃ r : Messenger Bool Int,
      run (Messenger.step twoDevices) Messenger.start enteredLobby = some r ∧
        r.stopped = [1] ∧
        ∃ l, r.channels.listeners[1]? = some l ∧ l.key = .getAllChannels true :=
    ⟨_, rfl, rfl, _, rfl, rfl⟩
  obtain ⟨own, s, hown, hevents, hquiet⟩ :=
    (Messenger.settles twoDevices).exists_quiet (Messenger.synced_run hentered)
  have hrun : run (Messenger.step twoDevices) Messenger.start (enteredLobby ++ own) = some s :=
    run_append_eq_some.mpr ⟨r, hentered, hown⟩
  have hlistening : s.Listening false := by
    intro i m hm hkey hi
    rcases (Messenger.mem_stopped_run hown).mp hi with hbefore | ⟨err, herr⟩
    · obtain rfl : i = 1 := by simpa [hstopped] using hbefore
      obtain ⟨l', hl', hsame, -⟩ := (Messenger.continues_run hown).listeners 1 l hl
      obtain rfl := Option.some.inj (hl'.symm.trans hm)
      rw [hsame, hother] at hkey
      cases hkey
    · exact hevents _ herr
  have hlisted := (Messenger.lists_hold_entries twoDevices (enteredLobby ++ own) s hrun
    false).2 hquiet (List.mem_append_left _ (by simp [enteredLobby])) hlistening
  refine ⟨s, own, hrun, hlisted.mem_iff.mpr ?_⟩
  rw [List.filterMap_append]
  exact List.mem_append_left _ List.mem_cons_self

def shownFirst : List (MessengerEvent Bool) :=
  firstSend ++ [.conversation 0 (.deliver 0), .conversation 0 (.deliver 0)]

theorem shown_messages_sent_shownFirst : ∃ (s : Messenger Bool Int)
    (conversation : OpenConversation Bool Int) (message : Message Int)
    (reference : CollectionReference),
    run (Messenger.step twoDevices) Messenger.start shownFirst = some s ∧
      conversation ∈ s.conversations ∧ message ∈ conversation.table.messagesList ∧
      Messenger.SentTo twoDevices shownFirst reference message := by
  have hshown : (run (Messenger.step twoDevices) (Messenger.start : Messenger Bool Int)
      shownFirst).map (fun s => s.conversations[0]?.map fun conversation =>
        conversation.table.messagesList[0]?.isSome) = some (some true) := by decide +kernel
  obtain ⟨s, hrun, hopen⟩ := Option.map_eq_some_iff.mp hshown
  obtain ⟨conversation, hget, hfirst⟩ := Option.map_eq_some_iff.mp hopen
  obtain ⟨message, hmessage⟩ := Option.isSome_iff_exists.mp hfirst
  have hids := exactIDs_asciiText s.channels.current
  obtain ⟨reference, -, hsent⟩ := Messenger.shown_messages_sent twoDevices shownFirst s hrun hids
    conversation (List.mem_of_getElem? hget) message (List.mem_of_getElem? hmessage)
  exact ⟨s, conversation, message, reference, hrun, List.mem_of_getElem? hget,
    List.mem_of_getElem? hmessage, hsent⟩

end

end Chatik
