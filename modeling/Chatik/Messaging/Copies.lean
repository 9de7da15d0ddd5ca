import Chatik.Library.Deliveries
import Chatik.Messaging.MessengerClient
import Chatik.Messaging.Ownership

/-!
# Copies of a message

How often a sent message is added, and where.  A call of `createMessage` leaves a
listener on `channels` behind, whose block adds the message once more for every
state that it is called with.  The devices never change or remove a channel, so
the block finds the channel of the conversation in every one of these states: no
message is lost, none goes to another channel, and the number of its copies is
the number of calls.
-/

namespace Chatik

open Chatik.Library FirebaseService

section

variable {DeviceID Date : Type}

/-- What a request adds each time that its channel is found. -/
def Request.addition? : Request DeviceID Date → Option (Addition DeviceID)
  | .createMessage sent channel => (getMessagesReference channel).map fun reference =>
      ⟨reference.addDocument sent.fakeMessage, .sendFakeMessage sent⟩
  | .getAllChannels _ => none

/-- The copies made for the states that a listener has received. -/
def copies (l : Listener (Request DeviceID Date)) : List (Addition DeviceID) :=
  l.key.addition?.toList.flatMap (List.replicate (l.next - l.since))

def QuerySnapshot.HasChannel [Instant Date] (snap : QuerySnapshot)
    (channel : Channel Date) : Prop :=
  ∃ doc ∈ snap.documents, channelFromSnapshot doc = some channel

theorem QuerySnapshot.HasChannel.mono [Instant Date] {snap snap' : QuerySnapshot}
    {channel : Channel Date} (h : snap.HasChannel channel)
    (hsub : snap.documents ⊆ snap'.documents) : snap'.HasChannel channel := by
  obtain ⟨doc, hdoc, hchannel⟩ := h
  exact ⟨doc, hsub hdoc, hchannel⟩

/-- IDs that Swift takes for equal are equal, as those are that Firestore makes. -/
def QuerySnapshot.ExactIDs [Unicode] (snap : QuerySnapshot) : Prop :=
  ∀ first ∈ snap.documents, ∀ second ∈ snap.documents,
    sameText first.documentID second.documentID = true →
      first.documentID = second.documentID

namespace Messenger

/-- The messages that have been stored or are under way. -/
def addedMessages (s : Messenger DeviceID Date) : List (Addition DeviceID) :=
  s.additions.filter Addition.isMessage

variable [Instant Date] [Unicode]

/-- What the block of a request adds for one state of `channels`. -/
def addedFor (request : Request DeviceID Date) (snap : QuerySnapshot) :
    List (Addition DeviceID) :=
  match request with
  | .createMessage sent channel =>
      (createMessageBlock sent.fakeMessage channel (some snap) none).map
        (⟨·, .sendFakeMessage sent⟩)
  | .getAllChannels _ => []

/-! ## The account of the additions -/

def MessagesAccounted (s : Messenger DeviceID Date) : Prop :=
  s.addedMessages.Perm (s.channels.madeByAll addedFor)

variable {ids : VendorIdentifiers DeviceID} {s s' : Messenger DeviceID Date}

theorem messagesAccounted_start : (start : Messenger DeviceID Date).MessagesAccounted :=
  List.Perm.refl _

theorem MessagesAccounted.congr (h : s.MessagesAccounted)
    (hadded : s'.addedMessages.Perm s.addedMessages)
    (hmade : s'.channels.madeByAll addedFor = s.channels.madeByAll addedFor) :
    s'.MessagesAccounted := by
  rw [MessagesAccounted, hmade]
  exact hadded.trans h

theorem MessagesAccounted.arrive [DateFormatter Date] (h : s.MessagesAccounted) {index : Nat}
    {stored : StoredDocument DeviceID} (hget : s.underWay[index]? = some stored.toAddition)
    (reference : CollectionReference) (snap : QuerySnapshot) :
    ((s.store index stored).change reference snap).MessagesAccounted := by
  refine h.congr ?_ ?_
  · rw [addedMessages, additions_change]
    exact (additions_store hget).filter _
  · rw [channels_change]
    split
    · exact Observed.madeByAll_change addedFor _ snap
    · rfl

variable [DecidableEq DeviceID]

/-- The block adds what it owes for the delivered state. -/
theorem MessagesAccounted.deliver (h : s.MessagesAccounted) {i : Nat}
    {request : Request DeviceID Date} {snap : QuerySnapshot}
    {channels : Observed (Request DeviceID Date) QuerySnapshot}
    (hdeliver : s.channels.deliver i = some (request, snap, channels)) :
    (runBlock { s with channels := channels } request (some snap) none).MessagesAccounted := by
  have hmade := Observed.madeByAll_deliver addedFor hdeliver
  cases request with
  | createMessage sent channel =>
      have hall : ∀ addition ∈ addedFor (.createMessage sent channel) snap,
          addition.isMessage = true := by
        intro addition haddition
        obtain ⟨write, -, rfl⟩ := List.mem_map.mp haddition
        rfl
      have hadded : addedMessages
          (runBlock { s with channels := channels } (.createMessage sent channel)
            (some snap) none) =
          s.addedMessages ++ addedFor (.createMessage sent channel) snap := by
        simp only [addedMessages, additions, runBlock]
        rw [← List.append_assoc, List.filter_append]
        exact congrArg _ (List.filter_eq_self.mpr hall)
      rw [MessagesAccounted, hadded]
      exact (h.append_right _).trans hmade.symm
  | getAllChannels device =>
      simp only [runBlock, getAllChannelsBlock_snapshot]
      simp only [addedFor, List.append_nil] at hmade
      exact h.trans hmade.symm

variable [DateFormatter Date]

theorem MessagesAccounted.step {e : MessengerEvent DeviceID} (h : s.MessagesAccounted)
    (hstep : Messenger.step ids s e = some s') : s'.MessagesAccounted := by
  cases e with
  | addAllChannels device =>
      obtain rfl := Option.some.inj hstep
      exact h.congr (List.Perm.refl _) (Observed.madeByAll_attach ..)
  | createButton channelName random now =>
      obtain rfl := Option.some.inj hstep
      cases channelName with
      | none => exact h
      | some channelName =>
          refine h.congr (List.Perm.of_eq ?_) rfl
          simp [addedMessages, additions, createButton, addDocument, Addition.isMessage]
  | didSelectRowAt device row =>
      obtain rfl := Option.some.inj hstep
      exact h.congr (List.Perm.refl _) rfl
  | sendFakeMessage index available random now =>
      obtain ⟨conversation, conversation', -, -, rfl⟩ := step_sendFakeMessage hstep
      exact h.congr (List.Perm.refl _) (Observed.madeByAll_attach ..)
  | arrive index documentID isSegment =>
      obtain ⟨stored, snap, hget, -, rfl⟩ := step_arrive hstep
      exact h.arrive hget _ snap
  | deliver i =>
      obtain ⟨request, snap, channels, -, hdeliver, rfl⟩ := step_deliver hstep
      exact h.deliver hdeliver
  | fail i err =>
      obtain ⟨-, -, rfl⟩ := step_fail hstep
      exact h
  | conversation index e =>
      obtain ⟨conversation, conversation', -, -, rfl⟩ := step_conversation hstep
      exact h.congr (List.Perm.refl _) rfl

/-! ## The channels that the devices know -/

omit [DecidableEq DeviceID] [DateFormatter Date] in
/-- A device shows, has open and has asked for channels that the collection holds, and a
request finds its channel in every state since it was made. -/
structure Known (s : Messenger DeviceID Date) : Prop where
  listed : ∀ device, ∀ channel ∈ s.channelsList device, s.channels.current.HasChannel channel
  opened : ∀ conversation ∈ s.conversations, ∀ channel ∈ conversation.table.channel,
    s.channels.current.HasChannel channel
  requested : ∀ l ∈ s.channels.listeners, ∀ sent channel,
    l.key = .createMessage sent (some channel) →
      ∃ doc ∈ s.channels.current.documents, channelFromSnapshot doc = some channel ∧
        ∀ snap ∈ s.channels.history.drop l.since, doc ∈ snap.documents

omit [Unicode] [DecidableEq DeviceID] [DateFormatter Date] in
theorem known_start : (start : Messenger DeviceID Date).Known where
  listed device channel hchannel := by cases hchannel
  opened conversation hconversation := by cases hconversation
  requested l hl := by cases hl

omit [Unicode] [DecidableEq DeviceID] [DateFormatter Date] in
/-- The state in which a request is made is the first one that its listener gets. -/
theorem Known.attach (h : s.Known) (request : Request DeviceID Date)
    (hrequest : ∀ sent channel, request = .createMessage sent (some channel) →
      s.channels.current.HasChannel channel) :
    { s with channels := s.channels.attach request }.Known where
  listed := h.listed
  opened := h.opened
  requested := by
    refine List.forall_mem_append.mpr ⟨h.requested, List.forall_mem_singleton.mpr ?_⟩
    intro sent channel hkey
    obtain ⟨doc, hdoc, hchannel⟩ := hrequest sent channel hkey
    refine ⟨doc, hdoc, hchannel, fun snap hsnap => ?_⟩
    have hfirst : snap ∈ s.channels.history.drop s.channels.changes.length := hsnap
    rw [Observed.drop_changes_history, List.mem_singleton] at hfirst
    exact hfirst ▸ hdoc

omit [DecidableEq DeviceID] in
theorem channel_observe (reference : CollectionReference) (snap : QuerySnapshot)
    (conversation : OpenConversation DeviceID Date) :
    (OpenConversation.observe reference snap conversation).table.channel =
      conversation.table.channel := by
  unfold OpenConversation.observe
  split
  · cases hstep : conversation.step (.change snap) with
    | none => rfl
    | some conversation' =>
        obtain ⟨table, htable, rfl⟩ := Option.map_eq_some_iff.mp hstep
        exact (MessageTable.step_listed htable).1
  · rfl

omit [DecidableEq DeviceID] in
/-- A channel that is added to the collection takes none away. -/
theorem Known.change (h : s.Known) {reference : CollectionReference} {snap : QuerySnapshot}
    (hsnap : (s.snapshot reference).documents ⊆ snap.documents) :
    (s.change reference snap).Known where
  listed device channel hchannel := by
    have hlist : (s.change reference snap).channelsList = s.channelsList := by
      unfold Messenger.change
      split <;> rfl
    exact (h.listed device channel (hlist ▸ hchannel)).mono (subset_change hsnap)
  opened conversation hconversation channel hchannel := by
    have hbefore : ∃ before ∈ s.conversations,
        before.table.channel = conversation.table.channel := by
      unfold Messenger.change at hconversation
      split at hconversation
      · exact ⟨conversation, hconversation, rfl⟩
      · obtain ⟨before, hmem, rfl⟩ := List.mem_map.mp hconversation
        exact ⟨before, hmem, (channel_observe ..).symm⟩
    obtain ⟨before, hmem, hsame⟩ := hbefore
    exact (h.opened before hmem channel (hsame ▸ hchannel)).mono (subset_change hsnap)
  requested l hl sent channel hkey := by
    rw [listeners_change] at hl
    obtain ⟨doc, hdoc, hchannel, hstates⟩ := h.requested l hl sent channel hkey
    have hcurrent := subset_change hsnap hdoc
    refine ⟨doc, hcurrent, hchannel, fun state hstate => ?_⟩
    rw [channels_change] at hcurrent hstate
    split at hstate
    · rename_i hchannels
      obtain ⟨hsince, hnext⟩ := s.channels.ordered l hl
      have hlength : l.since ≤ s.channels.history.length := hsince.trans hnext
      rw [if_pos hchannels, Observed.current_change] at hcurrent
      rw [Observed.history_change, List.drop_append_of_le_length hlength] at hstate
      rcases List.mem_append.mp hstate with hold | hnew
      · exact hstates state hold
      · exact List.mem_singleton.mp hnew ▸ hcurrent
    · exact hstates state hstate

omit [DateFormatter Date] in
/-- A device that is called with a state lists channels of it. -/
theorem Known.deliver (h : s.Known) (hrecorded : s.Recorded ids) {i : Nat}
    {request : Request DeviceID Date} {snap : QuerySnapshot}
    {channels : Observed (Request DeviceID Date) QuerySnapshot}
    (hdeliver : s.channels.deliver i = some (request, snap, channels)) :
    (runBlock { s with channels := channels } request (some snap) none).Known := by
  have hsnap := Observed.state_mem_history hdeliver
  obtain ⟨l, hl, -, rfl, hhistory, hlisteners⟩ := Observed.deliver_eq_some hdeliver
  have hcurrent := Observed.current_of_history_eq hhistory
  have hdelivered : { s with channels := channels }.Known := by
    refine ⟨?_, ?_, ?_⟩
    · simpa only [hcurrent] using h.listed
    · simpa only [hcurrent] using h.opened
    · simp only [hcurrent, hhistory, hlisteners]
      exact forall_mem_set h.requested (h.requested l (List.mem_of_getElem? hl))
  cases hkey : l.key with
  | createMessage sent channel =>
      exact ⟨hdelivered.listed, hdelivered.opened, hdelivered.requested⟩
  | getAllChannels device =>
      simp only [runBlock, getAllChannelsBlock_snapshot]
      refine ⟨fun other channel hchannel => ?_, hdelivered.opened, hdelivered.requested⟩
      by_cases hother : other = device
      · subst hother
        simp only [Function.update_self] at hchannel
        obtain ⟨doc, hdoc, hdecoded⟩ :=
          List.mem_filterMap.mp ((sorted_perm _ _).mem_iff.mp hchannel)
        exact ⟨doc, hcurrent ▸ hrecorded.grows snap hsnap hdoc, hdecoded⟩
      · simp only [Function.update_of_ne hother] at hchannel
        exact hdelivered.listed other channel hchannel

theorem Known.step {e : MessengerEvent DeviceID} (h : s.Known) (hrecorded : s.Recorded ids)
    (hstep : Messenger.step ids s e = some s') : s'.Known := by
  cases e with
  | addAllChannels device =>
      obtain rfl := Option.some.inj hstep
      exact h.attach _ fun sent channel hrequest => by cases hrequest
  | createButton channelName random now =>
      obtain rfl := Option.some.inj hstep
      cases channelName <;> exact ⟨h.listed, h.opened, h.requested⟩
  | didSelectRowAt device row =>
      obtain rfl := Option.some.inj hstep
      refine ⟨h.listed, List.forall_mem_append.mpr ⟨h.opened, ?_⟩, h.requested⟩
      refine List.forall_mem_singleton.mpr fun channel hchannel => h.listed device channel ?_
      rw [MessageTable.channel_viewDidLoad, safe_eq_getElem?] at hchannel
      exact List.mem_of_getElem? hchannel
  | sendFakeMessage index available random now =>
      obtain ⟨before, after, hget, hsend, rfl⟩ := step_sendFakeMessage hstep
      obtain ⟨table, htable, rfl⟩ := Option.map_eq_some_iff.mp hsend
      have hchannel := (MessageTable.step_listed htable).1
      have hopened := h.opened before (List.mem_of_getElem? hget)
      have hattached := h.attach (.createMessage
        ⟨before.device, random, now, ids.identifierForVendor before.device available⟩
        table.channel) fun sent channel hrequest => by
          obtain ⟨-, hsame⟩ := Request.createMessage.inj hrequest
          exact hopened channel (hchannel ▸ hsame)
      exact ⟨hattached.listed, forall_mem_set h.opened
        (fun channel hsame => hopened channel (hchannel ▸ hsame)), hattached.requested⟩
  | arrive index documentID isSegment =>
      obtain ⟨stored, snap, -, hsnap, rfl⟩ := step_arrive hstep
      have hstored : (s.store index stored).Known := ⟨h.listed, h.opened, h.requested⟩
      refine hstored.change ?_
      rw [hsnap]
      exact List.subset_append_left _ _
  | deliver i =>
      obtain ⟨request, snap, channels, -, hdeliver, rfl⟩ := step_deliver hstep
      exact h.deliver hrecorded hdeliver
  | fail i err =>
      obtain ⟨-, -, rfl⟩ := step_fail hstep
      exact ⟨h.listed, h.opened, h.requested⟩
  | conversation index e =>
      obtain ⟨before, after, hget, hconversation, rfl⟩ := step_conversation hstep
      obtain ⟨table, htable, rfl⟩ := Option.map_eq_some_iff.mp hconversation
      have hchannel := (MessageTable.step_listed htable).1
      have hopened := h.opened before (List.mem_of_getElem? hget)
      exact ⟨h.listed, forall_mem_set h.opened
        (fun channel hsame => hopened channel (hchannel ▸ hsame)), h.requested⟩

/-! ## One copy for each call -/

omit [DecidableEq DeviceID] [DateFormatter Date] in
theorem Recorded.decodes (h : s.Recorded ids) {snap : QuerySnapshot}
    (hsnap : snap ∈ s.channels.history) {doc : QueryDocumentSnapshot}
    (hdoc : doc ∈ snap.documents) :
    ∃ channel : Channel Date, channelFromSnapshot doc = some channel := by
  have hmem : doc ∈ (s.snapshot (collection "channels")).documents := h.grows snap hsnap hdoc
  obtain ⟨stored, hstored, rfl, hchannels⟩ := h.exists_stored hmem
  obtain ⟨channel, -, hchannel⟩ : ∃ channel : Channel Date, stored.channel = some channel ∧
      channelFromSnapshot stored.document = some channel :=
    StoredDocument.channel_of_formed (h.stored stored hstored) hchannels
  exact ⟨channel, hchannel⟩

omit [DecidableEq DeviceID] [DateFormatter Date] in
/-- A block that looks for a channel of the state finds its document and no other. -/
theorem Recorded.addedFor_channel (h : s.Recorded ids) (hids : s.channels.current.ExactIDs)
    {snap : QuerySnapshot} (hsnap : snap ∈ s.channels.history) {doc : QueryDocumentSnapshot}
    (hdoc : doc ∈ snap.documents) {channel : Channel Date}
    (hchannel : channelFromSnapshot doc = some channel) (sent : SentMessage DeviceID) :
    addedFor (.createMessage sent (some channel)) snap =
      [⟨(messagesOf doc).addDocument sent.fakeMessage, .sendFakeMessage sent⟩] := by
  have hidentifier := identifier_of_channelFromSnapshot hchannel
  have honly : snap.documents.filter (isChannel (some channel)) = [doc] := by
    refine filter_eq_singleton (List.Nodup.of_map _ snap.nodup) hdoc fun other hother => ?_
    constructor
    · intro hmatch
      have hsame := sameText_of_isChannel hmatch
      rw [hidentifier] at hsame
      exact List.inj_on_of_nodup_map snap.nodup hother hdoc
        (hids other (h.grows snap hsnap hother) doc (h.grows snap hsnap hdoc) hsame)
    · rintro rfl
      exact isChannel_some.mpr ⟨channel, hchannel, Channel.same_refl channel⟩
  rw [addedFor, createMessageBlock_snapshot, honly]
  rfl

omit [DecidableEq DeviceID] [DateFormatter Date] in
/-- Every call of a block adds what its request asks for. -/
theorem Known.addedFor_delivered (h : s.Known) (hrecorded : s.Recorded ids)
    (hids : s.channels.current.ExactIDs) {l : Listener (Request DeviceID Date)}
    (hl : l ∈ s.channels.listeners) {snap : QuerySnapshot}
    (hsnap : snap ∈ s.channels.delivered l) :
    addedFor l.key snap = l.key.addition?.toList := by
  have hsince := Observed.delivered_subset s.channels l hsnap
  have hhistory : snap ∈ s.channels.history := List.mem_of_mem_drop hsince
  cases hkey : l.key with
  | getAllChannels device => rfl
  | createMessage sent channel =>
      cases channel with
      | none =>
          -- every document decodes, so no document equals a nil channel
          have hnone : snap.documents.filter (isChannel (none : Option (Channel Date))) = [] := by
            refine List.filter_eq_nil_iff.mpr fun doc hdoc => ?_
            obtain ⟨channel, hchannel⟩ := hrecorded.decodes hhistory hdoc
            simp [hchannel]
          rw [addedFor, createMessageBlock_snapshot, hnone]
          rfl
      | some channel =>
          obtain ⟨doc, -, hchannel, hstates⟩ := h.requested l hl sent channel hkey
          rw [hrecorded.addedFor_channel hids hhistory (hstates snap hsince) hchannel,
            Request.addition?, getMessagesReference_some
              (identifier_of_channelFromSnapshot hchannel).symm]
          rfl

omit [DecidableEq DeviceID] [DateFormatter Date] in
theorem Known.made_eq_copies (h : s.Known) (hrecorded : s.Recorded ids)
    (hids : s.channels.current.ExactIDs) {l : Listener (Request DeviceID Date)}
    (hl : l ∈ s.channels.listeners) : s.channels.made addedFor l = copies l := by
  have hmade : s.channels.made addedFor l =
      (s.channels.delivered l).flatMap fun _ => l.key.addition?.toList :=
    List.flatMap_congr fun snap hsnap => h.addedFor_delivered hrecorded hids hl hsnap
  rw [hmade, copies, ← Observed.length_delivered hl]
  cases l.key.addition? with
  | none => simp
  | some addition =>
      simp only [Option.toList_some, List.flatMap_singleton, ← List.map_eq_flatMap,
        List.map_const']

structure Copied (ids : VendorIdentifiers DeviceID) (s : Messenger DeviceID Date) :
    Prop where
  recorded : s.Recorded ids
  known : s.Known
  accounted : s.MessagesAccounted

theorem copied_run {es : List (MessengerEvent DeviceID)}
    (hrun : run (Messenger.step ids) start es = some s) : s.Copied ids :=
  run_invariant (I := Copied ids)
    (fun _ _ _ hstep h => ⟨h.recorded.step hstep, h.known.step h.recorded hstep,
      h.accounted.step hstep⟩)
    hrun ⟨recorded_start, known_start, messagesAccounted_start⟩

omit [DecidableEq DeviceID] [DateFormatter Date] in
theorem Copied.addedMessages_perm (h : s.Copied ids) (hids : s.channels.current.ExactIDs) :
    s.addedMessages.Perm (s.channels.listeners.flatMap copies) := by
  have hcopies : s.channels.madeByAll addedFor = s.channels.listeners.flatMap copies :=
    List.flatMap_congr fun l hl => h.known.made_eq_copies h.recorded hids hl
  exact hcopies ▸ h.accounted

/-- In every run the messages stored or under way are the copies, one for each state that
a listener left behind by a send has received, and each in the collection that the
conversation reads; a send on a channel asks for copies. -/
theorem messages_copied (ids : VendorIdentifiers DeviceID)
    (es : List (MessengerEvent DeviceID)) (s : Messenger DeviceID Date)
    (hrun : run (Messenger.step ids) start es = some s)
    (hids : s.channels.current.ExactIDs) :
    s.addedMessages.Perm (s.channels.listeners.flatMap copies) ∧
      ∀ l ∈ s.channels.listeners, ∀ sent channel,
        l.key = .createMessage sent (some channel) →
          ∃ reference, getMessagesReference (some channel) = some reference ∧
            copies l = List.replicate (l.next - l.since)
              ⟨reference.addDocument sent.fakeMessage, .sendFakeMessage sent⟩ := by
  have h := copied_run hrun
  refine ⟨h.addedMessages_perm hids, fun l hl sent channel hkey => ?_⟩
  obtain ⟨doc, -, hchannel, -⟩ := h.known.requested l hl sent channel hkey
  have hreference := getMessagesReference_some
    (identifier_of_channelFromSnapshot hchannel).symm
  refine ⟨messagesOf doc, hreference, ?_⟩
  simp [copies, hkey, Request.addition?, hreference]

end Messenger

end

/-! ## A second copy

After the first send another channel is created, and the message is added again.
-/

section

attribute [local instance] asciiText nanosecondDates universalClock

theorem exactIDs_asciiText (snap : QuerySnapshot) : snap.ExactIDs :=
  fun _ _ _ _ h => of_decide_eq_true h

def secondCopy : List (MessengerEvent Bool) :=
  firstSend ++ [.createButton (some "Garden") 0 twentySeconds,
    .arrive 0 "first" segments_first, .deliver 1]

theorem messages_copied_secondCopy :
    ∃ s : Messenger Bool Int, run (Messenger.step twoDevices) Messenger.start secondCopy =
        some s ∧
      s.addedMessages.length = 2 ∧
      s.addedMessages.Perm (s.channels.listeners.flatMap copies) := by
  have hadded : (run (Messenger.step twoDevices) (Messenger.start : Messenger Bool Int)
      secondCopy).map (fun s => s.addedMessages.length) = some 2 := by decide +kernel
  obtain ⟨s, hrun, hlength⟩ := Option.map_eq_some_iff.mp hadded
  have hids := exactIDs_asciiText s.channels.current
  exact ⟨s, hrun, hlength, (Messenger.messages_copied twoDevices secondCopy s hrun hids).1⟩

end

end Chatik
