import Chatik.Library.Deliveries
import Chatik.Messaging.Ownership

/-!
# Convergence

Snapshots reach the listeners of the devices when they like, and a screen with
several listeners may be given an older state after a newer one.  What a screen
holds is nevertheless a view of a state that one of its own listeners received
last.  So when no delivery is outstanding, all screens hold views of the current
states, and screens on the same collection hold the same list.
-/

namespace Chatik

open Chatik.Library FirebaseService

/-! ## One conversation -/

section

variable {Date : Type} [Instant Date]

/-- The list that a conversation makes of a state of its collection. -/
def shownMessages (snap : QuerySnapshot) : List (Message Date) :=
  (listedMessages snap).map Prod.snd

/-- The list that a device makes of a state of `channels`. -/
def shownChannels (snap : QuerySnapshot) : List (Channel Date) :=
  sorted (fun a b => decide (activityOf a > activityOf b))
    (snap.documents.filterMap channelFromSnapshot)

namespace MessageTable

/-- The screen shows the state that one of its listeners received last. -/
def ShowsReceived (s : MessageTable Date) : Prop :=
  s.messages.Keeps (fun _ => True) shownMessages [] s.messagesList

omit [Instant Date] in
theorem messages_viewDidLoad (channel : Option (Channel Date)) (snap : QuerySnapshot) :
    (viewDidLoad channel snap).messages =
      if (getMessagesReference channel).isSome then (Observed.start snap).attach ()
      else Observed.start snap := by
  unfold viewDidLoad ConversationViewController.viewDidLoad
    ConversationViewController.addAllMessages
  cases getMessagesReference channel <;> rfl

theorem showsReceived_viewDidLoad (channel : Option (Channel Date)) (snap : QuerySnapshot) :
    (viewDidLoad channel snap).ShowsReceived := by
  have hlist : (viewDidLoad channel snap).messagesList = [] :=
    ConversationViewController.messagesList_addAllMessages _
  have hstart := Observed.keeps_start (fun _ : Unit => True) (@shownMessages Date _) [] snap
  rw [ShowsReceived, hlist, messages_viewDidLoad]
  split
  · exact hstart.attach ()
  · exact hstart

variable [Unicode] [DateFormatter Date] {s s' : MessageTable Date}

/-- What a step does to the listeners and to the list. -/
theorem step_messages {e : MessageTableEvent} (hstep : step s e = some s') :
    (s'.messagesList = s.messagesList ∧
      (s'.messages = s.messages ∨ s'.messages = s.messages.attach () ∨
        ∃ snap, e = .change snap ∧ s'.messages = s.messages.change snap)) ∨
    ∃ i key snap, e = .deliver i ∧ i ∉ s.stopped ∧
      s.messages.deliver i = some (key, snap, s'.messages) ∧
      s'.messagesList = shownMessages snap := by
  have hperform := (step_eq_some hstep).2
  cases e with
  | sendFakeMessage =>
      obtain rfl := Option.some.inj hperform
      refine Or.inl ⟨ConversationViewController.messagesList_addAllMessages _, ?_⟩
      exact s.toConversationViewController.messages_addAllMessages.imp_right Or.inl
  | change snap =>
      obtain rfl := Option.some.inj hperform
      exact Or.inl ⟨rfl, Or.inr (Or.inr ⟨snap, rfl, rfl⟩)⟩
  | deliver i =>
      obtain ⟨l, key, snap, messages, -, hactive, hdeliver, rfl⟩ := perform_deliver hperform
      refine Or.inr ⟨i, key, snap, rfl, hactive, ?_, ?_⟩
      · simp only [runMessagesBlock, getAllMessagesBlock_snapshot]
        exact hdeliver
      · simp only [runMessagesBlock, getAllMessagesBlock_snapshot, shownMessages,
          listedMessages, map_snd_sortedWithSources]
        rfl
  | fail i err =>
      obtain ⟨-, -, rfl⟩ := perform_fail hperform
      exact Or.inl ⟨rfl, Or.inl rfl⟩
  | numberOfRowsInSection =>
      obtain rfl := Option.some.inj hperform
      exact Or.inl ⟨rfl, Or.inl rfl⟩
  | cellForRowAt row identifierForVendor inMessage sendingMessage =>
      obtain ⟨-, rfl⟩ := perform_cellForRowAt hperform
      unfold cellForRowAt
      split <;> exact Or.inl ⟨rfl, Or.inl rfl⟩

theorem ShowsReceived.step {e : MessageTableEvent} (h : s.ShowsReceived)
    (hstep : MessageTable.step s e = some s') : s'.ShowsReceived := by
  unfold ShowsReceived at h ⊢
  rcases step_messages hstep with
    ⟨hlist, hsame | hattach | ⟨snap, -, hchange⟩⟩ | ⟨i, key, snap, -, -, hdeliver, hlist⟩
  · rwa [hlist, hsame]
  · rw [hlist, hattach]
    exact h.attach ()
  · rw [hlist, hchange]
    exact h.change snap
  · rw [hlist]
    exact Observed.keeps_deliver hdeliver trivial

/-- A screen that listens goes on listening. -/
theorem listeners_ne_nil_step {e : MessageTableEvent} (h : s.messages.listeners ≠ [])
    (hstep : MessageTable.step s e = some s') : s'.messages.listeners ≠ [] := by
  rcases step_messages hstep with
    ⟨-, hsame | hattach | ⟨snap, -, hchange⟩⟩ | ⟨i, key, snap, -, -, hdeliver, -⟩
  · rwa [hsame]
  · rw [hattach]
    exact List.append_ne_nil_of_left_ne_nil h _
  · rwa [hchange]
  · obtain ⟨l, -, -, -, -, hlisteners⟩ := Observed.deliver_eq_some hdeliver
    rw [hlisteners, ne_eq, List.set_eq_nil_iff]
    exact h

end MessageTable

end

/-! ## All screens -/

section

variable {DeviceID Date : Type} [Instant Date]

omit [Instant Date] in
theorem getMessagesReference_ne_channels {channel : Option (Channel Date)}
    {reference : CollectionReference} (h : getMessagesReference channel = some reference) :
    reference ≠ collection "channels" := by
  rintro rfl
  unfold getMessagesReference at h
  split at h
  · cases h
  · split at h
    · have hpath := congrArg (fun reference => reference.path.length) (Option.some.inj h)
      have hchannels : segments "channels" = ["channels"] := by decide
      have hmessages : segments "messages" = ["messages"] := by decide
      simp [collection, CollectionReference.document, DocumentReference.collection,
        hchannels, hmessages] at hpath
    · cases h

namespace Messenger

/-- An open conversation observes its collection, listens to it and shows what it
received last. -/
structure InTouch (s : Messenger DeviceID Date)
    (conversation : OpenConversation DeviceID Date) : Prop where
  observes : ∀ reference, getMessagesReference conversation.table.channel = some reference →
    conversation.table.messages.current = s.snapshot reference
  listens : (getMessagesReference conversation.table.channel).isSome →
    conversation.table.messages.listeners ≠ []
  shows : conversation.table.ShowsReceived

/-- Every device shows the channels that it received last. -/
def ListsReceived (s : Messenger DeviceID Date) : Prop :=
  ∀ device, s.channels.Keeps (· = .getAllChannels device) shownChannels []
    (s.channelsList device)

theorem InTouch.congr {s s' : Messenger DeviceID Date}
    {conversation : OpenConversation DeviceID Date} (h : s.InTouch conversation)
    (hmessages : s'.messages = s.messages) : s'.InTouch conversation where
  observes reference hreference := by
    have hne := getMessagesReference_ne_channels hreference
    have hobserves := h.observes reference hreference
    simp only [snapshot, hne, ↓reduceIte] at hobserves ⊢
    rw [hobserves, hmessages]
  listens := h.listens
  shows := h.shows

theorem inTouch_viewDidLoad (s : Messenger DeviceID Date) (device : DeviceID)
    (channel : Option (Channel Date)) {messages : QuerySnapshot}
    (hmessages : ∀ reference, getMessagesReference channel = some reference →
      messages = s.snapshot reference) :
    s.InTouch ⟨device, MessageTable.viewDidLoad channel messages⟩ where
  observes reference hreference := by
    simp only [MessageTable.channel_viewDidLoad] at hreference
    simp only [MessageTable.messages_viewDidLoad, hreference, Option.isSome_some, ↓reduceIte]
    exact hmessages reference hreference
  listens hsome := by
    simp only [MessageTable.channel_viewDidLoad] at hsome
    simp only [MessageTable.messages_viewDidLoad, hsome, ↓reduceIte]
    exact List.append_ne_nil_of_right_ne_nil _ (List.cons_ne_nil _ _)
  shows := MessageTable.showsReceived_viewDidLoad channel messages

variable [Unicode] [DateFormatter Date] {ids : VendorIdentifiers DeviceID}
  {s s' : Messenger DeviceID Date} {conversation conversation' : OpenConversation DeviceID Date}

theorem InTouch.step (h : s.InTouch conversation) {e : MessageTableEvent}
    (hchanged : e.changed = []) (hstep : conversation.step e = some conversation') :
    s.InTouch conversation' := by
  obtain ⟨table, htable, rfl⟩ := Option.map_eq_some_iff.mp hstep
  obtain ⟨hchannel, hhistory, -⟩ := MessageTable.step_listed htable
  rw [hchanged, List.append_nil] at hhistory
  refine ⟨fun reference hreference => ?_, fun hsome => ?_, h.shows.step htable⟩
  · rw [Observed.current_of_history_eq hhistory]
    exact h.observes reference (hchannel ▸ hreference)
  · exact MessageTable.listeners_ne_nil_step (h.listens (hchannel ▸ hsome)) htable

/-- A conversation on the collection observes the new state. -/
theorem InTouch.observe (h : s.InTouch conversation)
    (hrunning : conversation.table.trapped = false) (reference : CollectionReference)
    (hne : reference ≠ collection "channels") (snap : QuerySnapshot) :
    (s.change reference snap).InTouch
      (OpenConversation.observe reference snap conversation) := by
  have hsnapshot := fun other => s.snapshot_change reference other snap
  unfold OpenConversation.observe
  split
  · rename_i hreference
    have hstep : conversation.step (.change snap) = some { conversation with
        table := { conversation.table with
          messages := conversation.table.messages.change snap } } := by
      simp only [OpenConversation.step, MessageTable.step, hrunning, MessageTable.perform]
      rfl
    obtain ⟨table, htable, heq⟩ := Option.map_eq_some_iff.mp hstep
    rw [hstep, Option.getD_some]
    refine ⟨fun other hother => ?_, h.listens, ?_⟩
    · obtain rfl := Option.some.inj (hreference.symm.trans hother)
      rw [hsnapshot, if_pos rfl]
      exact Observed.current_change _ snap
    · rw [← heq]
      exact h.shows.step htable
  · rename_i hother
    refine ⟨fun other hreference => ?_, h.listens, h.shows⟩
    have hdifferent : other ≠ reference := by
      rintro rfl
      exact hother hreference
    rw [hsnapshot, if_neg hdifferent]
    exact h.observes other hreference

structure Synced (ids : VendorIdentifiers DeviceID) (s : Messenger DeviceID Date) :
    Prop where
  traced : s.Traced ids
  inTouch : ∀ conversation ∈ s.conversations, s.InTouch conversation
  lists : s.ListsReceived

omit [DateFormatter Date] in
theorem synced_start [DateFormatter Date] :
    (start : Messenger DeviceID Date).Synced ids where
  traced := traced_start
  inTouch conversation hconversation := by cases hconversation
  lists device := Observed.keeps_start ..

theorem inTouch_change {arrived : Messenger DeviceID Date}
    (hrunning : ∀ conversation ∈ arrived.conversations, conversation.table.trapped = false)
    (h : ∀ conversation ∈ arrived.conversations, arrived.InTouch conversation)
    (reference : CollectionReference) (snap : QuerySnapshot) :
    ∀ conversation ∈ (arrived.change reference snap).conversations,
      (arrived.change reference snap).InTouch conversation := by
  intro conversation hconversation
  by_cases hchannels : reference = collection "channels"
  · have hbefore : conversation ∈ arrived.conversations := by
      simpa only [change, hchannels, ↓reduceIte] using hconversation
    refine (h conversation hbefore).congr ?_
    simp only [change, hchannels, ↓reduceIte]
  · have hafter : (arrived.change reference snap).conversations =
        arrived.conversations.map (OpenConversation.observe reference snap) := by
      simp only [change, hchannels, ↓reduceIte]
    rw [hafter] at hconversation
    obtain ⟨before, hbefore, rfl⟩ := List.mem_map.mp hconversation
    exact (h before hbefore).observe (hrunning before hbefore) reference hchannels snap

variable [DecidableEq DeviceID]

omit [DateFormatter Date] in
theorem ListsReceived.deliver (h : s.ListsReceived) {i : Nat}
    {request : Request DeviceID Date} {snap : QuerySnapshot}
    {channels : Observed (Request DeviceID Date) QuerySnapshot}
    (hdeliver : s.channels.deliver i = some (request, snap, channels)) :
    (runBlock { s with channels := channels } request (some snap) none).ListsReceived := by
  intro device
  cases request with
  | createMessage sent channel =>
      exact (h device).deliver_other hdeliver (by simp)
  | getAllChannels other =>
      simp only [runBlock, getAllChannelsBlock_snapshot]
      by_cases hdevice : device = other
      · subst hdevice
        simp only [Function.update_self]
        exact Observed.keeps_deliver hdeliver rfl
      · simp only [Function.update_of_ne hdevice]
        exact (h device).deliver_other hdeliver
          (by simpa using fun hsame => hdevice hsame.symm)

theorem Synced.step {e : MessengerEvent DeviceID} (h : s.Synced ids)
    (hstep : Messenger.step ids s e = some s') : s'.Synced ids := by
  have htraced := h.traced.step hstep
  have hkept : ∀ s'' : Messenger DeviceID Date, s''.messages = s.messages →
      ∀ other ∈ s.conversations, s''.InTouch other :=
    fun _ hmessages other hother => (h.inTouch other hother).congr hmessages
  cases e with
  | addAllChannels device =>
      obtain rfl := Option.some.inj hstep
      exact ⟨htraced, hkept _ rfl, fun other => (h.lists other).attach _⟩
  | createButton channelName random now =>
      obtain rfl := Option.some.inj hstep
      cases channelName <;> exact ⟨htraced, hkept _ rfl, h.lists⟩
  | didSelectRowAt device row =>
      obtain rfl := Option.some.inj hstep
      refine ⟨htraced, List.forall_mem_append.mpr ⟨hkept _ rfl,
        List.forall_mem_singleton.mpr ?_⟩, h.lists⟩
      refine inTouch_viewDidLoad _ device _ fun reference hreference => ?_
      rw [hreference]
      rfl
  | sendFakeMessage index available random now =>
      obtain ⟨before, after, hget, hsend, rfl⟩ := step_sendFakeMessage hstep
      have hafter := (hkept s rfl before (List.mem_of_getElem? hget)).step rfl hsend
      exact ⟨htraced, forall_mem_set (hkept _ rfl) (hafter.congr rfl),
        fun other => (h.lists other).attach _⟩
  | arrive index documentID isSegment =>
      obtain ⟨stored, snap, -, -, rfl⟩ := step_arrive hstep
      refine ⟨htraced, inTouch_change (fun other hother => ?_)
        (hkept (s.store index stored) rfl) _ snap, fun device => ?_⟩
      · exact (h.traced.attributed other hother).rowsMatch.running
      · have hlist : ((s.store index stored).change stored.write.collection snap).channelsList =
            s.channelsList := by
          unfold change
          split <;> rfl
        rw [hlist, channels_change]
        split
        · exact (h.lists device).change snap
        · exact h.lists device
  | deliver i =>
      obtain ⟨request, snap, channels, -, hdeliver, rfl⟩ := step_deliver hstep
      refine ⟨htraced, ?_, h.lists.deliver hdeliver⟩
      cases request with
      | createMessage sent channel => exact hkept _ rfl
      | getAllChannels device =>
          simp only [runBlock, getAllChannelsBlock_snapshot]
          exact hkept _ rfl
  | fail i err =>
      obtain ⟨-, -, rfl⟩ := step_fail hstep
      exact ⟨htraced, hkept _ rfl, h.lists⟩
  | conversation index e =>
      obtain ⟨before, after, hget, hconversation, rfl⟩ := step_conversation hstep
      have hafter := (hkept s rfl before (List.mem_of_getElem? hget)).step
        (by cases e <;> rfl) hconversation
      exact ⟨htraced, forall_mem_set (hkept _ rfl) (hafter.congr rfl), h.lists⟩

theorem synced_run {es : List (MessengerEvent DeviceID)}
    (hrun : run (Messenger.step ids) start es = some s) : s.Synced ids :=
  run_invariant (I := Synced ids) (fun _ _ _ hstep h => h.step hstep) hrun synced_start

/-! ## Agreement -/

omit [Instant Date] [Unicode] [DateFormatter Date] [DecidableEq DeviceID] in
/-- Every listener of every screen has received the current state of its collection. -/
structure Settled (s : Messenger DeviceID Date) : Prop where
  channels : s.channels.Settled
  messages : ∀ conversation ∈ s.conversations, conversation.table.messages.Settled

omit [Instant Date] [Unicode] [DateFormatter Date] [DecidableEq DeviceID] in
/-- The device has its list of channels open. -/
def ListsChannels (s : Messenger DeviceID Date) (device : DeviceID) : Prop :=
  ∃ l ∈ s.channels.listeners, l.key = .getAllChannels device

omit [DateFormatter Date] [DecidableEq DeviceID] [Unicode] in
/-- Every list on a screen is the one that the store determines, whatever the device, and
holds what was written. -/
structure Agreed (s : Messenger DeviceID Date) : Prop where
  channelsList : ∀ device, s.ListsChannels device →
    s.channelsList device = shownChannels s.channels.current
  channels : ((shownChannels s.channels.current : List (Channel Date)).map some).Perm
    ((s.storedIn (collection "channels")).map StoredDocument.channel)
  messagesList : ∀ conversation ∈ s.conversations, ∀ reference,
    getMessagesReference conversation.table.channel = some reference →
      conversation.table.messagesList = shownMessages (s.snapshot reference)
  messages : ∀ reference, reference ≠ collection "channels" →
    ((shownMessages (s.snapshot reference) : List (Message Date)).map some).Perm
      ((s.storedIn reference).map StoredDocument.message)

omit [DecidableEq DeviceID] in
theorem Synced.agreed (h : s.Synced ids) (hsettled : s.Settled) : s.Agreed where
  channelsList device hlists :=
    (h.lists device).settled (fun l hl _ => hsettled.channels l hl) hlists
  channels := by
    obtain ⟨channelsList, hblock, hperm⟩ := h.traced.recorded.readsBack.channels
    rw [getAllChannelsBlock_snapshot, Option.some.injEq] at hblock
    subst hblock
    exact hperm
  messagesList conversation hconversation reference hreference := by
    have hinTouch := h.inTouch conversation hconversation
    have hsome : (getMessagesReference conversation.table.channel).isSome := by
      rw [hreference]
      rfl
    obtain ⟨l, hl⟩ := List.exists_mem_of_ne_nil _ (hinTouch.listens hsome)
    have hshown := hinTouch.shows.settled
      (fun l hl _ => hsettled.messages conversation hconversation l hl) ⟨l, hl, trivial⟩
    rw [hshown, hinTouch.observes reference hreference]
  messages reference hne := by
    obtain ⟨messagesList, hblock, hperm⟩ := h.traced.recorded.readsBack.messages reference hne
    rw [getAllMessagesBlock_snapshot, Option.some.injEq] at hblock
    rw [shownMessages, listedMessages, map_snd_sortedWithSources, hblock]
    exact hperm

end Messenger

end

end Chatik
