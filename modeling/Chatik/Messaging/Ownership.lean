import Chatik.Messaging.StoredDocuments

/-!
# One's own messages

Whose message a row shows is decided by comparing two strings, one stored when the
message was sent and one read when the row is drawn.  A row is traced back to the
document behind it, and from there to the device that sent it.
-/

namespace Chatik

open Chatik.Library FirebaseService

section

variable {Date : Type} [Instant Date]

/-! ## The documents behind the rows -/

def listedMessages (snap : QuerySnapshot) :
    List (QueryDocumentSnapshot × Message Date) :=
  sortedWithSources (fun a b => decide (a.created > b.created)) messageOf snap.documents

/-- The state of the collection that the event brings. -/
def MessageTableEvent.changed : MessageTableEvent → List QuerySnapshot
  | .change snap => [snap]
  | _ => []

namespace MessageTable

/-- The documents of the snapshot that the list was last assigned from, in the order
of the list. -/
def listed (s : MessageTable Date) : List (QueryDocumentSnapshot × Message Date) :=
  ((s.assignments.getLast?.bind fun l => s.messages.history[l.next]?).map
    listedMessages).getD []

structure Listed (s : MessageTable Date) : Prop where
  list : s.messagesList = s.listed.map Prod.snd
  received : ∀ l ∈ s.assignments, l.next < s.messages.history.length

variable {s s' : MessageTable Date}

theorem mem_history_of_mem_listed {doc : QueryDocumentSnapshot} {message : Message Date}
    (h : (doc, message) ∈ s.listed) :
    (∃ snap ∈ s.messages.history, doc ∈ snap.documents) ∧
      messageOf doc = some message := by
  unfold listed at h
  cases hlast : s.assignments.getLast?.bind fun l => s.messages.history[l.next]? with
  | none => simp [hlast] at h
  | some snap =>
      rw [hlast, Option.map_some, Option.getD_some] at h
      obtain ⟨l, -, hsnap⟩ := Option.bind_eq_some_iff.mp hlast
      obtain ⟨hdoc, hmessage⟩ := mem_sortedWithSources.mp h
      exact ⟨⟨snap, List.mem_of_getElem? hsnap, hdoc⟩, hmessage⟩

/-- Further states of the collection leave the list to the snapshot it came from. -/
theorem Listed.congr (h : s.Listed) (hlist : s'.messagesList = s.messagesList)
    (hassignments : s'.assignments = s.assignments) {later : List QuerySnapshot}
    (hhistory : s'.messages.history = s.messages.history ++ later) : s'.Listed := by
  refine ⟨?_, fun l hl => ?_⟩
  · have hlisted : s'.listed = s.listed := by
      unfold listed
      rw [hassignments, hhistory]
      cases hlast : s.assignments.getLast? with
      | none => rfl
      | some l =>
          have hl := h.received l (List.mem_of_getLast? hlast)
          rw [Option.bind_some, Option.bind_some, List.getElem?_append_left hl]
    rw [hlist, hlisted, h.list]
  · rw [hassignments] at hl
    rw [hhistory, List.length_append]
    exact Nat.lt_add_right _ (h.received l hl)

theorem listed_viewDidLoad (channel : Option (Channel Date)) (snap : QuerySnapshot) :
    (viewDidLoad channel snap).Listed where
  list := by
    rw [viewDidLoad, ConversationViewController.viewDidLoad,
      ConversationViewController.messagesList_addAllMessages]
    rfl
  received l hl := by cases hl

variable [Unicode] [DateFormatter Date]

/-- What a step does to the list and to what stands behind it. -/
theorem step_listed {e : MessageTableEvent} (hstep : step s e = some s') :
    s'.channel = s.channel ∧ s'.messages.history = s.messages.history ++ e.changed ∧
      ((s'.messagesList = s.messagesList ∧ s'.assignments = s.assignments) ∨
        ∃ l snap, s.messages.history[l.next]? = some snap ∧
          s'.assignments = s.assignments ++ [l] ∧
          s'.messagesList = (listedMessages snap).map Prod.snd) := by
  have hperform := (step_eq_some hstep).2
  cases e with
  | sendFakeMessage =>
      obtain rfl := Option.some.inj hperform
      unfold sendFakeMessage ConversationViewController.addAllMessages
      split <;> exact ⟨rfl, (List.append_nil _).symm, Or.inl ⟨rfl, rfl⟩⟩
  | change snap =>
      obtain rfl := Option.some.inj hperform
      exact ⟨rfl, rfl, Or.inl ⟨rfl, rfl⟩⟩
  | deliver i =>
      obtain ⟨l, key, snap, messages, hl, -, hdeliver, rfl⟩ := perform_deliver hperform
      obtain ⟨m, hm, hsnap, -, hhistory, -⟩ := Observed.deliver_eq_some hdeliver
      obtain rfl : m = l := Option.some.inj (hm.symm.trans hl)
      simp only [runMessagesBlock, getAllMessagesBlock_snapshot]
      refine ⟨rfl, ?_, Or.inr ⟨m, snap, hsnap, rfl, (map_snd_sortedWithSources _ _ _).symm⟩⟩
      exact hhistory.trans (List.append_nil _).symm
  | fail i err =>
      obtain ⟨-, -, rfl⟩ := perform_fail hperform
      exact ⟨rfl, (List.append_nil _).symm, Or.inl ⟨rfl, rfl⟩⟩
  | numberOfRowsInSection =>
      obtain rfl := Option.some.inj hperform
      exact ⟨rfl, (List.append_nil _).symm, Or.inl ⟨rfl, rfl⟩⟩
  | cellForRowAt row identifierForVendor inMessage sendingMessage =>
      obtain ⟨-, rfl⟩ := perform_cellForRowAt hperform
      unfold cellForRowAt
      split <;> exact ⟨rfl, (List.append_nil _).symm, Or.inl ⟨rfl, rfl⟩⟩

theorem Listed.step {e : MessageTableEvent} (h : s.Listed) (hstep : step s e = some s') :
    s'.Listed := by
  obtain ⟨-, hhistory, ⟨hlist, hassignments⟩ | ⟨l, snap, hsnap, hassignments, hlist⟩⟩ :=
    step_listed hstep
  · exact h.congr hlist hassignments hhistory
  · obtain ⟨hnext, -⟩ := List.getElem?_eq_some_iff.mp hsnap
    have hreceived : ∀ m ∈ s'.assignments, m.next < s.messages.history.length := by
      rw [hassignments]
      exact List.forall_mem_append.mpr ⟨h.received, List.forall_mem_singleton.mpr hnext⟩
    refine ⟨?_, fun m hm => ?_⟩
    · rw [hlist, listed, hassignments, List.getLast?_concat, Option.bind_some, hhistory,
        List.getElem?_append_left hnext, hsnap]
      rfl
    · rw [hhistory, List.length_append]
      exact Nat.lt_add_right _ (hreceived m hm)

end MessageTable

end

/-! ## The identifiers -/

section

variable {DeviceID Date : Type} [Unicode]

/-- Two devices, at two moments, supply the same identifier: one device that has it at
both, or any two devices that have none. -/
theorem VendorIdentifiers.sameText_getDeviceUUID (ids : VendorIdentifiers DeviceID)
    (first second : DeviceID) (before now : Bool) :
    sameText (getDeviceUUID (ids.identifierForVendor first before))
        (getDeviceUUID (ids.identifierForVendor second now)) = true ↔
      (first = second ∧ before = true ∧ now = true) ∨ (before = false ∧ now = false) := by
  have hcomm : ∀ a b : String, sameText a b = sameText b a := by
    intro a b
    simp only [sameText, eq_comm]
  have hsame : sameText (ids.uuidString first) (ids.uuidString second) = true ↔
      first = second :=
    ⟨ids.distinct first second, fun h => by rw [h, sameText_refl]⟩
  cases before <;> cases now <;>
    simp [VendorIdentifiers.identifierForVendor, getDeviceUUID, ids.ne_empty, hsame,
      hcomm ""]

@[simp] theorem VendorIdentifiers.isSome_identifierForVendor
    (ids : VendorIdentifiers DeviceID) (device : DeviceID) (available : Bool) :
    (ids.identifierForVendor device available).isSome = available := by
  cases available <;> rfl

/-! ## The messages behind the rows -/

variable [Instant Date]

namespace Messenger

/-- The row shows the document that this message was stored in. -/
def RowOf (s : Messenger DeviceID Date) (conversation : OpenConversation DeviceID Date)
    (row : Nat) (sent : SentMessage DeviceID) : Prop :=
  ∃ stored ∈ s.stored, stored.origin = .sendFakeMessage sent ∧
    getMessagesReference conversation.table.channel = some stored.write.collection ∧
    (conversation.table.listed[row]?).map Prod.fst = some stored.document

variable [DateFormatter Date]

/-- What the conversation observes has been stored in its collection. -/
structure Attributed (s : Messenger DeviceID Date)
    (conversation : OpenConversation DeviceID Date) : Prop where
  rowsMatch : conversation.table.RowsMatch
  listed : conversation.table.Listed
  observed : ∀ snap ∈ conversation.table.messages.history, ∀ doc ∈ snap.documents,
    ∃ stored ∈ s.stored, stored.document = doc ∧
      getMessagesReference conversation.table.channel = some stored.write.collection

variable {ids : VendorIdentifiers DeviceID} {s s' : Messenger DeviceID Date}
  {conversation conversation' : OpenConversation DeviceID Date}

omit [Unicode] in
theorem Attributed.mono (h : s.Attributed conversation) (hstored : s.stored ⊆ s'.stored) :
    s'.Attributed conversation where
  rowsMatch := h.rowsMatch
  listed := h.listed
  observed snap hsnap doc hdoc := by
    obtain ⟨stored, hmem, hfacts⟩ := h.observed snap hsnap doc hdoc
    exact ⟨stored, hstored hmem, hfacts⟩

/-- A step of the table keeps the conversation attributed, if the state it brings
has been stored. -/
theorem Attributed.step (h : s.Attributed conversation) {e : MessageTableEvent}
    (hstep : conversation.step e = some conversation')
    (hchanged : ∀ snap ∈ e.changed, ∀ doc ∈ snap.documents,
      ∃ stored ∈ s.stored, stored.document = doc ∧
        getMessagesReference conversation.table.channel = some stored.write.collection) :
    s.Attributed conversation' := by
  obtain ⟨table, htable, rfl⟩ := Option.map_eq_some_iff.mp hstep
  obtain ⟨hchannel, hhistory, -⟩ := MessageTable.step_listed htable
  refine ⟨MessageTable.rowsMatch_step htable h.rowsMatch, h.listed.step htable,
    fun snap hsnap doc hdoc => ?_⟩
  simp only [hhistory, hchannel] at hsnap ⊢
  rcases List.mem_append.mp hsnap with hold | hnew
  · exact h.observed snap hold doc hdoc
  · exact hchanged snap hnew doc hdoc

theorem Recorded.attributed_viewDidLoad (h : s.Recorded ids) (device : DeviceID)
    (channel : Option (Channel Date)) {messages : QuerySnapshot}
    (hmessages : ∀ doc ∈ messages.documents, ∃ reference,
      getMessagesReference channel = some reference ∧
        doc ∈ (s.snapshot reference).documents) :
    s.Attributed ⟨device, MessageTable.viewDidLoad channel messages⟩ where
  rowsMatch := MessageTable.rowsMatch_viewDidLoad channel messages
  listed := MessageTable.listed_viewDidLoad channel messages
  observed snap hsnap doc hdoc := by
    have hopened : (MessageTable.viewDidLoad channel messages).channel = channel ∧
        (MessageTable.viewDidLoad channel messages).messages.history = [messages] := by
      unfold MessageTable.viewDidLoad ConversationViewController.viewDidLoad
        ConversationViewController.addAllMessages
      split <;> exact ⟨rfl, rfl⟩
    simp only [hopened, List.mem_singleton] at hsnap ⊢
    subst hsnap
    obtain ⟨reference, hreference, hmem⟩ := hmessages doc hdoc
    obtain ⟨stored, hstored, hdocument, hcollection⟩ := h.exists_stored hmem
    exact ⟨stored, hstored, hdocument, hcollection ▸ hreference⟩

structure Traced (ids : VendorIdentifiers DeviceID) (s : Messenger DeviceID Date) :
    Prop where
  recorded : s.Recorded ids
  attributed : ∀ conversation ∈ s.conversations, s.Attributed conversation

theorem traced_start : (start : Messenger DeviceID Date).Traced ids :=
  ⟨recorded_start, fun _ hconversation => by cases hconversation⟩

theorem attributed_didSelectRowAt (h : s.Traced ids) (device : DeviceID) (row : Nat) :
    ∀ conversation ∈ (s.didSelectRowAt device row).conversations,
      (s.didSelectRowAt device row).Attributed conversation := by
  refine List.forall_mem_append.mpr ⟨fun conversation hold => ?_,
    List.forall_mem_singleton.mpr ?_⟩
  · exact (h.attributed conversation hold).mono (List.Subset.refl _)
  · refine (h.recorded.attributed_viewDidLoad device _ fun doc hdoc => ?_).mono
      (List.Subset.refl _)
    cases hreference : getMessagesReference (safe (s.channelsList device) row) with
    | none =>
        simp only [hreference] at hdoc
        cases hdoc
    | some reference =>
        simp only [hreference] at hdoc
        exact ⟨reference, rfl, hdoc⟩

/-- The conversations on the collection observe its new state, the others nothing. -/
theorem attributed_change {arrived : Messenger DeviceID Date}
    {reference : CollectionReference} {snap : QuerySnapshot}
    (hrecorded : (arrived.change reference snap).Recorded ids)
    (h : ∀ conversation ∈ arrived.conversations, arrived.Attributed conversation) :
    ∀ conversation ∈ (arrived.change reference snap).conversations,
      (arrived.change reference snap).Attributed conversation := by
  have hmono : ∀ conversation ∈ arrived.conversations,
      (arrived.change reference snap).Attributed conversation := fun conversation hmem =>
    (h conversation hmem).mono (by rw [stored_change]; exact List.Subset.refl _)
  have hsnap : ∀ doc ∈ snap.documents, ∃ stored ∈ (arrived.change reference snap).stored,
      stored.document = doc ∧ stored.write.collection = reference := by
    intro doc hdoc
    refine hrecorded.exists_stored ?_
    rwa [snapshot_change, if_pos rfl]
  intro conversation hconversation
  by_cases hchannels : reference = collection "channels"
  · refine hmono conversation ?_
    simpa only [change, hchannels, ↓reduceIte] using hconversation
  · simp only [change, hchannels, ↓reduceIte, List.mem_map] at hconversation
    obtain ⟨before, hbefore, rfl⟩ := hconversation
    unfold OpenConversation.observe
    split
    · rename_i hreference
      cases hstep : before.step (.change snap) with
      | none => exact hmono before hbefore
      | some after =>
          refine (hmono before hbefore).step hstep fun state hstate doc hdoc => ?_
          obtain rfl := List.mem_singleton.mp hstate
          obtain ⟨stored, hstored, hdocument, hcollection⟩ := hsnap doc hdoc
          exact ⟨stored, hstored, hdocument, hcollection ▸ hreference⟩
    · exact hmono before hbefore

theorem Traced.step [DecidableEq DeviceID] (h : s.Traced ids) {e : MessengerEvent DeviceID}
    (hstep : Messenger.step ids s e = some s') : s'.Traced ids := by
  have hrecorded := h.recorded.step hstep
  refine ⟨hrecorded, ?_⟩
  have hsame : ∀ other ∈ s.conversations, ∀ s'' : Messenger DeviceID Date,
      s''.stored = s.stored → s''.Attributed other := fun other hother s'' hstored =>
    (h.attributed other hother).mono (by rw [hstored]; exact List.Subset.refl _)
  cases e with
  | addAllChannels device =>
      obtain rfl := Option.some.inj hstep
      exact fun other hother => hsame other hother _ rfl
  | createButton channelName random now =>
      obtain rfl := Option.some.inj hstep
      cases channelName <;> exact fun other hother => hsame other hother _ rfl
  | didSelectRowAt device row =>
      obtain rfl := Option.some.inj hstep
      exact attributed_didSelectRowAt h device row
  | sendFakeMessage index available random now =>
      obtain ⟨before, after, hget, hsend, rfl⟩ := step_sendFakeMessage hstep
      have hafter := (h.attributed before (List.mem_of_getElem? hget)).step hsend
        fun snap hsnap => by cases hsnap
      exact forall_mem_set (fun other hother => hsame other hother _ rfl)
        (hafter.mono (List.Subset.refl _))
  | arrive index documentID isSegment =>
      obtain ⟨stored, snap, -, -, rfl⟩ := step_arrive hstep
      refine attributed_change hrecorded fun other hother => ?_
      exact (h.attributed other hother).mono (List.subset_append_left _ _)
  | deliver i =>
      obtain ⟨request, snap, channels, -, -, rfl⟩ := step_deliver hstep
      cases request with
      | createMessage sent channel => exact fun other hother => hsame other hother _ rfl
      | getAllChannels device =>
          simp only [runBlock, getAllChannelsBlock_snapshot]
          exact fun other hother => hsame other hother _ rfl
  | fail i err =>
      obtain ⟨-, -, rfl⟩ := step_fail hstep
      exact fun other hother => hsame other hother _ rfl
  | conversation index e =>
      obtain ⟨before, after, hget, hconversation, rfl⟩ := step_conversation hstep
      have hafter := (h.attributed before (List.mem_of_getElem? hget)).step hconversation
        fun snap hsnap => by cases e <;> cases hsnap
      exact forall_mem_set (fun other hother => hsame other hother _ rfl)
        (hafter.mono (List.Subset.refl _))

/-- In every run the open conversations list what has been stored in their
collections. -/
theorem traced_run [DecidableEq DeviceID] {es : List (MessengerEvent DeviceID)}
    (hrun : run (Messenger.step ids) start es = some s) : s.Traced ids :=
  run_invariant (I := Traced ids) (fun _ _ _ hstep h => h.step hstep) hrun traced_start

/-! ## Whose message a drawn row shows -/

omit [DateFormatter Date] in
/-- A stored document that decodes to a message was sent, and carries what its sender's
device supplied. -/
theorem Recorded.senderId (h : s.Recorded ids) {stored : StoredDocument DeviceID}
    (hstored : stored ∈ s.stored) {message : Message Date}
    (hmessage : messageOf stored.document = some message) :
    ∃ sent, stored.origin = .sendFakeMessage sent ∧ sent.Identified ids ∧
      message.senderId = getDeviceUUID sent.identifierForVendor := by
  have hformed := h.stored stored hstored
  obtain ⟨⟨write, origin⟩, documentID, isSegment⟩ := stored
  cases origin with
  | channelButtonTapped channelName randomMessage now =>
      obtain rfl : write = _ := hformed
      obtain ⟨_, _, _, _, hname, -⟩ := messageOf_eq_some.mp hmessage
      cases hname
  | sendFakeMessage sent =>
      obtain ⟨hsent, doc, -, rfl⟩ := hformed
      obtain rfl := Option.some.inj (hmessage.symm.trans (messageOf_fakeMessage ..))
      exact ⟨sent, rfl, hsent, rfl⟩

/-- A row that the table has shows a message of the store. -/
theorem Traced.exists_rowOf (h : s.Traced ids) (hmem : conversation ∈ s.conversations)
    {row : Nat} {message : Message Date}
    (hmessage : conversation.table.messagesList[row]? = some message) :
    ∃ sent, s.RowOf conversation row sent := by
  have hattributed := h.attributed conversation hmem
  rw [hattributed.listed.list, List.getElem?_map, Option.map_eq_some_iff] at hmessage
  obtain ⟨⟨doc, message⟩, hlisted, rfl⟩ := hmessage
  obtain ⟨⟨snap, hsnap, hdoc⟩, hdecoded⟩ :=
    MessageTable.mem_history_of_mem_listed (List.mem_of_getElem? hlisted)
  obtain ⟨stored, hstored, rfl, hreference⟩ := hattributed.observed snap hsnap doc hdoc
  obtain ⟨sent, horigin, -, -⟩ := h.recorded.senderId hstored hdecoded
  exact ⟨sent, stored, hstored, horigin, hreference, by rw [hlisted]; rfl⟩

theorem Traced.senderId_row (h : s.Traced ids) (hmem : conversation ∈ s.conversations)
    {row : Nat} {sent : SentMessage DeviceID} (hrow : s.RowOf conversation row sent)
    {message : Message Date}
    (hmessage : conversation.table.messagesList[row]? = some message) :
    sent.Identified ids ∧ message.senderId = getDeviceUUID sent.identifierForVendor := by
  obtain ⟨stored, hstored, horigin, -, hfirst⟩ := hrow
  have hattributed := h.attributed conversation hmem
  rw [hattributed.listed.list, List.getElem?_map, Option.map_eq_some_iff] at hmessage
  obtain ⟨⟨doc, message⟩, hlisted, rfl⟩ := hmessage
  obtain rfl : doc = stored.document := by
    rw [hlisted] at hfirst
    exact Option.some.inj hfirst
  obtain ⟨-, hdecoded⟩ :=
    MessageTable.mem_history_of_mem_listed (List.mem_of_getElem? hlisted)
  obtain ⟨sent', horigin', hsent, hsender⟩ := h.recorded.senderId hstored hdecoded
  obtain rfl := Origin.sendFakeMessage.inj (horigin'.symm.trans horigin)
  exact ⟨hsent, hsender⟩

end Messenger

def OpenConversation.drawsSendingMessageCell (conversation : OpenConversation DeviceID Date)
    (row : Nat) : Bool :=
  match conversation.table.messageTableView.rows row with
  | some (_, .sendingMessage _) => true
  | _ => false

theorem OpenConversation.step_cellForRowAt [DateFormatter Date]
    {conversation conversation' : OpenConversation DeviceID Date} {row : Nat}
    {identifierForVendor : Option String} {inMessage : Option InMessageCell}
    {sendingMessage : Option SendingMessageCell}
    (hagrees : conversation.table.RowsMatch)
    (hstep : conversation.step
      (.cellForRowAt row identifierForVendor inMessage sendingMessage) =
        some conversation') :
    ∃ message, conversation.table.messagesList[row]? = some message ∧
      conversation'.drawsSendingMessageCell row =
        sameText message.senderId (getDeviceUUID identifierForVendor) := by
  obtain ⟨table, htable, rfl⟩ := Option.map_eq_some_iff.mp hstep
  obtain ⟨hrow, rfl⟩ :=
    MessageTable.perform_cellForRowAt (MessageTable.step_eq_some htable).2
  obtain ⟨message, hmessage⟩ := hagrees.agrees.exists_model hrow
  refine ⟨message, hmessage, ?_⟩
  simp only [drawsSendingMessageCell, MessageTable.cellForRowAt, hmessage,
    TableView.display, ↓reduceIte, MessageTable.messageCell]
  cases sameText message.senderId (getDeviceUUID identifierForVendor) <;> rfl

namespace Messenger

/-- A drawn row shows a stored message, with a `SendingMessageCell` exactly on the
device that sent it. -/
def OwnShown (s : Messenger DeviceID Date) (e : MessengerEvent DeviceID)
    (s' : Messenger DeviceID Date) : Prop :=
  match e with
  | .conversation index (.cellForRowAt row _ _ _) =>
      ∃ before after, s.conversations[index]? = some before ∧
        s'.conversations[index]? = some after ∧
        (∃ sent, s.RowOf before row sent) ∧
        ∀ sent, s.RowOf before row sent →
          (after.drawsSendingMessageCell row = true ↔ sent.device = before.device)
  | _ => True

/-- The device that sent the message has its identifier when it draws the row exactly
if it had it when it sent; of two different devices one has it. -/
def IdentifierKept (s : Messenger DeviceID Date) (e : MessengerEvent DeviceID)
    (_ : Messenger DeviceID Date) : Prop :=
  match e with
  | .conversation index (.cellForRowAt row available _ _) =>
      ∀ conversation, s.conversations[index]? = some conversation →
        ∀ sent, s.RowOf conversation row sent →
          (sent.device = conversation.device →
            sent.identifierForVendor.isSome = available) ∧
          (sent.device ≠ conversation.device →
            sent.identifierForVendor.isSome = true ∨ available = true)
  | _ => True

variable [DateFormatter Date] [DecidableEq DeviceID] {ids : VendorIdentifiers DeviceID}
  {s s' : Messenger DeviceID Date}

theorem Traced.ownShown_iff (h : s.Traced ids) {e : MessengerEvent DeviceID}
    (hstep : Messenger.step ids s e = some s') : s.OwnShown e s' ↔ s.IdentifierKept e s' := by
  match e with
  | .addAllChannels _ | .createButton _ _ _ | .didSelectRowAt _ _
  | .sendFakeMessage _ _ _ _ | .arrive _ _ _ | .deliver _ | .fail _ _
  | .conversation _ (.deliver _) | .conversation _ (.fail _ _)
  | .conversation _ .numberOfRowsInSection => exact Iff.rfl
  | .conversation index (.cellForRowAt row available inMessage sendingMessage) =>
      obtain ⟨before, after, hget, hconversation, rfl⟩ := step_conversation hstep
      have hmem := List.mem_of_getElem? hget
      obtain ⟨message, hmessage, hdraws⟩ := OpenConversation.step_cellForRowAt
        (h.attributed before hmem).rowsMatch hconversation
      have hafter : (s.conversations.set index after)[index]? = some after :=
        List.getElem?_set_self (List.getElem?_eq_some_iff.mp hget).1
      have hrows : ∀ sent, s.RowOf before row sent →
          ((after.drawsSendingMessageCell row = true ↔ sent.device = before.device) ↔
            (sent.device = before.device →
              sent.identifierForVendor.isSome = available) ∧
            (sent.device ≠ before.device →
              sent.identifierForVendor.isSome = true ∨ available = true)) := by
        intro sent hsent
        obtain ⟨⟨supplied, hsupplied⟩, hsender⟩ := h.senderId_row hmem hsent hmessage
        rw [hdraws, hsender, hsupplied, ids.sameText_getDeviceUUID,
          ids.isSome_identifierForVendor]
        by_cases hdevice : sent.device = before.device <;>
          cases supplied <;> cases available <;> simp [hdevice]
      constructor
      · rintro ⟨before', after', hget', hget'', -, hshown⟩ conversation hconversation sent
          hsent
        obtain rfl := Option.some.inj (hget.symm.trans hget')
        obtain rfl := Option.some.inj (hget.symm.trans hconversation)
        obtain rfl := Option.some.inj (hafter.symm.trans hget'')
        exact (hrows sent hsent).mp (hshown sent hsent)
      · intro hkept
        exact ⟨before, after, hget, hafter, h.exists_rowOf hmem hmessage,
          fun sent hsent => (hrows sent hsent).mpr (hkept before hget sent hsent)⟩

/-- In a run every row shows its message as one's own on the sender's device alone
exactly if, whenever a row is drawn, the identifiers stand as they stood at the send. -/
theorem everyStep_ownShown_iff (ids : VendorIdentifiers DeviceID)
    (es : List (MessengerEvent DeviceID)) :
    EveryStep (step ids) OwnShown (start : Messenger DeviceID Date) es ↔
      EveryStep (step ids) IdentifierKept (start : Messenger DeviceID Date) es :=
  everyStep_congr (I := Traced ids) (P := OwnShown) (Q := IdentifierKept)
    (fun _ _ _ h hstep => h.ownShown_iff hstep) (fun _ _ _ h hstep _ => h.step hstep)
    traced_start es

end Messenger

end

/-! ## Two devices without an identifier

One device sends while its identifier is nil, the other draws the message while its
own is nil.
-/

section

attribute [local instance] asciiText nanosecondDates universalClock

def sentWithoutIdentifier : List (MessengerEvent Bool) :=
  [.createButton (some "Lobby") 0 tenSeconds, .arrive 0 "lobby" segments_lobby,
    .addAllChannels false, .addAllChannels true, .deliver 0, .deliver 1,
    .didSelectRowAt false 0, .didSelectRowAt true 0,
    .sendFakeMessage 0 false 0 twentySeconds, .deliver 2, .arrive 0 "first" segments_first,
    .conversation 1 (.deliver 0), .conversation 1 (.deliver 0)]

def drawnWithoutIdentifier : MessengerEvent Bool :=
  .conversation 1 (.cellForRowAt 0 false none none)

theorem not_everyStep_ownShown :
    ¬ EveryStep (Messenger.step twoDevices) Messenger.OwnShown
        (Messenger.start : Messenger Bool Int)
        (sentWithoutIdentifier ++ [drawnWithoutIdentifier]) := by
  intro hevery
  have hsent : (run (Messenger.step twoDevices) (Messenger.start : Messenger Bool Int)
      sentWithoutIdentifier).map (fun s => (s.conversations[1]?.map OpenConversation.device,
        s.stored.all fun stored => match stored.origin with
          | .sendFakeMessage sent => !sent.device
          | .channelButtonTapped _ _ _ => true)) = some (some true, true) := by
    decide +kernel
  obtain ⟨s, hrun, hs⟩ := Option.map_eq_some_iff.mp hsent
  obtain ⟨hdevice, horigins⟩ := Prod.mk.inj hs
  have hdrawn : (run (Messenger.step twoDevices) (Messenger.start : Messenger Bool Int)
      (sentWithoutIdentifier ++ [drawnWithoutIdentifier])).map (fun s =>
        s.conversations[1]?.map (·.drawsSendingMessageCell 0)) = some (some true) := by
    decide +kernel
  obtain ⟨s', hdraw, hs'⟩ := Option.map_eq_some_iff.mp hdrawn
  rw [run_append, hrun, Option.bind_some, run_singleton] at hdraw
  obtain ⟨hshown, -⟩ := (everyStep_append hevery hrun).2 s' hdraw
  obtain ⟨before, after, hbefore, hafter, ⟨sent, hrow⟩, hown⟩ := hshown
  rw [hbefore, Option.map_some, Option.some.injEq] at hdevice
  rw [hafter, Option.map_some, Option.some.injEq] at hs'
  -- the row is drawn as the drawing device's own, yet the other one has sent it
  have hsame : sent.device = true := ((hown sent hrow).mp hs').trans hdevice
  obtain ⟨stored, hstored, horigin, -, -⟩ := hrow
  have hother := List.all_eq_true.mp horigins stored hstored
  rw [horigin] at hother
  simp [hsame] at hother

end

end Chatik
