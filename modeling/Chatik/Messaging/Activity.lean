import Chatik.Messaging.StoredDocuments

/-!
# The activity of the channels

`lastActivity` stands in the document of a channel, the messages in a collection
below it.  The list of channels is sorted by the one and meant to follow the other;
the two are compared here after every step of every run.
-/

namespace Chatik

open Chatik.Library FirebaseService

section

variable {DeviceID Date : Type} [Instant Date]

/-- When the channel was created or the message was sent. -/
def StoredDocument.created (stored : StoredDocument DeviceID) : Date :=
  match stored.origin with
  | .channelButtonTapped _ _ now => Instant.dateValue now
  | .sendFakeMessage sent => Instant.dateValue sent.now

namespace Messenger

/-- The creation of the channel or its newest message, whichever is later. -/
def realActivity (s : Messenger DeviceID Date) (channel : StoredDocument DeviceID) : Date :=
  ((s.storedIn (messagesOf channel.document)).map StoredDocument.created).foldr max
    channel.created

/-- The list of channels, each with the stored document it was decoded from. -/
def listedChannels (s : Messenger DeviceID Date) :
    List (StoredDocument DeviceID × Channel Date) :=
  sortedWithSources (fun a b => decide (activityOf a > activityOf b))
    (fun stored => channelFromSnapshot stored.document)
    (s.storedIn (collection "channels"))

/-- No channel has a message that is newer than its `lastActivity`. -/
def NotOlder (s : Messenger DeviceID Date) : Prop :=
  ∀ doc ∈ s.channels.current.documents, ∀ channel : Channel Date,
    channelFromSnapshot doc = some channel →
      ∀ message ∈ s.storedIn (messagesOf doc), message.created ≤ activityOf channel

/-- The list that `getAllChannels` makes of the collection follows the real activity
of the channels, and their `lastActivity` is not older than any message. -/
structure OrderedByActivity (s : Messenger DeviceID Date) : Prop where
  delivered : getAllChannelsBlock (some s.channels.current) none =
    some (s.listedChannels.map Prod.snd)
  complete : (s.listedChannels.map Prod.fst).Perm (s.storedIn (collection "channels"))
  ordered : s.listedChannels.Pairwise fun a b => s.realActivity b.1 ≤ s.realActivity a.1
  notOlder : s.NotOlder

variable [Unicode] {ids : VendorIdentifiers DeviceID} {s s' : Messenger DeviceID Date}

omit [Instant Date] in
theorem Recorded.documents_channels (h : s.Recorded ids) :
    s.channels.current.documents =
      (s.storedIn (collection "channels")).map StoredDocument.document :=
  h.documents (collection "channels")

/-- `lastActivity` is the time at which the channel was created. -/
theorem Recorded.activityOf_channel (h : s.Recorded ids) {stored : StoredDocument DeviceID}
    (hstored : stored ∈ s.storedIn (collection "channels")) {channel : Channel Date}
    (hchannel : channelFromSnapshot stored.document = some channel) :
    activityOf channel = stored.created := by
  obtain ⟨hmem, hreference⟩ := mem_storedIn.mp hstored
  have hformed := h.stored stored hmem
  obtain ⟨⟨write, origin⟩, documentID, isSegment⟩ := stored
  cases origin with
  | channelButtonTapped channelName randomMessage now =>
      obtain rfl : write = _ := hformed
      have hnew := @channelFromSnapshot_newChannel Date _ documentID isSegment channelName
        randomMessage now
      obtain rfl := Option.some.inj (hchannel.symm.trans hnew)
      rfl
  | sendFakeMessage sent =>
      obtain ⟨-, doc, -, rfl⟩ := hformed
      exact absurd hreference (messagesOf_ne_channels doc)

theorem Recorded.mem_listedChannels (h : s.Recorded ids)
    {entry : StoredDocument DeviceID × Channel Date} (hentry : entry ∈ s.listedChannels) :
    entry.1 ∈ s.storedIn (collection "channels") ∧
      channelFromSnapshot entry.1.document = some entry.2 ∧
      activityOf entry.2 = entry.1.created := by
  obtain ⟨hstored, hdecoded⟩ := mem_sortedWithSources.mp hentry
  exact ⟨hstored, hdecoded, h.activityOf_channel hstored hdecoded⟩

theorem Recorded.complete_listedChannels (h : s.Recorded ids) :
    (s.listedChannels.map Prod.fst).Perm (s.storedIn (collection "channels")) := by
  refine map_fst_sortedWithSources_perm _ fun stored hstored => ?_
  obtain ⟨channel, -, hchannel⟩ := h.readsBack.decoded stored hstored
  exact ⟨channel, hchannel⟩

/-- The channels are listed in the order of their creation, the last one first. -/
theorem Recorded.created_listedChannels (h : s.Recorded ids) :
    s.listedChannels.Pairwise fun a b => (b.1.created : Date) ≤ a.1.created := by
  have hsorted : s.listedChannels.Pairwise fun a b => activityOf b.2 ≤ activityOf a.2 :=
    sorted_pairwise_key _ _
  refine hsorted.imp_of_mem fun {a b} ha hb hab => ?_
  obtain ⟨-, -, hcreatedA⟩ := h.mem_listedChannels ha
  obtain ⟨-, -, hcreatedB⟩ := h.mem_listedChannels hb
  rwa [hcreatedA, hcreatedB] at hab

omit [Unicode] in
theorem created_le_realActivity (s : Messenger DeviceID Date)
    (channel : StoredDocument DeviceID) : channel.created ≤ s.realActivity channel :=
  (foldr_max_le_iff.mp le_rfl).1

/-- Where no message is newer than its channel, the sorted list follows the real
activity. -/
theorem Recorded.orderedByActivity_iff (h : s.Recorded ids) :
    s.OrderedByActivity ↔ s.NotOlder := by
  refine ⟨OrderedByActivity.notOlder, fun hnotOlder =>
    ⟨?_, h.complete_listedChannels, ?_, hnotOlder⟩⟩
  · rw [getAllChannelsBlock_snapshot, listedChannels, map_snd_sortedWithSources,
      h.documents_channels, List.filterMap_map]
    rfl
  · refine h.created_listedChannels.imp_of_mem fun {a b} ha hb hab => ?_
    obtain ⟨hstored, hdecoded, hcreated⟩ := h.mem_listedChannels hb
    have hdoc : b.1.document ∈ s.channels.current.documents := by
      rw [h.documents_channels]
      exact List.mem_map_of_mem hstored
    have hlater : s.realActivity b.1 ≤ b.1.created := by
      refine foldr_max_le_iff.mpr ⟨le_rfl, fun time htime => ?_⟩
      obtain ⟨message, hmessage, rfl⟩ := List.mem_map.mp htime
      exact (hnotOlder _ hdoc b.2 hdecoded message hmessage).trans hcreated.le
    exact hlater.trans (hab.trans (s.created_le_realActivity a.1))

/-- Of channels created at different times, each has to be at least as active as those
created before it. -/
theorem Recorded.ordered_iff (h : s.Recorded ids)
    (hdistinct : (s.storedIn (collection "channels")).Pairwise fun a b =>
      (a.created : Date) ≠ b.created) :
    (s.listedChannels.Pairwise fun a b => s.realActivity b.1 ≤ s.realActivity a.1) ↔
      ∀ older ∈ s.storedIn (collection "channels"),
        ∀ newer ∈ s.storedIn (collection "channels"),
          (older.created : Date) < newer.created →
            s.realActivity older ≤ s.realActivity newer := by
  have hperm := h.complete_listedChannels
  have hactivities : s.listedChannels.Pairwise fun a b =>
      (a.1.created : Date) ≠ b.1.created :=
    (List.pairwise_map (f := Prod.fst)).mp
      ((hperm.pairwise_iff fun hne => Ne.symm hne).mpr hdistinct)
  rw [pairwise_iff_of_sorted h.created_listedChannels hactivities]
  constructor
  · intro hall older holder newer hnewer hlt
    obtain ⟨first, hfirst, rfl⟩ := List.mem_map.mp (hperm.mem_iff.mpr hnewer)
    obtain ⟨second, hsecond, rfl⟩ := List.mem_map.mp (hperm.mem_iff.mpr holder)
    exact hall first hfirst second hsecond hlt
  · intro hall first hfirst second hsecond hlt
    exact hall second.1 (h.mem_listedChannels hsecond).1 first.1
      (h.mem_listedChannels hfirst).1 hlt

/-! ## What a step does to the activity -/

/-- A message that reaches its channel is not newer than the channel's `lastActivity`. -/
def InTime (s : Messenger DeviceID Date) (e : MessengerEvent DeviceID)
    (_ : Messenger DeviceID Date) : Prop :=
  match e with
  | .arrive index _ _ => ∀ addition sent, s.underWay[index]? = some addition →
      addition.origin = .sendFakeMessage sent →
        ∀ doc ∈ s.channels.current.documents, messagesOf doc = addition.write.collection →
          ∀ channel : Channel Date, channelFromSnapshot doc = some channel →
            Instant.dateValue sent.now ≤ activityOf channel
  | _ => True

omit [Unicode] in
theorem notOlder_congr (hcurrent : s'.channels.current = s.channels.current)
    (hstored : s'.stored = s.stored) : s'.NotOlder ↔ s.NotOlder := by
  simp only [NotOlder, storedIn, hcurrent, hstored]

omit [Instant Date] [Unicode] in
theorem storedIn_append (stored : StoredDocument DeviceID) (reference : CollectionReference)
    (hstored : s'.stored = s.stored ++ [stored]) :
    s'.storedIn reference = s.storedIn reference ++
      if stored.write.collection = reference then [stored] else [] := by
  rw [storedIn, storedIn, hstored, List.filter_append]
  congr 1
  split <;> simp_all

omit [Instant Date] in
/-- A document that `channels` does not hold yet has no messages. -/
theorem Recorded.storedIn_of_fresh (h : s.Recorded ids) {doc : QueryDocumentSnapshot}
    (hfresh : ∀ other ∈ s.channels.current.documents, other.documentID ≠ doc.documentID) :
    s.storedIn (messagesOf doc) = [] := by
  rw [List.eq_nil_iff_forall_not_mem]
  intro stored hstored
  obtain ⟨hmem, hreference⟩ := mem_storedIn.mp hstored
  have hformed := h.stored stored hmem
  unfold Addition.Formed at hformed
  split at hformed
  · rw [hformed] at hreference
    exact messagesOf_ne_channels doc hreference.symm
  · obtain ⟨-, other, hother, hwrite⟩ := hformed
    rw [hwrite] at hreference
    exact hfresh other hother (documentID_eq_of_messagesOf_eq hreference)

omit [Unicode] in
theorem ne_documentID_of_append {snap : QuerySnapshot} {docs : List QueryDocumentSnapshot}
    {doc : QueryDocumentSnapshot} (h : snap.documents = docs ++ [doc]) :
    ∀ other ∈ docs, other.documentID ≠ doc.documentID := by
  intro other hother hsame
  have hnodup := snap.nodup
  rw [h, List.map_append, List.nodup_append] at hnodup
  exact hnodup.2.2 _ (List.mem_map_of_mem hother) _ (List.mem_singleton_self _) hsame

/-- There is no message yet that a new channel could be older than. -/
theorem Recorded.notOlder_newChannel (h : s.Recorded ids) (hs : s.NotOlder)
    {stored : StoredDocument DeviceID} (hstored : s'.stored = s.stored ++ [stored])
    (hchannels : stored.write.collection = collection "channels")
    (hdocuments : s'.channels.current.documents =
      s.channels.current.documents ++ [stored.document]) : s'.NotOlder := by
  intro doc hdoc channel hchannel message hmessage
  rw [storedIn_append _ _ hstored, hchannels,
    if_neg (Ne.symm (messagesOf_ne_channels doc)), List.append_nil] at hmessage
  rw [hdocuments] at hdoc
  rcases List.mem_append.mp hdoc with hold | hnew
  · exact hs doc hold channel hchannel message hmessage
  · obtain rfl := List.mem_singleton.mp hnew
    rw [h.storedIn_of_fresh (ne_documentID_of_append hdocuments)] at hmessage
    cases hmessage

omit [Unicode] in
theorem notOlder_newMessage_iff (hs : s.NotOlder) {stored : StoredDocument DeviceID}
    (hstored : s'.stored = s.stored ++ [stored])
    (hcurrent : s'.channels.current = s.channels.current) :
    s'.NotOlder ↔ ∀ doc ∈ s.channels.current.documents,
      messagesOf doc = stored.write.collection → ∀ channel : Channel Date,
        channelFromSnapshot doc = some channel → stored.created ≤ activityOf channel := by
  simp only [NotOlder, hcurrent]
  constructor
  · intro hnotOlder doc hdoc hreference channel hchannel
    refine hnotOlder doc hdoc channel hchannel stored ?_
    rw [storedIn_append _ _ hstored, if_pos hreference.symm]
    exact List.mem_append_right _ (List.mem_singleton_self _)
  · intro hnew doc hdoc channel hchannel message hmessage
    rw [storedIn_append _ _ hstored] at hmessage
    rcases List.mem_append.mp hmessage with hmessage | hmessage
    · exact hs doc hdoc channel hchannel message hmessage
    · split at hmessage
      · rename_i hreference
        obtain rfl := List.mem_singleton.mp hmessage
        exact hnew doc hdoc hreference.symm channel hchannel
      · cases hmessage

variable [DateFormatter Date] [DecidableEq DeviceID]

theorem Recorded.notOlder_arrive (h : s.Recorded ids) (hs : s.NotOlder) {index : Nat}
    {documentID : String} {isSegment : segments documentID = [documentID]}
    (hstep : Messenger.step ids s (.arrive index documentID isSegment) = some s') :
    s'.NotOlder ↔ s.InTime (.arrive index documentID isSegment) s' := by
  obtain ⟨stored, snap, hget, hsnap, hs'⟩ := step_arrive hstep
  have hformed := h.underWay _ (List.mem_of_getElem? hget)
  have hstored : s'.stored = s.stored ++ [stored] := by
    rw [hs', stored_change]
    rfl
  cases horigin : stored.origin with
  | channelButtonTapped channelName randomMessage now =>
      simp only [Addition.Formed, horigin] at hformed
      have hchannels : stored.write.collection = collection "channels" := by
        rw [hformed]
        rfl
      have hdocuments : s'.channels.current.documents =
          s.channels.current.documents ++ [stored.document] := by
        rw [hs', channels_change, if_pos hchannels, Observed.current_change, hsnap, hchannels]
        rfl
      refine iff_of_true (h.notOlder_newChannel hs hstored hchannels hdocuments) ?_
      intro other sent hother hsent
      obtain rfl := Option.some.inj (hget.symm.trans hother)
      rw [horigin] at hsent
      cases hsent
  | sendFakeMessage sent =>
      simp only [Addition.Formed, horigin] at hformed
      obtain ⟨-, below, -, hwrite⟩ := hformed
      have hreference : stored.write.collection ≠ collection "channels" := by
        rw [hwrite]
        exact messagesOf_ne_channels below
      have hcurrent : s'.channels.current = s.channels.current := by
        rw [hs', channels_change, if_neg hreference]
        rfl
      rw [notOlder_newMessage_iff hs hstored hcurrent]
      simp only [InTime, StoredDocument.created, horigin]
      constructor
      · intro hnew other sent' hother hsent
        obtain rfl := Option.some.inj (hget.symm.trans hother)
        obtain rfl := Origin.sendFakeMessage.inj (horigin.symm.trans hsent)
        exact hnew
      · intro hinTime
        exact hinTime _ sent hget horigin

theorem Recorded.notOlder_step_iff (h : s.Recorded ids) (hs : s.NotOlder)
    {e : MessengerEvent DeviceID} (hstep : Messenger.step ids s e = some s') :
    s'.NotOlder ↔ s.InTime e s' := by
  match e, hstep with
  | .arrive _ _ _, hstep => exact h.notOlder_arrive hs hstep
  | .addAllChannels _, hstep | .createButton _ _ _, hstep | .didSelectRowAt _ _, hstep
  | .sendFakeMessage _ _ _ _, hstep | .deliver _, hstep | .fail _ _, hstep
  | .conversation _ _, hstep =>
      obtain ⟨hcurrent, hstored⟩ := step_store hstep fun _ _ _ he => by cases he
      exact iff_of_true ((notOlder_congr hcurrent hstored).mpr hs) trivial

/-- In a run the list of channels follows their real activity in every state exactly
if every message that reaches its channel finds a `lastActivity` not older than
itself. -/
theorem everyStep_orderedByActivity_iff (ids : VendorIdentifiers DeviceID)
    (es : List (MessengerEvent DeviceID)) :
    EveryStep (step ids) (fun _ _ s' => s'.OrderedByActivity)
        (start : Messenger DeviceID Date) es ↔
      EveryStep (step ids) InTime (start : Messenger DeviceID Date) es := by
  refine everyStep_congr (I := fun s => s.Recorded ids ∧ s.NotOlder)
    (Q := InTime) (fun s e s' h hstep => ?_) (fun s e s' h hstep hs' => ?_)
    ⟨recorded_start, fun doc hdoc => by cases hdoc⟩ es
  · rw [(h.1.step hstep).orderedByActivity_iff, h.1.notOlder_step_iff h.2 hstep]
  · exact ⟨h.1.step hstep, hs'.notOlder⟩

end Messenger

end

/-! ## An older channel receives a message -/

section

attribute [local instance] asciiText nanosecondDates universalClock

def fifteenSeconds : Timestamp :=
  { tenSeconds with seconds := 15, earliest := by decide, latest := by decide }

theorem segments_garden : segments "garden" = ["garden"] := by decide

/-- The lobby is opened, the garden is created, and a message is sent to the lobby. -/
def messageToLobby : List (MessengerEvent Bool) :=
  [.createButton (some "Lobby") 0 tenSeconds, .arrive 0 "lobby" segments_lobby,
    .addAllChannels false, .deliver 0, .didSelectRowAt false 0,
    .createButton (some "Garden") 0 fifteenSeconds, .arrive 0 "garden" segments_garden,
    .sendFakeMessage 0 true 0 twentySeconds, .deliver 1]

def messageArrives : MessengerEvent Bool := .arrive 0 "first" segments_first

theorem not_orderedByActivity_messageToLobby :
    ¬ EveryStep (Messenger.step twoDevices) (fun _ _ s' => s'.OrderedByActivity)
        (Messenger.start : Messenger Bool Int) (messageToLobby ++ [messageArrives]) := by
  intro hevery
  have hactivities : (run (Messenger.step twoDevices) (Messenger.start : Messenger Bool Int)
      (messageToLobby ++ [messageArrives])).map (fun s =>
        (s.storedIn (collection "channels")).map fun channel =>
          ((channel.created : Int), s.realActivity channel)) =
      some [(10000000000, 20000000000), (15000000000, 15000000000)] := by
    decide +kernel
  obtain ⟨s, hrun, hstored⟩ := Option.map_eq_some_iff.mp hactivities
  obtain ⟨before, hbefore, harrive⟩ := run_append_eq_some.mp hrun
  obtain ⟨hs, -⟩ := (everyStep_append hevery hbefore).2 s (run_singleton.mp harrive)
  obtain ⟨lobby, _, hchannels, hlobby, hrest⟩ := List.map_eq_cons_iff.mp hstored
  obtain ⟨garden, _, rfl, hgarden, hnil⟩ := List.map_eq_cons_iff.mp hrest
  obtain rfl := List.map_eq_nil_iff.mp hnil
  simp only [Prod.mk.injEq] at hlobby hgarden
  have hdistinct : (s.storedIn (collection "channels")).Pairwise fun a b =>
      (a.created : Int) ≠ b.created := by
    simp [hchannels, hlobby.1, hgarden.1]
  -- the garden is listed first, though the lobby is the more active one
  have hle := ((Messenger.recorded_run hrun).ordered_iff hdistinct).mp hs.ordered lobby
    (by simp [hchannels]) garden (by simp [hchannels]) (by omega)
  omega

end

end Chatik
