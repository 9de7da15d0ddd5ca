import Chatik.Services.FirebaseService

/-!
# One snapshot

What the three blocks of the service do with one snapshot, as filters and maps
over its documents, and what that means for the place of a sent message and for
the completeness of the channel list.
-/

namespace Chatik

open Chatik.Library FirebaseService

section

variable {Date : Type} [Instant Date]

/-! ## The writes of `createMessage` -/

def messagesOf (doc : QueryDocumentSnapshot) : CollectionReference :=
  ((collection "channels").document doc.documentID).collection "messages"

theorem messagesOf_path (doc : QueryDocumentSnapshot) :
    (messagesOf doc).path = ["channels", doc.documentID, "messages"] := by
  have hchannels : segments "channels" = ["channels"] := by decide
  have hmessages : segments "messages" = ["messages"] := by decide
  simp [messagesOf, collection, CollectionReference.document,
    DocumentReference.collection, hchannels, hmessages, doc.isSegment]

theorem documentID_eq_of_messagesOf_eq {first second : QueryDocumentSnapshot}
    (h : messagesOf first = messagesOf second) :
    first.documentID = second.documentID := by
  have hpath := congrArg CollectionReference.path h
  simpa [messagesOf_path] using hpath

def isChannel [Unicode] (channel : Option (Channel Date))
    (doc : QueryDocumentSnapshot) : Bool :=
  sameOptional Channel.same (channelFromSnapshot doc) channel

theorem createMessageBlock_snapshot [Unicode] (message : Dictionary FieldValue)
    (channel : Option (Channel Date)) (snap : QuerySnapshot) :
    createMessageBlock message channel (some snap) none =
      (snap.documents.filter (isChannel channel)).map fun doc =>
        ⟨messagesOf doc, message⟩ :=
  forEach_append_if (isChannel channel)
    (fun doc => (⟨messagesOf doc, message⟩ : Write)) snap.documents []

@[simp] theorem isChannel_none [Unicode] (doc : QueryDocumentSnapshot) :
    isChannel (none : Option (Channel Date)) doc =
      (@channelFromSnapshot Date _ doc).isNone := by
  simp [isChannel]

theorem isChannel_some [Unicode] {channel : Channel Date}
    {doc : QueryDocumentSnapshot} :
    isChannel (some channel) doc = true ↔
      ∃ decoded, channelFromSnapshot doc = some decoded ∧
        decoded.same channel = true := by
  unfold isChannel
  cases @channelFromSnapshot Date _ doc <;> simp

theorem sameText_of_isChannel [Unicode] {channel : Channel Date}
    {doc : QueryDocumentSnapshot} (h : isChannel (some channel) doc = true) :
    sameText doc.documentID channel.identifier = true := by
  obtain ⟨decoded, hdecoded, hsame⟩ := isChannel_some.mp h
  rw [← identifier_of_channelFromSnapshot hdecoded]
  exact Channel.same_identifier hsame

omit [Instant Date] in
theorem getMessagesReference_some {channel : Channel Date}
    {doc : QueryDocumentSnapshot} (h : doc.documentID = channel.identifier) :
    getMessagesReference (some channel) = some (messagesOf doc) := by
  have hlength : 0 < channel.identifier.length := by
    rw [← h]
    exact Nat.pos_of_ne_zero
      (mt String.length_eq_zero_iff.mp doc.documentID_ne_empty)
  simp [getMessagesReference, messagesOf, hlength, h]

/-- Every write made for a snapshot goes to the collection that the reading
side uses, there is at most one, and none where the reading side has none. -/
def WritesWhereRead [Unicode] (message : Dictionary FieldValue)
    (channel : Option (Channel Date)) (snap : QuerySnapshot) : Prop :=
  (∀ write ∈ createMessageBlock message channel (some snap) none,
    getMessagesReference channel = some write.collection) ∧
  (createMessageBlock message channel (some snap) none).length ≤ 1 ∧
  (getMessagesReference channel = none →
    createMessageBlock message channel (some snap) none = [])

private theorem length_filter_le_one {α β : Type*} {f : α → β} {p : α → Bool}
    {b : β} {xs : List α} (hnodup : (xs.map f).Nodup)
    (hp : ∀ x ∈ xs, p x = true → f x = b) : (xs.filter p).length ≤ 1 := by
  rw [← List.countP_eq_length_filter]
  apply countP_le_one
  refine (List.pairwise_map.mp hnodup).imp_of_mem ?_
  intro x y hx hy hne hpx hpy
  exact hne ((hp x hx hpx).trans (hp y hy hpy).symm)

/-- Messages are written where they are read, unless a nil channel meets a
document that does not decode. -/
theorem writesWhereRead_iff [Unicode] (message : Dictionary FieldValue)
    (channel : Option (Channel Date)) (snap : QuerySnapshot)
    (hexact : ∀ doc ∈ snap.documents, ∀ c ∈ channel,
      sameText doc.documentID c.identifier = true →
        doc.documentID = c.identifier) :
    WritesWhereRead message channel snap ↔
      channel.isSome ∨
        ∀ doc ∈ snap.documents,
          (@channelFromSnapshot Date _ doc).isSome := by
  unfold WritesWhereRead
  rw [createMessageBlock_snapshot]
  cases channel with
  | none =>
      -- no reference: the property says that there is no write at all
      have href : getMessagesReference (none : Option (Channel Date)) = none := rfl
      simp only [href, List.map_eq_nil_iff, List.filter_eq_nil_iff, true_imp_iff,
        isChannel_none, Option.isSome_none, Bool.false_eq_true, false_or,
        Option.isNone_iff_eq_none, Option.isSome_iff_ne_none]
      constructor
      · rintro ⟨-, -, hnone⟩ doc hdoc
        exact hnone doc hdoc
      · intro hall
        have hempty : snap.documents.filter
            (isChannel (none : Option (Channel Date))) = [] := by
          refine List.filter_eq_nil_iff.mpr fun doc hdoc => ?_
          simpa using hall doc hdoc
        exact ⟨by simp [hempty], by simp [hempty], hall⟩
  | some c =>
      have hid : ∀ doc ∈ snap.documents, isChannel (some c) doc = true →
          doc.documentID = c.identifier := by
        intro doc hdoc hmatch
        exact hexact doc hdoc c rfl (sameText_of_isChannel hmatch)
      refine iff_of_true ⟨?_, ?_, ?_⟩ (Or.inl rfl)
      · intro write hwrite
        obtain ⟨doc, hdoc, rfl⟩ := List.mem_map.mp hwrite
        exact getMessagesReference_some
          (hid doc (List.mem_of_mem_filter hdoc) (List.of_mem_filter hdoc))
      · rw [List.length_map]
        exact length_filter_le_one snap.nodup hid
      · intro hnone
        rw [List.map_eq_nil_iff, List.filter_eq_nil_iff]
        intro doc hdoc hmatch
        rw [getMessagesReference_some (hid doc hdoc hmatch)] at hnone
        cases hnone

/-! ## The list that `getAllChannels` delivers -/

/-- The channel of a document with a name; what else the document lacks, the
channel lacks. -/
def listedChannel (doc : QueryDocumentSnapshot) : Option (Channel Date) :=
  (stringField doc.data "name").map fun name =>
    ⟨doc.documentID, name, stringField doc.data "lastMessage",
      (timestampField doc.data "lastActivity").map Instant.dateValue⟩

def activityOf (channel : Channel Date) : Date :=
  channel.lastActivity.getD Instant.epoch

theorem getAllChannelsBlock_snapshot (snap : QuerySnapshot) :
    @getAllChannelsBlock Date _ (some snap) none =
      some (sorted (fun a b => decide (activityOf a > activityOf b))
        (snap.documents.filterMap channelFromSnapshot)) := by
  simp only [getAllChannelsBlock]
  rw [forEach_collect (f := @channelFromSnapshot Date _)]
  · rfl
  · intro channelsList doc
    cases @channelFromSnapshot Date _ doc <;> simp

/-- The completion is called with one channel per document that has a name, in
the order of non-increasing activity. -/
def ListsEveryChannel (snap : QuerySnapshot) : Prop :=
  ∃ channelsList : List (Channel Date),
    getAllChannelsBlock (some snap) none = some channelsList ∧
    channelsList.Perm (snap.documents.filterMap listedChannel) ∧
    channelsList.Pairwise fun a b => activityOf b ≤ activityOf a

theorem listedChannel_of_channelFromSnapshot {doc : QueryDocumentSnapshot}
    {channel : Channel Date} (h : channelFromSnapshot doc = some channel) :
    listedChannel doc = some channel := by
  obtain ⟨name, lastMessage, lastActivity, hname, hmessage, hactivity, rfl⟩ :=
    channelFromSnapshot_eq_some.mp h
  simp [listedChannel, stringField, timestampField, hname, hmessage, hactivity,
    FieldValue.string?, FieldValue.timestamp?]

/-- The channel list is complete exactly when no document with a name lacks one
of the two fields that `Channel` declares optional. -/
theorem listsEveryChannel_iff (snap : QuerySnapshot) :
    @ListsEveryChannel Date _ snap ↔
      ∀ doc ∈ snap.documents, ∀ name, doc.data "name" = some (.string name) →
        (∃ lastMessage, doc.data "lastMessage" = some (.string lastMessage)) ∧
        ∃ lastActivity, doc.data "lastActivity" = some (.timestamp lastActivity) := by
  constructor
  · rintro ⟨channelsList, hblock, hperm, -⟩ doc hdoc name hname
    rw [getAllChannelsBlock_snapshot, Option.some.injEq] at hblock
    have hlisted : @listedChannel Date _ doc =
        some ⟨doc.documentID, name, stringField doc.data "lastMessage",
          (timestampField doc.data "lastActivity").map Instant.dateValue⟩ := by
      simp [listedChannel, stringField_eq_some.mpr hname]
    have hmem := hperm.mem_iff.mpr (List.mem_filterMap.mpr ⟨doc, hdoc, hlisted⟩)
    rw [← hblock, (sorted_perm _ _).mem_iff] at hmem
    -- a delivered channel was decoded, so its optional fields are present
    obtain ⟨source, -, hsource⟩ := List.mem_filterMap.mp hmem
    obtain ⟨_, lastMessage, lastActivity, -, -, -, heq⟩ :=
      channelFromSnapshot_eq_some.mp hsource
    simp only [Channel.mk.injEq, Option.map_eq_some_iff] at heq
    obtain ⟨-, -, hmessage, activity, hactivity, -⟩ := heq
    exact ⟨⟨lastMessage, stringField_eq_some.mp hmessage⟩,
      ⟨activity, timestampField_eq_some.mp hactivity⟩⟩
  · intro hcomplete
    refine ⟨_, getAllChannelsBlock_snapshot snap, ?_, sorted_pairwise_key _ _⟩
    have hsame : snap.documents.filterMap (@channelFromSnapshot Date _) =
        snap.documents.filterMap listedChannel := by
      apply List.filterMap_congr
      intro doc hdoc
      cases hname : stringField doc.data "name" with
      | none => simp [channelFromSnapshot, listedChannel, hname]
      | some name =>
          obtain ⟨⟨lastMessage, hmessage⟩, lastActivity, hactivity⟩ :=
            hcomplete doc hdoc name (stringField_eq_some.mp hname)
          have hdecoded := (@channelFromSnapshot_eq_some Date _ _ _).mpr
            ⟨name, lastMessage, lastActivity, stringField_eq_some.mp hname,
              hmessage, hactivity, rfl⟩
          rw [hdecoded, listedChannel_of_channelFromSnapshot hdecoded]
    exact (sorted_perm _ _).trans (hsame ▸ List.Perm.refl _)

/-! ## The list that `getAllMessages` delivers -/

/-- The message of a document that carries all four fields in their types. -/
def messageOf (doc : QueryDocumentSnapshot) : Option (Message Date) := do
  let senderName ← stringField doc.data "senderName"
  let senderId ← stringField doc.data "senderId"
  let content ← stringField doc.data "content"
  let created ← timestampField doc.data "created"
  some ⟨senderName, senderId, content, Instant.dateValue created⟩

theorem messageOf_eq_some {doc : QueryDocumentSnapshot} {message : Message Date} :
    messageOf doc = some message ↔
      ∃ senderName senderId content created,
        doc.data "senderName" = some (.string senderName) ∧
        doc.data "senderId" = some (.string senderId) ∧
        doc.data "content" = some (.string content) ∧
        doc.data "created" = some (.timestamp created) ∧
        message = ⟨senderName, senderId, content, Instant.dateValue created⟩ := by
  simp only [messageOf, Option.bind_eq_bind, Option.bind_eq_some_iff,
    stringField_eq_some, timestampField_eq_some, Option.some.injEq]
  constructor
  · rintro ⟨name, hname, sender, hsender, content, hcontent, created, hcreated, rfl⟩
    exact ⟨name, sender, content, created, hname, hsender, hcontent, hcreated, rfl⟩
  · rintro ⟨name, sender, content, created, hname, hsender, hcontent, hcreated, rfl⟩
    exact ⟨name, hname, sender, hsender, content, hcontent, created, hcreated, rfl⟩

/-- An early return in the loop's closure skips one document, not the rest. -/
theorem getAllMessagesBlock_snapshot (snap : QuerySnapshot) :
    @getAllMessagesBlock Date _ (some snap) none =
      some (sorted (fun a b => decide (a.created > b.created))
        (snap.documents.filterMap messageOf)) := by
  simp only [getAllMessagesBlock]
  rw [forEach_collect (f := @messageOf Date _)]
  · rfl
  · intro messagesList doc
    unfold messageOf
    cases stringField doc.data "content" <;>
      cases timestampField doc.data "created" <;>
      cases stringField doc.data "senderId" <;>
      cases stringField doc.data "senderName" <;> simp

end

/-! ## An unfinished channel

A channel made on another client carries a name and nothing else yet.
-/

section

attribute [local instance] asciiText nanosecondDates

def tenSeconds : Timestamp := { seconds := 10, nanoseconds := 0 }

def twentySeconds : Timestamp := { seconds := 20, nanoseconds := 0 }

theorem segments_lobby : segments "lobby" = ["lobby"] := by decide

def unfinishedChannel : QueryDocumentSnapshot where
  documentID := "lobby"
  data := fun key => if key = "name" then some (.string "Lobby") else none
  isSegment := segments_lobby

def unfinishedSnapshot : QuerySnapshot where
  documents := [unfinishedChannel]

def greeting : Dictionary FieldValue := fun key =>
  if key = "content" then some (.string "Hi") else none

theorem not_writesWhereRead_nil :
    ¬ WritesWhereRead greeting (none : Option (Channel Int)) unfinishedSnapshot := by
  rintro ⟨-, -, hnone⟩
  have hwrites := congrArg List.length (hnone rfl)
  exact absurd hwrites (by decide)

theorem writesWhereRead_unfinished :
    WritesWhereRead greeting (some (⟨"lobby", "Lobby", none, none⟩ : Channel Int))
      unfinishedSnapshot := by
  refine (writesWhereRead_iff _ _ _ fun doc _ c _ hsame => ?_).mpr (Or.inl rfl)
  exact of_decide_eq_true hsame

theorem not_listsEveryChannel_unfinished :
    ¬ @ListsEveryChannel Int _ unfinishedSnapshot := by
  rintro ⟨channelsList, hblock, hperm, -⟩
  rw [getAllChannelsBlock_snapshot, Option.some.injEq] at hblock
  have hlength := hperm.length_eq
  rw [← hblock, length_sorted] at hlength
  exact absurd hlength (by decide)

end

end Chatik
