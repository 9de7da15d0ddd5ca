import Chatik.Firestore.Documents
import Chatik.Library.Sequences
import Chatik.Model.ChatikAppModel

/-!
# The Firebase service

`FirebaseServiceImp`.  Its three reading functions register a block on a
collection; the blocks are modelled as functions of the snapshot and the error
that they are called with.  The block of `createMessage` returns the writes it
makes; the blocks of `getAllMessages` and `getAllChannels` return the list that
they pass to `completion`, or `none` where they return before.  The service
itself is held by the static dependency container, so `self` is never nil.
-/

namespace Chatik

open Chatik.Library

variable {Date : Type} [Instant Date]

namespace FirebaseService

def getMessagesReference (channel : Option (Channel Date)) :
    Option CollectionReference :=
  match channel with
  | none => none
  | some channel =>
      if channel.identifier.length > 0 then
        some (((collection "channels").document channel.identifier).collection
          "messages")
      else none

def channelFromSnapshot (snap : QueryDocumentSnapshot) :
    Option (Channel Date) := do
  let dataBase := snap.data
  let name ← stringField dataBase "name"
  let lastMessage ← stringField dataBase "lastMessage"
  let lastActivityBuffer ← timestampField dataBase "lastActivity"
  let identifier := snap.documentID
  let lastActivity := Instant.dateValue lastActivityBuffer
  some ⟨identifier, name, some lastMessage, some lastActivity⟩

def createMessageBlock [Unicode] (message : Dictionary FieldValue)
    (channel : Option (Channel Date)) (snap : Option QuerySnapshot)
    (err : Option FirestoreError) : List Write :=
  match err, snap with
  | some _, _ => []
  | none, none => []
  | none, some snap =>
      forEach snap.documents [] fun writes doc =>
        -- optionals are compared, so a rejected document equals a nil channel
        if sameOptional Channel.same (channelFromSnapshot doc) channel then
          writes ++ [(((collection "channels").document doc.documentID).collection
            "messages").addDocument message]
        else writes

def getAllMessagesBlock (snap : Option QuerySnapshot)
    (err : Option FirestoreError) : Option (List (Message Date)) :=
  match err, snap with
  | some _, _ => none
  | none, none => none
  | none, some snap =>
      let messagesList := forEach snap.documents [] fun messagesList doc =>
        let dataBase := doc.data
        match stringField dataBase "content", timestampField dataBase "created",
          stringField dataBase "senderId", stringField dataBase "senderName" with
        | some content, some created, some senderId, some senderName =>
            messagesList ++
              [⟨senderName, senderId, content, Instant.dateValue created⟩]
        -- the `return` of the closure, which goes on to the next document
        | _, _, _, _ => messagesList
      some (sorted (fun a b => decide (a.created > b.created)) messagesList)

def getAllChannelsBlock (snap : Option QuerySnapshot)
    (err : Option FirestoreError) : Option (List (Channel Date)) :=
  match err, snap with
  | some _, _ => none
  | none, none => none
  | none, some snap =>
      let channelsList := forEach snap.documents [] fun channelsList doc =>
        match channelFromSnapshot doc with
        | none => channelsList
        | some channel => channelsList ++ [channel]
      let baseDate : Date := Instant.epoch
      some (sorted (fun a b => decide
        (a.lastActivity.getD baseDate > b.lastActivity.getD baseDate))
        channelsList)

-- the assertion on the failing path stops debug builds only
def getDeviceUUID (identifierForVendor : Option String) : String :=
  match identifierForVendor with
  | none => ""
  | some uuid => uuid

/-! ## What decoding reads -/

theorem channelFromSnapshot_eq_some {snap : QueryDocumentSnapshot}
    {channel : Channel Date} :
    channelFromSnapshot snap = some channel ↔
      ∃ name lastMessage lastActivity,
        snap.data "name" = some (.string name) ∧
        snap.data "lastMessage" = some (.string lastMessage) ∧
        snap.data "lastActivity" = some (.timestamp lastActivity) ∧
        channel = ⟨snap.documentID, name, some lastMessage,
          some (Instant.dateValue lastActivity)⟩ := by
  simp only [channelFromSnapshot, Option.bind_eq_bind, Option.bind_eq_some_iff,
    stringField_eq_some, timestampField_eq_some, Option.some.injEq]
  constructor
  · rintro ⟨name, hname, lastMessage, hmessage, lastActivity, hactivity, rfl⟩
    exact ⟨name, lastMessage, lastActivity, hname, hmessage, hactivity, rfl⟩
  · rintro ⟨name, lastMessage, lastActivity, hname, hmessage, hactivity, rfl⟩
    exact ⟨name, hname, lastMessage, hmessage, lastActivity, hactivity, rfl⟩

theorem identifier_of_channelFromSnapshot {snap : QueryDocumentSnapshot}
    {channel : Channel Date} (h : channelFromSnapshot snap = some channel) :
    channel.identifier = snap.documentID := by
  obtain ⟨_, _, _, _, _, _, rfl⟩ := channelFromSnapshot_eq_some.mp h
  rfl

end FirebaseService

end Chatik
