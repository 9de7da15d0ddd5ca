import Chatik.Library.Observed
import Chatik.Library.Runs
import Chatik.Messaging.Snapshots
import Mathlib.Data.List.Nodup

/-!
# The service and the channels collection

One device's `FirebaseServiceImp` on the shared collection `channels`.  Calls
of `createMessage` and `getAllChannels` attach listeners that are never removed;
the collection changes by `addDocument` and, in the event `change`, by whatever
any client does to it.  The client keeps what its blocks produce: the writes to
`messages` subcollections and the lists passed to the completions of
`getAllChannels`, each with the position of the listener whose block produced it.
A write to a subcollection is no change of `channels`.
-/

namespace Chatik

open Chatik.Library FirebaseService

variable {Date : Type} [Instant Date]

inductive ChannelsBlock (Date : Type) where
  | createMessage (message : Dictionary FieldValue) (channel : Option (Channel Date))
  | getAllChannels

structure Client (Date : Type) where
  channels : Observed (ChannelsBlock Date) QuerySnapshot
  writes : List (Nat × Write)
  lists : List (Nat × List (Channel Date))

inductive ClientEvent (Date : Type) where
  | createMessage (message : Dictionary FieldValue) (channel : Option (Channel Date))
  | getAllChannels
  | addDocument (doc : QueryDocumentSnapshot)
  | change (snap : QuerySnapshot)
  | deliver (listener : Nat)
  | fail (listener : Nat) (err : FirestoreError)

/-- The collection with a document under an ID that it does not hold yet. -/
def QuerySnapshot.insert? (snap : QuerySnapshot) (doc : QueryDocumentSnapshot) :
    Option QuerySnapshot :=
  if h : doc.documentID ∈ snap.documents.map QueryDocumentSnapshot.documentID then
    none
  else
    some ⟨snap.documents ++ [doc], by
      rw [List.map_append, List.nodup_append]
      refine ⟨snap.nodup, List.nodup_singleton _, fun a ha b hb hab => h ?_⟩
      rw [hab, List.mem_singleton.mp hb] at ha
      exact ha⟩

theorem documents_insert {snap snap' : QuerySnapshot} {doc : QueryDocumentSnapshot}
    (h : snap.insert? doc = some snap') : snap'.documents = snap.documents ++ [doc] := by
  unfold QuerySnapshot.insert? at h
  split at h
  · cases h
  · rw [← Option.some.inj h]

namespace Client

def start (snap : QuerySnapshot) : Client Date := ⟨Observed.start snap, [], []⟩

variable [Unicode]

def runBlock (s : Client Date) (listener : Nat) (block : ChannelsBlock Date)
    (snap : Option QuerySnapshot) (err : Option FirestoreError) : Client Date :=
  match block with
  | .createMessage message channel =>
      { s with writes := s.writes ++
          (createMessageBlock message channel snap err).map (listener, ·) }
  | .getAllChannels =>
      { s with lists := s.lists ++
          (getAllChannelsBlock snap err).toList.map (listener, ·) }

def step (s : Client Date) : ClientEvent Date → Option (Client Date)
  | .createMessage message channel =>
      some { s with channels := s.channels.attach (.createMessage message channel) }
  | .getAllChannels =>
      some { s with channels := s.channels.attach .getAllChannels }
  | .addDocument doc => do
      let snap ← s.channels.current.insert? doc
      some { s with channels := s.channels.change snap }
  | .change snap => some { s with channels := s.channels.change snap }
  | .deliver listener => do
      let (block, snap, channels) ← s.channels.deliver listener
      some (runBlock { s with channels := channels } listener block (some snap) none)
  | .fail listener err => do
      let l ← s.channels.listeners[listener]?
      some (runBlock s listener l.key none (some err))

def writesOf (s : Client Date) (listener : Nat) : List Write :=
  (s.writes.filter (·.1 = listener)).map Prod.snd

end Client

/-- The writes that a block makes for one snapshot. -/
def ChannelsBlock.writes [Unicode] (block : ChannelsBlock Date)
    (snap : QuerySnapshot) : List Write :=
  match block with
  | .createMessage message channel => createMessageBlock message channel (some snap) none
  | .getAllChannels => []

namespace Client

variable [Unicode]

@[simp] theorem channels_runBlock (s : Client Date) (listener : Nat)
    (block : ChannelsBlock Date) (snap : Option QuerySnapshot)
    (err : Option FirestoreError) :
    (runBlock s listener block snap err).channels = s.channels := by
  cases block <;> rfl

@[simp] theorem writesOf_runBlock_error (s : Client Date) (listener i : Nat)
    (block : ChannelsBlock Date) (err : FirestoreError) :
    (runBlock s listener block none (some err)).writesOf i = s.writesOf i := by
  cases block <;> simp [runBlock, writesOf, createMessageBlock]

theorem writes_runBlock_snapshot (s : Client Date) (listener : Nat)
    (block : ChannelsBlock Date) (snap : QuerySnapshot) :
    (runBlock s listener block (some snap) none).writes =
      s.writes ++ (block.writes snap).map (listener, ·) := by
  cases block <;> simp [runBlock, ChannelsBlock.writes]

omit [Unicode] in
theorem writesOf_append_map (writes : List (Nat × Write)) (added : List Write)
    (listener i : Nat) :
    ((writes ++ added.map (listener, ·)).filter (·.1 = i)).map Prod.snd =
      (writes.filter (·.1 = i)).map Prod.snd ++
        if listener = i then added else [] := by
  rw [List.filter_append, List.map_append, List.filter_map]
  split
  · rename_i h
    simp [Function.comp_def, h]
  · rename_i h
    simp [Function.comp_def, h]

theorem writesOf_runBlock_snapshot (s : Client Date) (listener i : Nat)
    (block : ChannelsBlock Date) (snap : QuerySnapshot) :
    (runBlock s listener block (some snap) none).writesOf i =
      s.writesOf i ++ if listener = i then block.writes snap else [] := by
  rw [writesOf, writes_runBlock_snapshot, writesOf_append_map]
  rfl

/-! ## What one step does -/

theorem step_deliver {s s' : Client Date} {i : Nat}
    (h : step s (.deliver i) = some s') :
    ∃ block snap channels, s.channels.deliver i = some (block, snap, channels) ∧
      s' = runBlock { s with channels := channels } i block (some snap) none := by
  simp only [step, Option.bind_eq_bind, Option.bind_eq_some_iff] at h
  obtain ⟨⟨block, snap, channels⟩, hdeliver, hs'⟩ := h
  exact ⟨block, snap, channels, hdeliver, (Option.some.inj hs').symm⟩

theorem step_fail {s s' : Client Date} {i : Nat} {err : FirestoreError}
    (h : step s (.fail i err) = some s') :
    ∃ l, s.channels.listeners[i]? = some l ∧
      s' = runBlock s i l.key none (some err) := by
  simp only [step, Option.bind_eq_bind, Option.bind_eq_some_iff] at h
  obtain ⟨l, hl, hs'⟩ := h
  exact ⟨l, hl, (Option.some.inj hs').symm⟩

theorem step_addDocument {s s' : Client Date} {doc : QueryDocumentSnapshot}
    (h : step s (.addDocument doc) = some s') :
    ∃ snap, s.channels.current.insert? doc = some snap ∧
      step s (.change snap) = some s' := by
  simp only [step, Option.bind_eq_bind, Option.bind_eq_some_iff] at h
  exact h

end Client

end Chatik
