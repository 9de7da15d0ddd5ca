import Chatik.Library.Observed
import Chatik.Library.Runs
import Chatik.Messaging.Snapshots

/-!
# The conversation screen

`ConversationViewController` on the `messages` collection of its channel.
`viewDidLoad` attaches a listener, and so does every send, in the completion
that `createMessage` calls at once; what the send itself writes, and what any
other client writes, is a `change` of the collection.  A state of the collection
reaches every listener before the next one does.
-/

namespace Chatik

open Chatik.Library FirebaseService

section

variable {Date : Type} [Instant Date]

structure ConversationViewController (Date : Type) where
  channel : Option (Channel Date)
  messagesList : List (Message Date)
  messages : Observed Unit QuerySnapshot
  stopped : List Nat

inductive ConversationEvent where
  | sendFakeMessage
  | change (snap : QuerySnapshot)
  | deliver (listener : Nat)
  | fail (listener : Nat) (err : FirestoreError)

namespace ConversationViewController

def contents : List String :=
  ["Best code", "Hi", "For fun", "Testing...", "Coding!", "Hello again!"]

def fakeMessage (random : Nat) (now : Timestamp) (identifierForVendor : Option String) :
    Dictionary FieldValue := fun key =>
  if key = "content" then some (.string (contents[random]?.getD "noText"))
  else if key = "created" then some (.timestamp now)
  else if key = "senderName" then some (.string "Vladislav")
  else if key = "senderId" then some (.string (getDeviceUUID identifierForVendor))
  else none

def addAllMessages (s : ConversationViewController Date) :
    ConversationViewController Date :=
  match getMessagesReference s.channel with
  -- optional chaining: no listener for a channel without an identifier
  | none => s
  | some _ => { s with messages := s.messages.attach () }

def viewDidLoad (channel : Option (Channel Date)) (snap : QuerySnapshot) :
    ConversationViewController Date :=
  addAllMessages ⟨channel, [], Observed.start snap, []⟩

def runBlock (s : ConversationViewController Date) (snap : Option QuerySnapshot)
    (err : Option FirestoreError) : ConversationViewController Date :=
  match getAllMessagesBlock snap err with
  | none => s
  | some messages => { s with messagesList := messages }

def step (s : ConversationViewController Date) :
    ConversationEvent → Option (ConversationViewController Date)
  | .sendFakeMessage => some s.addAllMessages
  | .change snap => some { s with messages := s.messages.change snap }
  | .deliver listener =>
      if listener ∈ s.stopped then none
      else if s.messages.oldestFirst s.stopped listener then do
        let (_, snap, messages) ← s.messages.deliver listener
        some (runBlock { s with messages := messages } (some snap) none)
      else none
  | .fail listener err => do
      let _ ← s.messages.listeners[listener]?
      if listener ∈ s.stopped then none
      else some (runBlock { s with stopped := listener :: s.stopped } none (some err))

/-! ## What one step does -/

omit [Instant Date] in
@[simp] theorem messagesList_addAllMessages (s : ConversationViewController Date) :
    s.addAllMessages.messagesList = s.messagesList := by
  unfold addAllMessages
  split <;> rfl

omit [Instant Date] in
@[simp] theorem stopped_addAllMessages (s : ConversationViewController Date) :
    s.addAllMessages.stopped = s.stopped := by
  unfold addAllMessages
  split <;> rfl

omit [Instant Date] in
theorem messages_addAllMessages (s : ConversationViewController Date) :
    s.addAllMessages.messages = s.messages ∨
      s.addAllMessages.messages = s.messages.attach () := by
  unfold addAllMessages
  split
  · exact Or.inl rfl
  · exact Or.inr rfl

theorem step_deliver {s s' : ConversationViewController Date} {i : Nat}
    (h : step s (.deliver i) = some s') :
    ∃ key snap messages, i ∉ s.stopped ∧ s.messages.oldestFirst s.stopped i = true ∧
      s.messages.deliver i = some (key, snap, messages) ∧
      s'.messages = messages ∧ s'.stopped = s.stopped ∧
      s'.messagesList = sorted (fun a b => decide (a.created > b.created))
        (snap.documents.filterMap messageOf) := by
  simp only [step] at h
  split at h
  · cases h
  · rename_i hactive
    split at h
    · rename_i hguard
      simp only [Option.bind_eq_bind, Option.bind_eq_some_iff] at h
      obtain ⟨⟨key, snap, messages⟩, hdeliver, hs'⟩ := h
      obtain rfl := Option.some.inj hs'
      refine ⟨key, snap, messages, hactive, hguard, hdeliver, ?_, ?_, ?_⟩ <;>
        simp [runBlock, getAllMessagesBlock_snapshot]
    · cases h

theorem step_fail {s s' : ConversationViewController Date} {i : Nat}
    {err : FirestoreError} (h : step s (.fail i err) = some s') :
    i ∉ s.stopped ∧ s' = { s with stopped := i :: s.stopped } := by
  simp only [step, Option.bind_eq_bind, Option.bind_eq_some_iff] at h
  obtain ⟨l, -, h⟩ := h
  split at h
  · cases h
  · rename_i hactive
    exact ⟨hactive, (Option.some.inj h).symm⟩

/-! ## The list is the latest snapshot -/

/-- The list holds the decodable documents of the snapshot, newest first. -/
def Shows (s : ConversationViewController Date) (snap : QuerySnapshot) : Prop :=
  s.messagesList.Perm (snap.documents.filterMap messageOf) ∧
    s.messagesList.Pairwise fun a b => b.created ≤ a.created

structure UpToDate (s : ConversationViewController Date) : Prop where
  inOrder : s.messages.InOrder s.stopped
  latest : ∀ snap ∈ s.messages.latest, s.Shows snap

theorem upToDate_addAllMessages {s : ConversationViewController Date}
    (h : s.UpToDate) : s.addAllMessages.UpToDate := by
  have hshows : ∀ snap, s.Shows snap → s.addAllMessages.Shows snap := by
    intro snap hsnap
    simpa only [Shows, messagesList_addAllMessages] using hsnap
  rcases s.messages_addAllMessages with hmessages | hmessages
  · refine ⟨?_, fun snap hsnap => hshows snap (h.latest snap (hmessages ▸ hsnap))⟩
    rw [hmessages, stopped_addAllMessages]
    exact h.inOrder
  · refine ⟨?_, fun snap hsnap => ?_⟩
    · rw [hmessages, stopped_addAllMessages]
      exact h.inOrder.attach ()
    · rw [hmessages, Observed.latest_attach] at hsnap
      exact hshows snap (h.latest snap hsnap)

theorem upToDate_viewDidLoad (channel : Option (Channel Date))
    (snap : QuerySnapshot) : (viewDidLoad channel snap).UpToDate := by
  apply upToDate_addAllMessages
  exact ⟨Observed.inOrder_start snap [], fun _ hsnap => by cases hsnap⟩

theorem upToDate_step {s s' : ConversationViewController Date}
    {e : ConversationEvent} (hstep : step s e = some s') (h : s.UpToDate) :
    s'.UpToDate := by
  cases e with
  | sendFakeMessage =>
      obtain rfl := Option.some.inj hstep
      exact upToDate_addAllMessages h
  | change snap =>
      obtain rfl := Option.some.inj hstep
      refine ⟨h.inOrder.change snap, fun latest hlatest => ?_⟩
      rw [Observed.latest_change] at hlatest
      exact h.latest latest hlatest
  | deliver i =>
      obtain ⟨key, snap, messages, hactive, hguard, hdeliver, rfl, hstopped, hlist⟩ :=
        step_deliver hstep
      refine ⟨hstopped ▸ h.inOrder.deliver hguard hdeliver, fun latest hlatest => ?_⟩
      rw [h.inOrder.latest_deliver hactive hdeliver, Option.mem_some_iff] at hlatest
      subst hlatest
      rw [Shows, hlist]
      exact ⟨sorted_perm _ _, sorted_pairwise_key _ _⟩
  | fail i err =>
      obtain ⟨-, rfl⟩ := step_fail hstep
      exact ⟨h.inOrder.stop i, h.latest⟩

theorem upToDate_run {channel : Option (Channel Date)} {snap : QuerySnapshot}
    {es : List ConversationEvent} {s : ConversationViewController Date}
    (hrun : run step (viewDidLoad channel snap) es = some s) : s.UpToDate :=
  run_invariant (I := UpToDate) (fun _ _ _ hstep => upToDate_step hstep) hrun
    (upToDate_viewDidLoad channel snap)

/-- After every run the list shows the latest snapshot delivered to any of the
screen's listeners; a further delivery makes its snapshot the latest, and a
further error leaves the list as it is. -/
theorem messagesList_latest (channel : Option (Channel Date))
    (snap : QuerySnapshot) (es : List ConversationEvent)
    (s : ConversationViewController Date)
    (hrun : run step (viewDidLoad channel snap) es = some s) :
    (∀ latest ∈ s.messages.latest, s.Shows latest) ∧
    (∀ i s', step s (.deliver i) = some s' →
      ∃ key delivered messages,
        s.messages.deliver i = some (key, delivered, messages) ∧
        s'.messages.latest = some delivered ∧ s'.Shows delivered) ∧
    ∀ i err s', step s (.fail i err) = some s' →
      s'.messagesList = s.messagesList := by
  have hs := upToDate_run hrun
  refine ⟨hs.latest, fun i s' hstep => ?_, fun i err s' hstep => ?_⟩
  · obtain ⟨key, delivered, messages, hactive, -, hdeliver, hmessages, -, -⟩ :=
      step_deliver hstep
    have hlatest : s'.messages.latest = some delivered :=
      hmessages ▸ hs.inOrder.latest_deliver hactive hdeliver
    exact ⟨key, delivered, messages, hdeliver, hlatest,
      (upToDate_step hstep hs).latest delivered hlatest⟩
  · rw [(step_fail hstep).2]

end ConversationViewController

end

section

attribute [local instance] nanosecondDates

def storedMessage : QueryDocumentSnapshot where
  documentID := "first"
  data := fun key =>
    if key = "content" then some (.string "Hi")
    else if key = "senderId" then some (.string "device")
    else if key = "senderName" then some (.string "Vlad")
    else if key = "created" then some (.timestamp tenSeconds)
    else none

def storedMessages : QuerySnapshot where
  documents := [unfinishedChannel, storedMessage]

def emptyLobby : Option (Channel Int) := some ⟨"lobby", "Lobby", none, none⟩

/-- The first listener reports an error, and two further states reach the second. -/
def afterError : List ConversationEvent :=
  [.deliver 0, .fail 0 ⟨"Missing or insufficient permissions."⟩, .sendFakeMessage,
    .deliver 1, .change unfinishedSnapshot, .deliver 1, .change storedMessages, .deliver 1]

theorem messagesList_latest_storedMessages :
    ∃ s, run ConversationViewController.step
        (ConversationViewController.viewDidLoad emptyLobby storedMessages) afterError =
          some s ∧
      s.messages.latest = some storedMessages ∧ s.Shows storedMessages :=
  ⟨_, rfl, rfl, (ConversationViewController.messagesList_latest emptyLobby storedMessages
    afterError _ rfl).1 storedMessages rfl⟩

end

end Chatik
