import Chatik.Library.Settling
import Chatik.Messaging.Convergence
import Mathlib.Data.Prod.Lex

/-!
# Quiescence

When nobody taps anything, writes still arrive and snapshots are still delivered,
and a delivery may cause another write.  This does not go on for ever: a message
is written below a document of `channels` and is no change of `channels`, so the
blocks that write messages are not called again for it.  Once nothing is left to
do, every write has been stored, every listener that has not reported an error has
been called with the current state, and the screens agree if none has.
-/

namespace Chatik

open Chatik.Library FirebaseService

section

variable {DeviceID Date : Type}

/-- What happens without a user: writes arrive, and snapshots are delivered. -/
def MessengerEvent.isOwn : MessengerEvent DeviceID → Prop
  | .arrive _ _ _ => True
  | .deliver _ => True
  | .conversation _ (.deliver _) => True
  | _ => False

/-- No listener reports an error. -/
def MessengerEvent.Undisturbed (e : MessengerEvent DeviceID) : Prop :=
  (∀ i err, e ≠ .fail i err) ∧ ∀ index i err, e ≠ .conversation index (.fail i err)

theorem MessengerEvent.undisturbed_of_isOwn {e : MessengerEvent DeviceID} (h : e.isOwn) :
    e.Undisturbed := by
  constructor
  · rintro i err rfl
    exact h
  · rintro index i err rfl
    exact h

/-- The listener on `channels` that reports an error. -/
def MessengerEvent.failing? : MessengerEvent DeviceID → Option Nat
  | .fail listener _ => some listener
  | _ => none

theorem MessengerEvent.mem_failing {es : List (MessengerEvent DeviceID)} {i : Nat} :
    i ∈ es.filterMap MessengerEvent.failing? ↔ ∃ err, .fail i err ∈ es := by
  rw [List.mem_filterMap]
  constructor
  · rintro ⟨e, he, hfailing⟩
    cases e with
    | fail listener err =>
        obtain rfl := Option.some.inj hfailing
        exact ⟨err, he⟩
    | _ => cases hfailing
  · rintro ⟨err, he⟩
    exact ⟨_, he, rfl⟩

def Addition.isChannel (addition : Addition DeviceID) : Bool :=
  decide (addition.write.collection = collection "channels")

def Addition.isBelow (addition : Addition DeviceID) : Bool := !addition.isChannel

namespace Messenger

/-- What is left to do: channels and deliveries of `channels` first, since they cause
messages, and messages before their deliveries. -/
def leftToDo (s : Messenger DeviceID Date) : ℕ ×ₗ ℕ ×ₗ ℕ ×ₗ ℕ :=
  toLex (s.underWay.countP Addition.isChannel, toLex (s.channels.outstanding,
    toLex (s.underWay.countP Addition.isBelow,
      (s.conversations.map fun conversation =>
        conversation.table.messages.outstanding).sum)))

theorem countP_eraseIdx_add {s : Messenger DeviceID Date} {index : Nat}
    {addition : Addition DeviceID} (hget : s.underWay[index]? = some addition)
    (p : Addition DeviceID → Bool) :
    (s.underWay.eraseIdx index).countP p + (if p addition then 1 else 0) =
      s.underWay.countP p := by
  obtain ⟨hindex, rfl⟩ := List.getElem?_eq_some_iff.mp hget
  rw [← (List.getElem_cons_eraseIdx_perm hindex).countP_eq, List.countP_cons]

variable [Instant Date] [Unicode] [DateFormatter Date] [DecidableEq DeviceID]
  {ids : VendorIdentifiers DeviceID} {s s' : Messenger DeviceID Date}

/-! ## Every event leaves less to do -/

omit [DecidableEq DeviceID] in
theorem leftToDo_arrive {index : Nat} {stored : StoredDocument DeviceID}
    (hget : s.underWay[index]? = some stored.toAddition) (snap : QuerySnapshot) :
    ((s.store index stored).change stored.write.collection snap).leftToDo < s.leftToDo := by
  have hchannel := countP_eraseIdx_add hget Addition.isChannel
  have hbelow := countP_eraseIdx_add hget Addition.isBelow
  have hwaits : ((s.store index stored).change stored.write.collection snap).underWay =
      s.underWay.eraseIdx index := underWay_change ..
  rw [leftToDo, leftToDo, hwaits, Prod.Lex.toLex_lt_toLex]
  by_cases hcollection : stored.write.collection = collection "channels"
  · have hadded : stored.toAddition.isChannel = true := decide_eq_true hcollection
    rw [if_pos hadded] at hchannel
    exact Or.inl (by simp only; omega)
  · have hadded : stored.toAddition.isChannel = false := decide_eq_false hcollection
    have hmessage : stored.toAddition.isBelow = true := by simp [Addition.isBelow, hadded]
    rw [if_neg (by simp [hadded])] at hchannel
    rw [if_pos hmessage] at hbelow
    have hsame : ((s.store index stored).change stored.write.collection snap).channels =
        s.channels := by
      rw [channels_change, if_neg hcollection]
      rfl
    refine Or.inr ⟨hchannel, ?_⟩
    rw [Prod.Lex.toLex_lt_toLex, hsame]
    refine Or.inr ⟨rfl, ?_⟩
    rw [Prod.Lex.toLex_lt_toLex]
    exact Or.inl (by simp only; omega)

omit [DateFormatter Date] in
/-- The messages that a block writes are no channels. -/
theorem leftToDo_deliver {i : Nat} {request : Request DeviceID Date} {snap : QuerySnapshot}
    {channels : Observed (Request DeviceID Date) QuerySnapshot}
    (hdeliver : s.channels.deliver i = some (request, snap, channels)) :
    (runBlock { s with channels := channels } request (some snap) none).leftToDo <
      s.leftToDo := by
  have houtstanding := Observed.outstanding_deliver hdeliver
  rw [leftToDo, leftToDo, Prod.Lex.toLex_lt_toLex]
  cases request with
  | createMessage sent channel =>
      have hnone : ((createMessageBlock sent.fakeMessage channel (some snap) none).map
          fun write => (⟨write, .sendFakeMessage sent⟩ : Addition DeviceID)).countP
            Addition.isChannel = 0 := by
        rw [createMessageBlock_snapshot, List.map_map, List.countP_eq_zero]
        intro addition haddition
        obtain ⟨doc, -, rfl⟩ := List.mem_map.mp haddition
        simpa [Addition.isChannel] using messagesOf_ne_channels doc
      refine Or.inr ⟨?_, ?_⟩
      · simp only [runBlock, List.countP_append, hnone, Nat.add_zero]
      · rw [Prod.Lex.toLex_lt_toLex]
        exact Or.inl houtstanding
  | getAllChannels device =>
      simp only [runBlock, getAllChannelsBlock_snapshot]
      refine Or.inr ⟨trivial, ?_⟩
      rw [Prod.Lex.toLex_lt_toLex]
      exact Or.inl houtstanding

omit [DecidableEq DeviceID] in
theorem leftToDo_conversation {index i : Nat}
    {conversation conversation' : OpenConversation DeviceID Date}
    (hget : s.conversations[index]? = some conversation)
    (hstep : conversation.step (.deliver i) = some conversation') :
    { s with conversations := s.conversations.set index conversation' }.leftToDo <
      s.leftToDo := by
  obtain ⟨table, htable, rfl⟩ := Option.map_eq_some_iff.mp hstep
  have houtstanding : table.messages.outstanding <
      conversation.table.messages.outstanding := by
    obtain ⟨l, key, snap, messages, -, -, hdeliver, rfl⟩ :=
      MessageTable.perform_deliver (MessageTable.step_eq_some htable).2
    simp only [MessageTable.runMessagesBlock, getAllMessagesBlock_snapshot]
    exact Observed.outstanding_deliver hdeliver
  simp only [leftToDo, Prod.Lex.toLex_lt_toLex]
  exact Or.inr ⟨trivial, Or.inr ⟨trivial, Or.inr ⟨trivial, sum_map_set_lt hget houtstanding⟩⟩⟩

theorem leftToDo_step {e : MessengerEvent DeviceID} (hown : e.isOwn)
    (hstep : Messenger.step ids s e = some s') : s'.leftToDo < s.leftToDo := by
  cases e with
  | arrive index documentID isSegment =>
      obtain ⟨stored, snap, hget, -, rfl⟩ := step_arrive hstep
      exact leftToDo_arrive hget snap
  | deliver i =>
      obtain ⟨request, snap, channels, -, hdeliver, rfl⟩ := step_deliver hstep
      exact leftToDo_deliver hdeliver
  | conversation index e =>
      obtain ⟨before, after, hget, hconversation, rfl⟩ := step_conversation hstep
      cases e with
      | deliver i => exact leftToDo_conversation hget hconversation
      | _ => cases hown
  | _ => cases hown

/-! ## Nothing is left to do -/

theorem underWay_of_quiet (h : Quiet (Messenger.step ids) MessengerEvent.isOwn s) :
    s.underWay = [] := by
  by_contra hne
  obtain ⟨addition, rest, hunderWay⟩ := List.exists_cons_of_ne_nil hne
  obtain ⟨documentID, isSegment, hfresh⟩ := exists_fresh_documentID
    ((s.snapshot addition.write.collection).documents.map QueryDocumentSnapshot.documentID)
  have hnone := h (.arrive 0 documentID isSegment) trivial
  simp [Messenger.step, hunderWay, QuerySnapshot.insert?, StoredDocument.document, hfresh]
    at hnone

/-- A listener that goes on has received all. -/
theorem next_of_quiet (h : Quiet (Messenger.step ids) MessengerEvent.isOwn s) {i : Nat}
    {l : Listener (Request DeviceID Date)} (hl : s.channels.listeners[i]? = some l)
    (hactive : i ∉ s.stopped) : l.next = s.channels.history.length := by
  have hnone := h (.deliver i) trivial
  refine Observed.deliver_eq_none.mp ?_ l hl
  cases hdeliver : s.channels.deliver i with
  | none => rfl
  | some delivered => simp [Messenger.step, hdeliver, hactive] at hnone

theorem messages_of_quiet (h : Quiet (Messenger.step ids) MessengerEvent.isOwn s)
    {conversation : OpenConversation DeviceID Date} (hmem : conversation ∈ s.conversations)
    (hrunning : conversation.table.trapped = false)
    (hactive : conversation.table.stopped = []) :
    conversation.table.messages.Settled := by
  refine Observed.settled_iff.mpr fun i => ?_
  obtain ⟨index, hindex⟩ := List.getElem?_of_mem hmem
  have hnone := h (.conversation index (.deliver i)) trivial
  cases hdeliver : conversation.table.messages.deliver i with
  | none => rfl
  | some delivered =>
      obtain ⟨l, hl, -, -, -, -⟩ := Observed.deliver_eq_some hdeliver
      simp [Messenger.step, hindex, OpenConversation.step, OpenConversationEvent.tableEvent,
        MessageTable.step, hrunning, MessageTable.perform, hl, hdeliver, hactive] at hnone

/-! ## Listeners that have stopped -/

/-- An error stops its listener, and nothing else stops one. -/
theorem stopped_step {e : MessengerEvent DeviceID} (hstep : Messenger.step ids s e = some s') :
    s'.stopped = e.failing?.toList ++ s.stopped := by
  cases e with
  | addAllChannels device =>
      obtain rfl := Option.some.inj hstep
      rfl
  | createButton channelName random now =>
      obtain rfl := Option.some.inj hstep
      cases channelName <;> rfl
  | didSelectRowAt device row =>
      obtain rfl := Option.some.inj hstep
      rfl
  | sendFakeMessage index available random now =>
      obtain ⟨before, after, -, -, rfl⟩ := step_sendFakeMessage hstep
      rfl
  | arrive index documentID isSegment =>
      obtain ⟨stored, snap, -, -, rfl⟩ := step_arrive hstep
      exact stopped_change _ _ _
  | deliver i =>
      obtain ⟨request, snap, channels, -, -, rfl⟩ := step_deliver hstep
      cases request with
      | createMessage sent channel => rfl
      | getAllChannels device =>
          simp only [runBlock, getAllChannelsBlock_snapshot]
          rfl
  | fail i err =>
      obtain ⟨-, -, rfl⟩ := step_fail hstep
      rfl
  | conversation index e =>
      obtain ⟨before, after, -, -, rfl⟩ := step_conversation hstep
      rfl

theorem stopped_run {es : List (MessengerEvent DeviceID)}
    (hrun : run (Messenger.step ids) s es = some s') :
    s'.stopped.Perm (s.stopped ++ es.filterMap MessengerEvent.failing?) := by
  refine run_collects (f := stopped) (fun _ _ _ hstep => ?_) hrun
  rw [stopped_step hstep]
  exact List.perm_append_comm

theorem mem_stopped_run {es : List (MessengerEvent DeviceID)}
    (hrun : run (Messenger.step ids) s es = some s') {i : Nat} :
    i ∈ s'.stopped ↔ i ∈ s.stopped ∨ ∃ err, .fail i err ∈ es := by
  rw [(stopped_run hrun).mem_iff, List.mem_append, MessengerEvent.mem_failing]

structure NoneStopped (s : Messenger DeviceID Date) : Prop where
  channels : s.stopped = []
  conversations : ∀ conversation ∈ s.conversations, conversation.table.stopped = []

omit [DecidableEq DeviceID] [Instant Date] [Unicode] [DateFormatter Date] in
theorem NoneStopped.set (h : s.NoneStopped) {index : Nat}
    {conversation conversation' : OpenConversation DeviceID Date}
    (hget : s.conversations[index]? = some conversation)
    (hsame : conversation'.table.stopped = conversation.table.stopped) :
    ∀ other ∈ s.conversations.set index conversation', other.table.stopped = [] :=
  forall_mem_set h.conversations
    (hsame.trans (h.conversations conversation (List.mem_of_getElem? hget)))

omit [DecidableEq DeviceID] in
theorem stopped_observe (reference : CollectionReference) (snap : QuerySnapshot)
    (conversation : OpenConversation DeviceID Date) :
    (OpenConversation.observe reference snap conversation).table.stopped =
      conversation.table.stopped := by
  unfold OpenConversation.observe
  split
  · cases hstep : conversation.step (.change snap) with
    | none => rfl
    | some conversation' =>
        obtain ⟨table, htable, rfl⟩ := Option.map_eq_some_iff.mp hstep
        exact MessageTable.stopped_step (by simp) htable
  · rfl

theorem NoneStopped.step {e : MessengerEvent DeviceID} (h : s.NoneStopped)
    (he : e.Undisturbed) (hstep : Messenger.step ids s e = some s') : s'.NoneStopped := by
  have hnone : e.failing?.toList = [] := by
    cases e with
    | fail i err => exact absurd rfl (he.1 i err)
    | _ => rfl
  have hchannels : s'.stopped = [] := by
    rw [stopped_step hstep, hnone, h.channels, List.append_nil]
  refine ⟨hchannels, ?_⟩
  cases e with
  | addAllChannels device =>
      obtain rfl := Option.some.inj hstep
      exact h.conversations
  | createButton channelName random now =>
      obtain rfl := Option.some.inj hstep
      cases channelName <;> exact h.conversations
  | didSelectRowAt device row =>
      obtain rfl := Option.some.inj hstep
      exact List.forall_mem_append.mpr ⟨h.conversations,
        List.forall_mem_singleton.mpr (MessageTable.stopped_viewDidLoad _ _)⟩
  | sendFakeMessage index available random now =>
      obtain ⟨before, after, hget, hsend, rfl⟩ := step_sendFakeMessage hstep
      obtain ⟨table, htable, rfl⟩ := Option.map_eq_some_iff.mp hsend
      exact h.set hget (MessageTable.stopped_step (by simp) htable)
  | arrive index documentID isSegment =>
      obtain ⟨stored, snap, -, -, rfl⟩ := step_arrive hstep
      intro conversation hconversation
      unfold change at hconversation
      split at hconversation
      · exact h.conversations conversation hconversation
      · obtain ⟨before, hbefore, rfl⟩ := List.mem_map.mp hconversation
        rw [stopped_observe]
        exact h.conversations before hbefore
  | deliver i =>
      obtain ⟨request, snap, channels, -, hdeliver, rfl⟩ := step_deliver hstep
      cases request with
      | createMessage sent channel => exact h.conversations
      | getAllChannels device =>
          simp only [runBlock, getAllChannelsBlock_snapshot]
          exact h.conversations
  | fail i err => exact absurd rfl (he.1 i err)
  | conversation index e =>
      obtain ⟨before, after, hget, hconversation, rfl⟩ := step_conversation hstep
      obtain ⟨table, htable, rfl⟩ := Option.map_eq_some_iff.mp hconversation
      refine h.set hget (MessageTable.stopped_step (fun i err hfail => ?_) htable)
      cases e with
      | fail j error => exact he.2 index j error rfl
      | _ => cases hfail

theorem noneStopped_run {es : List (MessengerEvent DeviceID)}
    (hrun : run (Messenger.step ids) start es = some s) (hes : ∀ e ∈ es, e.Undisturbed) :
    s.NoneStopped :=
  run_invariant_of_forall (I := NoneStopped) (fun _ _ _ he hstep h => h.step he hstep)
    hrun hes ⟨rfl, fun conversation hconversation => by cases hconversation⟩

theorem NoneStopped.channels_settled (h : s.NoneStopped)
    (hquiet : Quiet (Messenger.step ids) MessengerEvent.isOwn s) : s.channels.Settled := by
  intro l hl
  obtain ⟨i, hi⟩ := List.getElem?_of_mem hl
  exact Messenger.next_of_quiet hquiet hi (by simp [h.channels])

theorem settled_of_quiet (hsynced : s.Synced ids) (hstopped : s.NoneStopped)
    (hquiet : Quiet (Messenger.step ids) MessengerEvent.isOwn s) : s.Settled where
  channels := hstopped.channels_settled hquiet
  messages conversation hmem := messages_of_quiet hquiet hmem
    (hsynced.traced.attributed conversation hmem).rowsMatch.running
    (hstopped.conversations conversation hmem)

/-! ## The messenger comes to rest -/

theorem settles (ids : VendorIdentifiers DeviceID) :
    Settles (Messenger.step ids) MessengerEvent.isOwn (Synced ids)
      (· < ·) (@leftToDo DeviceID Date) where
  wellFounded := wellFounded_lt
  keeps _ _ _ _ hstep h := h.step hstep
  decreases _ _ _ hown hstep _ := leftToDo_step hown hstep

/-- Without a user the messenger is not busy for ever, however its writes and deliveries
are interleaved. -/
theorem not_endless (ids : VendorIdentifiers DeviceID)
    (es : List (MessengerEvent DeviceID)) (s : Messenger DeviceID Date)
    (hrun : run (Messenger.step ids) start es = some s) :
    ¬ ∃ (states : Nat → Messenger DeviceID Date) (events : Nat → MessengerEvent DeviceID),
      states 0 = s ∧ ∀ n, (events n).isOwn ∧
        Messenger.step ids (states n) (events n) = some (states (n + 1)) := by
  rintro ⟨states, events, rfl, hsteps⟩
  exact (settles ids).not_infinite states events (synced_run hrun) hsteps

/-- After any run without errors the devices come to rest if they are left alone, and
whichever way they do, every write has been stored and the screens agree. -/
theorem agrees_at_rest (ids : VendorIdentifiers DeviceID)
    (es : List (MessengerEvent DeviceID)) (s : Messenger DeviceID Date)
    (hrun : run (Messenger.step ids) start es = some s) (hes : ∀ e ∈ es, e.Undisturbed) :
    (∃ own t, run (Messenger.step ids) s own = some t ∧ (∀ e ∈ own, e.isOwn) ∧
      Quiet (Messenger.step ids) MessengerEvent.isOwn t) ∧
    ∀ own t, run (Messenger.step ids) s own = some t → (∀ e ∈ own, e.isOwn) →
      Quiet (Messenger.step ids) MessengerEvent.isOwn t →
        t.underWay = [] ∧ t.Settled ∧ t.Agreed := by
  have hsynced := synced_run hrun
  have hstopped := noneStopped_run hrun hes
  refine ⟨(settles ids).exists_quiet hsynced, fun own t ht hown hquiet => ?_⟩
  have htsynced := (settles ids).invariant ht hown hsynced
  have htstopped : t.NoneStopped :=
    run_invariant_of_forall (I := NoneStopped) (fun _ _ _ he hstep h => h.step he hstep)
      ht (fun e he => MessengerEvent.undisturbed_of_isOwn (hown e he)) hstopped
  have hsettled := settled_of_quiet htsynced htstopped hquiet
  exact ⟨underWay_of_quiet hquiet, hsettled, htsynced.agreed hsettled⟩

end Messenger

end

/-! ## After the first send -/

section

attribute [local instance] asciiText nanosecondDates universalClock

theorem exists_firstSend : ∃ s : Messenger Bool Int,
    run (Messenger.step twoDevices) Messenger.start firstSend = some s ∧
      s.conversations.length = 1 := by
  have hopened : (run (Messenger.step twoDevices) (Messenger.start : Messenger Bool Int)
      firstSend).map (fun s => s.conversations.length) = some 1 := by decide +kernel
  exact Option.map_eq_some_iff.mp hopened

theorem undisturbed_firstSend : ∀ e ∈ firstSend, e.Undisturbed := by
  simp [firstSend, MessengerEvent.Undisturbed]

theorem not_endless_firstSend : ∃ s : Messenger Bool Int,
    run (Messenger.step twoDevices) Messenger.start firstSend = some s ∧
      s.conversations.length = 1 ∧
      ¬ ∃ (states : Nat → Messenger Bool Int) (events : Nat → MessengerEvent Bool),
        states 0 = s ∧ ∀ n, (events n).isOwn ∧
          Messenger.step twoDevices (states n) (events n) = some (states (n + 1)) := by
  obtain ⟨s, hrun, hopened⟩ := exists_firstSend
  exact ⟨s, hrun, hopened, Messenger.not_endless twoDevices firstSend s hrun⟩

theorem agrees_at_rest_firstSend : ∃ s t : Messenger Bool Int, ∃ own,
    run (Messenger.step twoDevices) Messenger.start firstSend = some s ∧
      run (Messenger.step twoDevices) s own = some t ∧ t.underWay = [] ∧ t.Agreed := by
  obtain ⟨s, hrun, -⟩ := exists_firstSend
  obtain ⟨⟨own, t, ht, hown, hquiet⟩, hrest⟩ :=
    Messenger.agrees_at_rest twoDevices firstSend s hrun undisturbed_firstSend
  obtain ⟨hstored, -, hagreed⟩ := hrest own t ht hown hquiet
  exact ⟨s, t, own, hrun, ht, hstored, hagreed⟩

end

end Chatik
