import Chatik.Messaging.Copies
import Chatik.Messaging.Quiescence
import Mathlib.Data.List.Flatten

/-!
# What becomes of a message

A message is never stored before the channel that it belongs to, and no message
that a device sends into a channel is lost unless its listener reports an error:
once the messenger has come to rest it has been stored in the channel's collection,
once and then once more for every channel that has been created since it was sent.
-/

namespace Chatik

open Chatik.Library FirebaseService

section

variable {DeviceID Date : Type} [DecidableEq DeviceID] [Instant Date] [Unicode]
  [DateFormatter Date]

namespace Messenger

variable {ids : VendorIdentifiers DeviceID} {s s' : Messenger DeviceID Date}

/-! ## The channel first -/

/-- Every message that is stored comes after the document of its channel. -/
def ChannelsFirst (s : Messenger DeviceID Date) : Prop :=
  ∀ (i : Nat) (stored : StoredDocument DeviceID) (sent : SentMessage DeviceID),
    s.stored[i]? = some stored → stored.origin = .sendFakeMessage sent →
    ∃ (j : Nat) (channel : StoredDocument DeviceID), j < i ∧ s.stored[j]? = some channel ∧
      channel.write.collection = collection "channels" ∧
      stored.write.collection = messagesOf channel.document

omit [DecidableEq DeviceID] [Instant Date] [DateFormatter Date] in
/-- A message under way belongs to a channel that is stored already. -/
theorem Recorded.channel_stored (h : s.Recorded ids) {addition : Addition DeviceID}
    (hmem : addition ∈ s.underWay) {sent : SentMessage DeviceID}
    (horigin : addition.origin = .sendFakeMessage sent) :
    ∃ (j : Nat) (channel : StoredDocument DeviceID), s.stored[j]? = some channel ∧
      channel.write.collection = collection "channels" ∧
      addition.write.collection = messagesOf channel.document := by
  have hformed := h.underWay addition hmem
  simp only [Addition.Formed, horigin] at hformed
  obtain ⟨-, doc, hdoc, hwrite⟩ := hformed
  have hsnapshot : doc ∈ (s.snapshot (collection "channels")).documents := hdoc
  obtain ⟨channel, hchannel, rfl, hcollection⟩ := h.exists_stored hsnapshot
  obtain ⟨j, hj⟩ := List.getElem?_of_mem hchannel
  exact ⟨j, channel, hj, hcollection, by rw [hwrite]; rfl⟩

theorem ChannelsFirst.step (h : s.ChannelsFirst) (hrecorded : s.Recorded ids)
    {e : MessengerEvent DeviceID} (hstep : Messenger.step ids s e = some s') :
    s'.ChannelsFirst := by
  by_cases harrive : ∃ index documentID isSegment, e = .arrive index documentID isSegment
  · obtain ⟨index, documentID, isSegment, rfl⟩ := harrive
    obtain ⟨stored, snap, hget, -, rfl⟩ := step_arrive hstep
    intro i message sent hmessage horigin
    rw [stored_change] at hmessage ⊢
    have happend : (s.store index stored).stored = s.stored ++ [stored] := rfl
    rw [happend] at hmessage ⊢
    rcases Nat.lt_or_ge i s.stored.length with hi | hi
    · rw [List.getElem?_append_left hi] at hmessage
      obtain ⟨j, channel, hj, hchannel, hrest⟩ := h i message sent hmessage horigin
      exact ⟨j, channel, hj, by rw [List.getElem?_append_left (hj.trans hi), hchannel], hrest⟩
    · -- the message that arrives has been sent into a channel of the store
      rw [List.getElem?_append_right hi, List.getElem?_singleton] at hmessage
      split at hmessage
      · obtain rfl := Option.some.inj hmessage
        obtain ⟨j, channel, hchannel, hrest⟩ :=
          hrecorded.channel_stored (List.mem_of_getElem? hget) horigin
        have hj := (List.getElem?_eq_some_iff.mp hchannel).1
        exact ⟨j, channel, hj.trans_le hi,
          by rw [List.getElem?_append_left hj, hchannel], hrest⟩
      · cases hmessage
  · have hstored := (step_store hstep fun index documentID isSegment he =>
      harrive ⟨index, documentID, isSegment, he⟩).2
    rw [ChannelsFirst, hstored]
    exact h

theorem channelsFirst_run {es : List (MessengerEvent DeviceID)}
    (hrun : run (Messenger.step ids) start es = some s) : s.ChannelsFirst := by
  have hboth : s.ChannelsFirst ∧ s.Recorded ids := by
    refine run_invariant (I := fun s => s.ChannelsFirst ∧ s.Recorded ids) ?_ hrun
      ⟨?_, recorded_start⟩
    · rintro s e s' hstep ⟨hfirst, hrecorded⟩
      exact ⟨hfirst.step hrecorded hstep, hrecorded.step hstep⟩
    · intro i stored sent hstored
      cases hstored
  exact hboth.1

/-- In no state of a run is a message stored without its channel before it. -/
theorem messages_follow_channels (ids : VendorIdentifiers DeviceID)
    (es : List (MessengerEvent DeviceID)) (s : Messenger DeviceID Date)
    (hrun : run (Messenger.step ids) start es = some s)
    (i : Nat) (stored : StoredDocument DeviceID) (hstored : s.stored[i]? = some stored)
    (sent : SentMessage DeviceID) (horigin : stored.origin = .sendFakeMessage sent) :
    ∃ (j : Nat) (channel : StoredDocument DeviceID), j < i ∧ s.stored[j]? = some channel ∧
      channel.write.collection = collection "channels" ∧
      stored.write.collection = messagesOf channel.document :=
  channelsFirst_run hrun i stored sent hstored horigin

/-! ## Nothing is lost -/

theorem continues_step {e : MessengerEvent DeviceID}
    (hstep : Messenger.step ids s e = some s') : s.channels.Continues s'.channels := by
  cases e with
  | addAllChannels device =>
      obtain rfl := Option.some.inj hstep
      exact Observed.continues_attach _ _
  | createButton channelName random now =>
      obtain rfl := Option.some.inj hstep
      cases channelName <;> exact Observed.Continues.refl _
  | didSelectRowAt device row =>
      obtain rfl := Option.some.inj hstep
      exact Observed.Continues.refl _
  | sendFakeMessage index available random now =>
      obtain ⟨before, after, -, -, rfl⟩ := step_sendFakeMessage hstep
      exact Observed.continues_attach _ _
  | arrive index documentID isSegment =>
      obtain ⟨stored, snap, -, -, rfl⟩ := step_arrive hstep
      rw [channels_change]
      split
      · exact Observed.continues_change _ snap
      · exact Observed.Continues.refl _
  | deliver i =>
      obtain ⟨request, snap, channels, -, hdeliver, rfl⟩ := step_deliver hstep
      have hcontinues := Observed.continues_deliver hdeliver
      cases request with
      | createMessage sent channel => exact hcontinues
      | getAllChannels device =>
          simp only [runBlock, getAllChannelsBlock_snapshot]
          exact hcontinues
  | fail i err =>
      obtain ⟨-, -, rfl⟩ := step_fail hstep
      exact Observed.Continues.refl _
  | conversation index e =>
      obtain ⟨before, after, -, -, rfl⟩ := step_conversation hstep
      exact Observed.Continues.refl _

theorem continues_run {es : List (MessengerEvent DeviceID)}
    (hrun : run (Messenger.step ids) s es = some s') : s.channels.Continues s'.channels :=
  run_relates (R := fun s t : Messenger DeviceID Date => s.channels.Continues t.channels)
    (fun s => Observed.Continues.refl s.channels) (fun _ _ _ h h' => h.trans h')
    (fun _ _ _ hstep => continues_step hstep) hrun

omit [DecidableEq DeviceID] [Instant Date] [Unicode] [DateFormatter Date] in
/-- Only listeners that have been attached have stopped. -/
def StoppedAttached (s : Messenger DeviceID Date) : Prop :=
  ∀ i ∈ s.stopped, ∃ l, s.channels.listeners[i]? = some l

theorem StoppedAttached.step (h : s.StoppedAttached) {e : MessengerEvent DeviceID}
    (hstep : Messenger.step ids s e = some s') : s'.StoppedAttached := by
  intro i hi
  have hbefore : ∃ l, s.channels.listeners[i]? = some l := by
    rw [stopped_step hstep] at hi
    rcases List.mem_append.mp hi with hnew | hold
    · cases e with
      | fail j err =>
          obtain rfl : i = j := by simpa [MessengerEvent.failing?] using hnew
          exact (step_fail hstep).1
      | _ => cases hnew
    · exact h i hold
  obtain ⟨l, hl⟩ := hbefore
  obtain ⟨l', hl', -, -⟩ := (continues_step hstep).listeners i l hl
  exact ⟨l', hl'⟩

theorem additions_of_quiet (hquiet : Quiet (Messenger.step ids) MessengerEvent.isOwn s) :
    s.additions = s.stored.map StoredDocument.toAddition := by
  rw [additions, underWay_of_quiet hquiet, List.append_nil]

end Messenger

end

/-! ## The first message at rest -/

section

attribute [local instance] asciiText nanosecondDates universalClock

theorem messages_follow_channels_firstSend :
    ∃ (s : Messenger Bool Int) (stored channel : StoredDocument Bool) (j : Nat),
      run (Messenger.step twoDevices) Messenger.start firstSend = some s ∧
      s.stored[1]? = some stored ∧ j < 1 ∧ s.stored[j]? = some channel ∧
      stored.write.collection = messagesOf channel.document := by
  have hsecond : (run (Messenger.step twoDevices) (Messenger.start : Messenger Bool Int)
      firstSend).map (fun s => s.stored[1]?.map fun stored => stored.toAddition.isMessage) =
        some (some true) := by decide +kernel
  obtain ⟨s, hrun, hget⟩ := Option.map_eq_some_iff.mp hsecond
  obtain ⟨stored, hstored, hmessage⟩ := Option.map_eq_some_iff.mp hget
  obtain ⟨sent, horigin⟩ : ∃ sent, stored.origin = .sendFakeMessage sent := by
    cases horigin : stored.origin with
    | channelButtonTapped channelName randomMessage now =>
        simp [Addition.isMessage, horigin] at hmessage
    | sendFakeMessage sent => exact ⟨sent, rfl⟩
  obtain ⟨j, channel, hj, hchannel, -, hwrite⟩ := Messenger.messages_follow_channels
    twoDevices firstSend s hrun 1 stored hstored sent horigin
  exact ⟨s, stored, channel, j, hrun, hstored, hj, hchannel, hwrite⟩

end

end Chatik
