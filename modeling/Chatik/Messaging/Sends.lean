import Chatik.Messaging.Client

/-!
# Sent messages

How often a message is stored, and whether it is stored at all.  Everything
follows from one account of the writes: at any moment the writes made on behalf
of a call are those of its block on the snapshots delivered to it so far.
-/

namespace Chatik

open Chatik.Library FirebaseService

section

variable {Date : Type} [Instant Date] [Unicode]

namespace Client

/-- The writes that listener `i` owes for the snapshots delivered to it. -/
def due (channels : Observed (ChannelsBlock Date) QuerySnapshot) (i : Nat) :
    List Write :=
  match channels.listeners[i]? with
  | none => []
  | some l => (channels.delivered l).flatMap l.key.writes

theorem due_of_getElem? {channels : Observed (ChannelsBlock Date) QuerySnapshot}
    {i : Nat} {l : Listener (ChannelsBlock Date)}
    (hl : channels.listeners[i]? = some l) :
    due channels i = (channels.delivered l).flatMap l.key.writes := by
  simp only [due, hl]

theorem due_attach (channels : Observed (ChannelsBlock Date) QuerySnapshot)
    (block : ChannelsBlock Date) (i : Nat) :
    due (channels.attach block) i = due channels i := by
  by_cases hi : i = channels.listeners.length
  · subst hi
    simp [due, Observed.getElem?_attach]
  · simp [due, Observed.getElem?_attach, hi]

theorem due_change (channels : Observed (ChannelsBlock Date) QuerySnapshot)
    (snap : QuerySnapshot) (i : Nat) :
    due (channels.change snap) i = due channels i := by
  have hlisteners : (channels.change snap).listeners = channels.listeners := rfl
  cases hl : channels.listeners[i]? with
  | none => simp only [due, hlisteners, hl]
  | some l =>
      rw [due_of_getElem? hl, due_of_getElem? (hlisteners ▸ hl),
        Observed.delivered_change _ _ (List.mem_of_getElem? hl)]

theorem due_deliver {channels channels' : Observed (ChannelsBlock Date) QuerySnapshot}
    {block : ChannelsBlock Date} {snap : QuerySnapshot} {i j : Nat}
    (hdeliver : channels.deliver j = some (block, snap, channels')) :
    due channels' i = due channels i ++ if j = i then block.writes snap else [] := by
  obtain ⟨l, hl, hsnap, rfl, hhistory, -⟩ := Observed.deliver_eq_some hdeliver
  by_cases hij : j = i
  · subst hij
    rw [due_of_getElem? hl, due_of_getElem? (Observed.getElem?_deliver_self hdeliver hl),
      Observed.delivered_of_history_eq hhistory,
      Observed.delivered_advance _ (List.mem_of_getElem? hl) hsnap]
    simp
  · have hsame := Observed.getElem?_deliver_ne hdeliver hij
    simp [due, hsame, hij, Observed.delivered_of_history_eq hhistory]

def Accounted (s : Client Date) : Prop := ∀ i, s.writesOf i = due s.channels i

theorem accounted_start (snap : QuerySnapshot) :
    (start snap : Client Date).Accounted := fun _ => rfl

theorem Accounted.step {s s' : Client Date} {e : ClientEvent Date}
    (hstep : step s e = some s') (h : s.Accounted) : s'.Accounted := by
  intro i
  have hi := h i
  cases e with
  | createMessage message channel =>
      obtain rfl := Option.some.inj hstep
      exact hi.trans (due_attach _ _ i).symm
  | getAllChannels =>
      obtain rfl := Option.some.inj hstep
      exact hi.trans (due_attach _ _ i).symm
  | addDocument doc =>
      obtain ⟨snap, -, hchange⟩ := step_addDocument hstep
      obtain rfl := Option.some.inj hchange
      exact hi.trans (due_change _ _ i).symm
  | change snap =>
      obtain rfl := Option.some.inj hstep
      exact hi.trans (due_change _ _ i).symm
  | deliver listener =>
      obtain ⟨block, snap, channels, hdeliver, rfl⟩ := step_deliver hstep
      rw [writesOf_runBlock_snapshot, channels_runBlock, due_deliver hdeliver]
      exact congrArg (· ++ _) hi
  | fail listener err =>
      obtain ⟨l, -, rfl⟩ := step_fail hstep
      rw [writesOf_runBlock_error, channels_runBlock]
      exact hi

theorem accounted_run {snap : QuerySnapshot} {es : List (ClientEvent Date)}
    {s : Client Date} (hrun : run step (start snap) es = some s) : s.Accounted :=
  run_invariant (I := Accounted) (fun _ _ _ hstep h => h.step hstep) hrun
    (accounted_start snap)

/-! ## At most once -/

/-- No call has made more than one write by the end of the run. -/
def StoredAtMostOnce (snap : QuerySnapshot) (es : List (ClientEvent Date)) : Prop :=
  ∀ s, run step (start snap) es = some s → ∀ i, (s.writesOf i).length ≤ 1

/-- The documents of all snapshots that the listener received. -/
def documentsSeen (s : Client Date) (l : Listener (ChannelsBlock Date)) :
    List QueryDocumentSnapshot :=
  (s.channels.delivered l).flatMap QuerySnapshot.documents

/-- Over the run no call of `createMessage` is shown more than one document that
decodes to its argument. -/
def ChannelSeenAtMostOnce (snap : QuerySnapshot) (es : List (ClientEvent Date)) :
    Prop :=
  ∀ s, run step (start snap) es = some s →
    ∀ l ∈ s.channels.listeners, ∀ message channel,
      l.key = .createMessage message channel →
        (s.documentsSeen l).countP (isChannel channel) ≤ 1

theorem length_flatMap_writes (message : Dictionary FieldValue)
    (channel : Option (Channel Date)) (snaps : List QuerySnapshot) :
    (snaps.flatMap (ChannelsBlock.createMessage message channel).writes).length =
      (snaps.flatMap QuerySnapshot.documents).countP (isChannel channel) := by
  induction snaps with
  | nil => rfl
  | cons snap snaps ih =>
      rw [List.flatMap_cons, List.flatMap_cons, List.length_append,
        List.countP_append, ih]
      simp [ChannelsBlock.writes, createMessageBlock_snapshot,
        List.countP_eq_length_filter]

/-- A call stores its message at most once exactly when it is shown its channel
at most once. -/
theorem storedAtMostOnce_iff (snap : QuerySnapshot)
    (es : List (ClientEvent Date)) :
    StoredAtMostOnce snap es ↔ ChannelSeenAtMostOnce snap es := by
  constructor
  · intro h s hrun l hl message channel hkey
    obtain ⟨i, hi⟩ := List.getElem?_of_mem hl
    have honce := h s hrun i
    rw [accounted_run hrun i, due_of_getElem? hi, hkey,
      length_flatMap_writes] at honce
    exact honce
  · intro h s hrun i
    rw [accounted_run hrun i]
    cases hi : s.channels.listeners[i]? with
    | none => simp [due, hi]
    | some l =>
        rw [due_of_getElem? hi]
        cases hkey : l.key with
        | getAllChannels => simp [ChannelsBlock.writes]
        | createMessage message channel =>
            rw [length_flatMap_writes]
            exact h s hrun l (List.mem_of_getElem? hi) message channel hkey

end Client

/-! ## The first snapshot of a send

A row of the channel list is tapped, the conversation keeps the channel value of
that row, and some time later a message is sent for it.  `waiting` lasts until
the first snapshot for the listener of that call is due.
-/

structure Send (Date : Type) [Instant Date] [Unicode] where
  stored : QuerySnapshot
  before : List (ClientEvent Date)
  tapped : Client Date
  reachesTap : run Client.step (Client.start stored) before = some tapped
  channel : Channel Date
  listed : ∃ list ∈ tapped.lists, channel ∈ list.2
  between : List (ClientEvent Date)
  sent : Client Date
  reachesSend : run Client.step tapped between = some sent
  message : Dictionary FieldValue
  waiting : List (ClientEvent Date)
  waited : Client Date
  reachesSnapshot : run Client.step sent
    (.createMessage message (some channel) :: waiting) = some waited
  noneDelivered : .deliver sent.channels.listeners.length ∉ waiting
  after : Client Date
  delivers : Client.step waited (.deliver sent.channels.listeners.length) = some after

namespace Send

/-- The listener that the call attaches. -/
def listener (send : Send Date) : Nat := send.sent.channels.listeners.length

/-- The snapshot that is due for the listener. -/
def firstSnapshot (send : Send Date) : List QueryDocumentSnapshot :=
  match send.waited.channels.deliver send.listener with
  | none => []
  | some (_, snap, _) => snap.documents

/-- The snapshot adds the message to the channel's document, if it holds it. -/
def Stored (send : Send Date) : Prop :=
  ∀ doc ∈ send.firstSnapshot, doc.documentID = send.channel.identifier →
    ∃ added, send.after.writes = send.waited.writes ++ added ∧
      (send.listener, ⟨messagesOf doc, send.message⟩) ∈ added

/-- The document still carries the three fields that the channel value captured. -/
def Unchanged (send : Send Date) : Prop :=
  ∀ doc ∈ send.firstSnapshot, doc.documentID = send.channel.identifier →
    ∃ name lastMessage lastActivity,
      doc.data "name" = some (.string name) ∧
      doc.data "lastMessage" = some (.string lastMessage) ∧
      doc.data "lastActivity" = some (.timestamp lastActivity) ∧
      sameText name send.channel.name = true ∧
      sameOptional sameText (some lastMessage) send.channel.lastMessage = true ∧
      send.channel.lastActivity = some (Instant.dateValue lastActivity)

end Send

theorem isChannel_iff_fields {channel : Channel Date} {doc : QueryDocumentSnapshot}
    (hid : doc.documentID = channel.identifier) :
    isChannel (some channel) doc = true ↔
      ∃ name lastMessage lastActivity,
        doc.data "name" = some (.string name) ∧
        doc.data "lastMessage" = some (.string lastMessage) ∧
        doc.data "lastActivity" = some (.timestamp lastActivity) ∧
        sameText name channel.name = true ∧
        sameOptional sameText (some lastMessage) channel.lastMessage = true ∧
        channel.lastActivity = some (Instant.dateValue lastActivity) := by
  have hdate : ∀ (date : Date) (other : Option Date),
      sameOptional sameDate (some date) other = true ↔ other = some date := by
    intro date other
    cases other with
    | none => simp
    | some other => simp [sameDate, eq_comm]
  rw [isChannel_some]
  constructor
  · rintro ⟨decoded, hdecoded, hsame⟩
    obtain ⟨name, lastMessage, lastActivity, hname, hmessage, hactivity, rfl⟩ :=
      channelFromSnapshot_eq_some.mp hdecoded
    simp only [Channel.same, Bool.and_eq_true, hdate] at hsame
    obtain ⟨⟨⟨-, hsameName⟩, hsameMessage⟩, hsameActivity⟩ := hsame
    exact ⟨name, lastMessage, lastActivity, hname, hmessage, hactivity, hsameName,
      hsameMessage, hsameActivity⟩
  · rintro ⟨name, lastMessage, lastActivity, hname, hmessage, hactivity, hsameName,
      hsameMessage, hsameActivity⟩
    refine ⟨_, channelFromSnapshot_eq_some.mpr ⟨name, lastMessage, lastActivity, hname,
      hmessage, hactivity, rfl⟩, ?_⟩
    simp only [Channel.same, Bool.and_eq_true, hdate]
    exact ⟨⟨⟨hid ▸ sameText_refl _, hsameName⟩, hsameMessage⟩, hsameActivity⟩

/-- A step that delivers nothing to a listener leaves it where it is. -/
theorem Client.getElem?_step {s s' : Client Date} {e : ClientEvent Date} {i : Nat}
    {l : Listener (ChannelsBlock Date)} (hstep : Client.step s e = some s')
    (he : e ≠ .deliver i) (hl : s.channels.listeners[i]? = some l) :
    s'.channels.listeners[i]? = some l := by
  have hi : i ≠ s.channels.listeners.length :=
    Nat.ne_of_lt (List.getElem?_eq_some_iff.mp hl).1
  cases e with
  | createMessage message channel =>
      obtain rfl := Option.some.inj hstep
      rw [Observed.getElem?_attach, if_neg hi, hl]
  | getAllChannels =>
      obtain rfl := Option.some.inj hstep
      rw [Observed.getElem?_attach, if_neg hi, hl]
  | addDocument doc =>
      obtain ⟨snap, -, hchange⟩ := Client.step_addDocument hstep
      obtain rfl := Option.some.inj hchange
      exact hl
  | change snap =>
      obtain rfl := Option.some.inj hstep
      exact hl
  | deliver j =>
      have hji : j ≠ i := fun h => he (h ▸ rfl)
      obtain ⟨block, snap, channels, hdeliver, rfl⟩ := Client.step_deliver hstep
      rw [Client.channels_runBlock, Observed.getElem?_deliver_ne hdeliver hji, hl]
  | fail j err =>
      obtain ⟨m, -, rfl⟩ := Client.step_fail hstep
      rw [Client.channels_runBlock, hl]

theorem Client.getElem?_run {s t : Client Date} {es : List (ClientEvent Date)}
    {i : Nat} {l : Listener (ChannelsBlock Date)}
    (hrun : run Client.step s es = some t) (hes : .deliver i ∉ es)
    (hl : s.channels.listeners[i]? = some l) :
    t.channels.listeners[i]? = some l :=
  run_invariant_of_forall (A := (· ≠ .deliver i))
    (I := fun s : Client Date => s.channels.listeners[i]? = some l)
    (fun _ _ _ he hstep hs => Client.getElem?_step hstep he hs) hrun
    (fun _ he => ne_of_mem_of_not_mem he hes) hl

namespace Send

/-- The block waiting for the first snapshot is the one that the call attached. -/
theorem key_waited (send : Send Date) :
    ∃ l, send.waited.channels.listeners[send.listener]? = some l ∧
      l.key = .createMessage send.message (some send.channel) := by
  obtain ⟨attached, hattach, hwaiting⟩ := run_cons_eq_some.mp send.reachesSnapshot
  obtain rfl := Option.some.inj hattach
  have hlast := Observed.getElem?_attach_self send.sent.channels
    (.createMessage send.message (some send.channel))
  exact ⟨_, Client.getElem?_run hwaiting send.noneDelivered hlast, rfl⟩

theorem writes_after (send : Send Date) :
    ∃ snap, send.firstSnapshot = snap.documents ∧
      send.after.writes = send.waited.writes ++
        (createMessageBlock send.message (some send.channel) (some snap) none).map
          (send.listener, ·) := by
  obtain ⟨l, hl, hkey⟩ := send.key_waited
  obtain ⟨block, snap, channels, hdeliver, hafter⟩ := Client.step_deliver send.delivers
  obtain ⟨m, hm, -, rfl, -, -⟩ := Observed.deliver_eq_some hdeliver
  obtain rfl : m = l := Option.some.inj (hm.symm.trans hl)
  refine ⟨snap, by simp only [firstSnapshot, listener, hdeliver], ?_⟩
  rw [hafter, Client.writes_runBlock_snapshot, hkey]
  rfl

/-- The first snapshot stores the message exactly when the channel's document
still carries what the channel value captured. -/
theorem stored_iff (send : Send Date) : send.Stored ↔ send.Unchanged := by
  obtain ⟨snap, hsnap, hwrites⟩ := send.writes_after
  refine forall₃_congr fun doc hdoc hid => ?_
  rw [← isChannel_iff_fields hid, hwrites]
  rw [hsnap] at hdoc
  constructor
  · rintro ⟨added, hadded, hmem⟩
    obtain rfl := List.append_cancel_left hadded
    obtain ⟨write, hwrite, heq⟩ := List.mem_map.mp hmem
    rw [createMessageBlock_snapshot] at hwrite
    obtain ⟨source, hsource, rfl⟩ := List.mem_map.mp hwrite
    obtain ⟨hsource, hmatch⟩ := List.mem_filter.mp hsource
    simp only [Prod.mk.injEq, Write.mk.injEq, true_and, and_true] at heq
    have hsame := List.inj_on_of_nodup_map snap.nodup hsource hdoc
      (documentID_eq_of_messagesOf_eq heq)
    exact hsame ▸ hmatch
  · intro hmatch
    refine ⟨_, rfl, List.mem_map.mpr ⟨_, ?_, rfl⟩⟩
    rw [createMessageBlock_snapshot]
    exact List.mem_map.mpr ⟨doc, List.mem_filter.mpr ⟨hdoc, hmatch⟩, rfl⟩

end Send

end

/-! ## Failing inputs

A channel `lobby`; another channel is created, or the last message of `lobby` is
edited, after a device has loaded the list.
-/

section

attribute [local instance] asciiText nanosecondDates

def channelFields (name lastMessage : String) (lastActivity : Timestamp) :
    Dictionary FieldValue := fun key =>
  if key = "name" then some (.string name)
  else if key = "lastMessage" then some (.string lastMessage)
  else if key = "lastActivity" then some (.timestamp lastActivity)
  else none

def lobby : QueryDocumentSnapshot where
  documentID := "lobby"
  data := channelFields "Lobby" "Let's go" tenSeconds
  isSegment := segments_lobby

def garden : QueryDocumentSnapshot where
  documentID := "garden"
  data := channelFields "Garden" "Good Night" twentySeconds

def editedLobby : QueryDocumentSnapshot where
  documentID := "lobby"
  data := channelFields "Lobby" "Have a nice day" twentySeconds
  isSegment := segments_lobby

def lobbySnapshot : QuerySnapshot where
  documents := [lobby]

def editedSnapshot : QuerySnapshot where
  documents := [editedLobby]

def lobbyChannel : Channel Int :=
  ⟨"lobby", "Lobby", some "Let's go", some 10000000000⟩

def resend : List (ClientEvent Int) :=
  [.createMessage greeting (some lobbyChannel), .deliver 0, .addDocument garden,
    .deliver 0]

theorem not_storedAtMostOnce_resend :
    ¬ Client.StoredAtMostOnce lobbySnapshot resend := by
  intro honce
  have hwrites : (run Client.step (Client.start lobbySnapshot) resend).map
      (fun s => (s.writesOf 0).length) = some 2 := by decide
  obtain ⟨s, hrun, hlength⟩ := Option.map_eq_some_iff.mp hwrites
  have hone := honce s hrun 0
  omega

def staleBefore : List (ClientEvent Int) := [.getAllChannels, .deliver 0]

def staleTapped : Client Int :=
  (run Client.step (Client.start lobbySnapshot) staleBefore).get (by decide)

theorem staleTapped_lists :
    staleTapped.lists = [(0, sorted
      (fun a b => decide (activityOf a > activityOf b)) [lobbyChannel])] := by
  rfl

def staleSend : Send Int where
  stored := lobbySnapshot
  before := staleBefore
  tapped := staleTapped
  reachesTap := (Option.some_get _).symm
  channel := lobbyChannel
  listed := ⟨_, by rw [staleTapped_lists]; exact List.mem_singleton_self _,
    (sorted_perm _ _).mem_iff.mpr (List.mem_singleton_self _)⟩
  between := [.change editedSnapshot]
  sent := (run Client.step staleTapped [.change editedSnapshot]).get rfl
  reachesSend := (Option.some_get _).symm
  message := greeting
  waiting := []
  waited := _
  reachesSnapshot := rfl
  noneDelivered := List.not_mem_nil
  after := _
  delivers := rfl

theorem not_stored_staleSend : ¬ staleSend.Stored := by
  intro hstored
  have hfirst : staleSend.firstSnapshot = [editedLobby] := rfl
  obtain ⟨added, hadded, hmem⟩ := hstored editedLobby (by simp [hfirst]) rfl
  have hunchanged : staleSend.after.writes = staleSend.waited.writes := by rfl
  rw [hunchanged, List.self_eq_append_right] at hadded
  rw [hadded] at hmem
  cases hmem

end

end Chatik
