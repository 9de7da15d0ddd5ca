import Chatik.Messaging.MessageTable

/-!
# One listener, one update

A change of the collection is a state that follows the one a listener was
attached in; the state that was current then reaches the listener too, but is no
change to it.  Every send attaches a further listener, so the conversation screen
updates once for each change exactly as long as it sends only when its earlier
listeners have stopped.
-/

namespace Chatik

open Chatik.Library FirebaseService

section

variable {Date : Type}

namespace MessageTable

def activeListeners (s : MessageTable Date) : List Nat :=
  (List.range s.messages.listeners.length).filter (· ∉ s.stopped)

/-- The next state that the listener receives is a change and stands at `n`. -/
def receives (n : Nat) (l : Listener Unit) : Bool :=
  decide (l.since < n ∧ l.next = n)

def assignmentsFor (s : MessageTable Date) (n : Nat) : Nat :=
  s.assignments.countP (receives n)

def reloadsFor (s : MessageTable Date) (n : Nat) : Nat :=
  s.reloads.countP (receives n)

/-- At most one listener is active, no change has led to two assignments of the
list or two reloads of the table, and a change that the active listener has
received has led to one of each. -/
structure UpdatesOnce (s : MessageTable Date) : Prop where
  oneListener : ∀ i ∈ s.activeListeners, ∀ j ∈ s.activeListeners, i = j
  atMostOnce : ∀ n, s.assignmentsFor n ≤ 1 ∧ s.reloadsFor n ≤ 1
  exactlyOnce : ∀ i ∈ s.activeListeners, ∀ l, s.messages.listeners[i]? = some l →
    ∀ n, l.since < n → n < l.next → s.assignmentsFor n = 1 ∧ s.reloadsFor n = 1

theorem mem_activeListeners {s : MessageTable Date} {i : Nat} :
    i ∈ s.activeListeners ↔ i < s.messages.listeners.length ∧ i ∉ s.stopped := by
  simp [activeListeners]

/-! ## Listeners that succeed one another -/

/-- Only the listener attached last may be active, and the log counts for every
change the listeners that have received it. -/
structure Successive (s : MessageTable Date) : Prop where
  reference : ∃ reference, getMessagesReference s.channel = some reference
  stopped : ∀ i, i + 1 < s.messages.listeners.length → i ∈ s.stopped
  attached : ∀ i ∈ s.stopped, i < s.messages.listeners.length
  successive : s.messages.Successive
  assigned : ∀ n, s.assignmentsFor n = s.messages.receivers n
  reloaded : s.reloads = s.assignments

theorem Successive.updatesOnce {s : MessageTable Date} (h : s.Successive) :
    s.UpdatesOnce := by
  have hreloads : ∀ n, s.reloadsFor n = s.messages.receivers n := fun n => by
    rw [← h.assigned n, reloadsFor, h.reloaded, assignmentsFor]
  have hlast : ∀ i ∈ s.activeListeners, i + 1 = s.messages.listeners.length := by
    intro i hi
    obtain ⟨hlt, hactive⟩ := mem_activeListeners.mp hi
    have hle := mt (h.stopped i) hactive
    omega
  refine ⟨fun i hi j hj => ?_, fun n => ?_, fun i hi l hl n hsince hnext => ?_⟩
  · exact Nat.succ.inj ((hlast i hi).trans (hlast j hj).symm)
  · rw [h.assigned n, hreloads n]
    exact ⟨h.successive.receivers_le_one n, h.successive.receivers_le_one n⟩
  · have hone : s.messages.receivers n = 1 :=
      Nat.le_antisymm (h.successive.receivers_le_one n)
        (Observed.receivers_pos (List.mem_of_getElem? hl) hsince hnext)
    exact ⟨(h.assigned n).trans hone, (hreloads n).trans hone⟩

theorem messages_sendFakeMessage {s : MessageTable Date}
    (h : ∃ reference, getMessagesReference s.channel = some reference) :
    s.sendFakeMessage.toConversationViewController =
      { s.toConversationViewController with messages := s.messages.attach () } := by
  obtain ⟨reference, href⟩ := h
  simp only [sendFakeMessage, ConversationViewController.addAllMessages, href]

/-- A send while a listener is active leaves two active listeners. -/
theorem not_updatesOnce_sendFakeMessage {s : MessageTable Date}
    (h : ∃ reference, getMessagesReference s.channel = some reference)
    (hstopped : ∀ i ∈ s.stopped, i < s.messages.listeners.length)
    {i : Nat} (hi : i ∈ s.activeListeners) : ¬ s.sendFakeMessage.UpdatesOnce := by
  intro hupdates
  obtain ⟨hlt, hactive⟩ := mem_activeListeners.mp hi
  have hlength : s.sendFakeMessage.messages.listeners.length =
      s.messages.listeners.length + 1 := by
    rw [messages_sendFakeMessage h]
    simp [Observed.attach]
  have hold : i ∈ s.sendFakeMessage.activeListeners := by
    rw [mem_activeListeners, stopped_sendFakeMessage]
    exact ⟨by omega, hactive⟩
  have hnew : s.messages.listeners.length ∈ s.sendFakeMessage.activeListeners := by
    rw [mem_activeListeners, stopped_sendFakeMessage]
    exact ⟨by omega, fun hmem => (hstopped _ hmem).false⟩
  have hsame := hupdates.oneListener i hold s.messages.listeners.length hnew
  omega

variable [Instant Date] [Unicode] [DateFormatter Date]

omit [Instant Date] [Unicode] [DateFormatter Date] in
theorem successive_viewDidLoad {channel : Option (Channel Date)} (snap : QuerySnapshot)
    (h : ∃ reference, getMessagesReference channel = some reference) :
    (viewDidLoad channel snap).Successive := by
  obtain ⟨reference, href⟩ := h
  have hview : (viewDidLoad channel snap).toConversationViewController =
      ⟨channel, [], (Observed.start snap).attach (), []⟩ := by
    simp only [viewDidLoad, ConversationViewController.viewDidLoad,
      ConversationViewController.addAllMessages, href]
  refine ⟨⟨reference, hview ▸ href⟩, fun i hi => ?_, fun i hi => ?_, ?_, fun n => ?_,
    rfl⟩
  · rw [hview] at hi
    exact absurd hi (by simp [Observed.attach, Observed.start])
  · rw [stopped_viewDidLoad] at hi
    cases hi
  · rw [hview]
    exact (Observed.successive_start snap).attach ()
  · rw [hview, Observed.receivers_attach]
    rfl

omit [Instant Date] [Unicode] [DateFormatter Date] in
theorem Successive.sendFakeMessage {s : MessageTable Date} (h : s.Successive)
    (hnone : s.activeListeners = []) : s.sendFakeMessage.Successive := by
  have hmessages := messages_sendFakeMessage h.reference
  refine ⟨?_, fun i hi => ?_, fun i hi => ?_, ?_, fun n => ?_, h.reloaded⟩
  · rw [hmessages]
    exact h.reference
  · rw [hmessages] at hi
    have hlt : i < s.messages.listeners.length := by
      simpa [Observed.attach] using hi
    rw [stopped_sendFakeMessage]
    by_contra hactive
    have hmem : i ∈ s.activeListeners := mem_activeListeners.mpr ⟨hlt, hactive⟩
    rw [hnone] at hmem
    cases hmem
  · rw [stopped_sendFakeMessage] at hi
    rw [hmessages]
    have hlt := h.attached i hi
    simp only [Observed.attach, List.length_append, List.length_singleton]
    omega
  · rw [hmessages]
    exact h.successive.attach ()
  · rw [hmessages, Observed.receivers_attach]
    exact h.assigned n

omit [Unicode] [DateFormatter Date] in
/-- The listener that receives a snapshot is the one attached last, and the update
that it causes is logged. -/
theorem Successive.runMessagesBlock {s : MessageTable Date} (h : s.Successive) {i : Nat}
    {l : Listener Unit} {key : Unit} {snap : QuerySnapshot}
    {messages : Observed Unit QuerySnapshot} (hl : s.messages.listeners[i]? = some l)
    (hactive : i ∉ s.stopped)
    (hdeliver : s.messages.deliver i = some (key, snap, messages)) :
    (MessageTable.runMessagesBlock { s with messages } l (some snap) none).Successive := by
  obtain ⟨list, hblock⟩ := runMessagesBlock_snapshot { s with messages } l snap
  obtain ⟨m, -, -, -, -, hlisteners⟩ := Observed.deliver_eq_some hdeliver
  have hlength : messages.listeners.length = s.messages.listeners.length := by
    rw [hlisteners, List.length_set]
  have hlast := mt (h.stopped i) hactive
  rw [hblock]
  refine ⟨h.reference, fun j hj => h.stopped j (hlength ▸ hj),
    fun j hj => hlength ▸ h.attached j hj,
    h.successive.deliver (by omega) hdeliver, fun n => ?_, ?_⟩
  · change (s.assignments ++ [l]).countP (receives n) = messages.receivers n
    rw [Observed.receivers_deliver hdeliver hl, ← h.assigned n, assignmentsFor,
      List.countP_append, List.countP_singleton]
    simp only [receives, decide_eq_true_eq]
  · change s.reloads ++ [l] = s.assignments ++ [l]
    rw [h.reloaded]

/-- A step keeps the listeners successive unless it sends while one is active. -/
theorem successive_step {s s' : MessageTable Date} {e : MessageTableEvent}
    (hstep : step s e = some s') (h : s.Successive)
    (hsend : e = .sendFakeMessage → s.activeListeners = []) : s'.Successive := by
  have hperform := (step_eq_some hstep).2
  cases e with
  | sendFakeMessage =>
      obtain rfl := Option.some.inj hperform
      exact h.sendFakeMessage (hsend rfl)
  | change snap =>
      obtain rfl := Option.some.inj hperform
      exact ⟨h.reference, h.stopped, h.attached, h.successive.change snap,
        h.assigned, h.reloaded⟩
  | deliver i =>
      obtain ⟨l, key, snap, messages, hl, hactive, hdeliver, rfl⟩ :=
        perform_deliver hperform
      exact h.runMessagesBlock hl hactive hdeliver
  | fail i err =>
      obtain ⟨⟨l, hl⟩, -, rfl⟩ := perform_fail hperform
      refine ⟨h.reference, fun j hj => List.mem_cons_of_mem i (h.stopped j hj),
        fun j hj => ?_, h.successive, h.assigned, h.reloaded⟩
      rcases List.mem_cons.mp hj with rfl | hj
      · exact (List.getElem?_eq_some_iff.mp hl).1
      · exact h.attached j hj
  | numberOfRowsInSection =>
      obtain rfl := Option.some.inj hperform
      exact ⟨h.reference, h.stopped, h.attached, h.successive, h.assigned, h.reloaded⟩
  | cellForRowAt row identifierForVendor inMessage sendingMessage =>
      obtain ⟨-, rfl⟩ := perform_cellForRowAt hperform
      unfold cellForRowAt
      split <;>
        exact ⟨h.reference, h.stopped, h.attached, h.successive, h.assigned,
          h.reloaded⟩

/-- On a channel with an identifier each change leads to one update in every state
of a run exactly if the run sends only when no listener of the screen is active. -/
theorem updatesOnce_iff (channel : Channel Date)
    (hidentifier : channel.identifier.length > 0) (snap : QuerySnapshot)
    (es : List MessageTableEvent) :
    ((viewDidLoad (some channel) snap).UpdatesOnce ∧
      EveryStep step (fun _ _ s' => s'.UpdatesOnce) (viewDidLoad (some channel) snap) es) ↔
      EveryStep step (fun s e _ => e = .sendFakeMessage → s.activeListeners = [])
        (viewDidLoad (some channel) snap) es := by
  have hstart : (viewDidLoad (some channel) snap).Successive :=
    successive_viewDidLoad snap ⟨_, if_pos hidentifier⟩
  rw [and_iff_right hstart.updatesOnce]
  have hagree : ∀ (s : MessageTable Date) e s', s.Successive → step s e = some s' →
      (s'.UpdatesOnce ↔ (e = .sendFakeMessage → s.activeListeners = [])) := by
    intro s e s' hs hstep
    constructor
    · rintro hupdates rfl
      obtain rfl := Option.some.inj (step_eq_some hstep).2
      refine List.eq_nil_iff_forall_not_mem.mpr fun i hi => ?_
      exact not_updatesOnce_sendFakeMessage hs.reference hs.attached hi hupdates
    · intro hsend
      exact (successive_step hstep hs hsend).updatesOnce
  exact everyStep_congr hagree
    (fun s e s' hs hstep hupdates =>
      successive_step hstep hs ((hagree s e s' hs hstep).mp hupdates))
    hstart es

end MessageTable

end

section

attribute [local instance] nanosecondDates asciiText universalClock

def quietLobby : Channel Int := ⟨"lobby", "Lobby", none, none⟩

/-- A listener that reports an error is replaced by the next send. -/
def replacedListener : List MessageTableEvent :=
  [.change storedMessages, .fail 0 ⟨"Missing or insufficient permissions."⟩,
    .sendFakeMessage]

theorem updatesOnce_replacedListener :
    (MessageTable.viewDidLoad (some quietLobby) unfinishedSnapshot).UpdatesOnce ∧
      EveryStep MessageTable.step (fun _ _ s' => s'.UpdatesOnce)
        (MessageTable.viewDidLoad (some quietLobby) unfinishedSnapshot)
        replacedListener := by
  refine (MessageTable.updatesOnce_iff quietLobby (by decide) unfinishedSnapshot
    replacedListener).mpr ?_
  refine fun s₁ h₁ => ⟨fun h => (by cases h), fun s₂ h₂ => ⟨fun h => (by cases h),
    fun s₃ _ => ⟨fun _ => ?_, trivial⟩⟩⟩
  obtain rfl := Option.some.inj h₁
  obtain rfl := Option.some.inj h₂
  rfl

/-- A send right after the screen has appeared, and one change after it. -/
def secondListener : List MessageTableEvent :=
  [.sendFakeMessage, .change storedMessages, .deliver 0, .deliver 1, .deliver 0,
    .deliver 1]

theorem not_updatesOnce_secondListener :
    ∃ s, run MessageTable.step
        (MessageTable.viewDidLoad (some quietLobby) unfinishedSnapshot) secondListener =
          some s ∧
      s.activeListeners = [0, 1] ∧ s.assignmentsFor 1 = 2 ∧ s.reloadsFor 1 = 2 ∧
      ¬ s.UpdatesOnce :=
  ⟨_, rfl, rfl, rfl, rfl, fun h => absurd (h.oneListener 0 (by decide) 1 (by decide))
    (by decide)⟩

end

end Chatik
