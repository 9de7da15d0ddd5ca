import Chatik.Library.TableView
import Chatik.Messaging.Cells
import Chatik.Messaging.ConversationScreen

/-!
# The conversation screen and its table

`ConversationViewController` with its `messageTableView`.  The block that
`addAllMessages` hands to the service assigns `messagesList` and reloads the
table; both are logged with the listener, as it was before the delivery, whose
snapshot caused them.  Snapshots may reach the active listeners in any order.  UIKit
asks for the number of rows when it likes and for the cells of rows below the number
it was told last; a subscript out of range stops the program.
-/

namespace Chatik

open Chatik.Library FirebaseService

section

variable {Date : Type}

structure MessageTable (Date : Type) extends ConversationViewController Date where
  messageTableView : TableView (Message Date) MessageCell
  assignments : List (Listener Unit)
  reloads : List (Listener Unit)
  trapped : Bool

inductive MessageTableEvent where
  | sendFakeMessage
  | change (snap : QuerySnapshot)
  | deliver (listener : Nat)
  | fail (listener : Nat) (err : FirestoreError)
  | numberOfRowsInSection
  | cellForRowAt (row : Nat) (identifierForVendor : Option String)
      (inMessage : Option InMessageCell) (sendingMessage : Option SendingMessageCell)

namespace MessageTable

def sendFakeMessage (s : MessageTable Date) : MessageTable Date :=
  { s with toConversationViewController := s.addAllMessages }

@[simp] theorem stopped_sendFakeMessage (s : MessageTable Date) :
    s.sendFakeMessage.stopped = s.stopped :=
  ConversationViewController.stopped_addAllMessages _

def numberOfRowsInSection (s : MessageTable Date) : Nat := s.messagesList.length

def assign (s : MessageTable Date) (l : Listener Unit)
    (messages : List (Message Date)) : MessageTable Date :=
  { s with messagesList := messages, assignments := s.assignments ++ [l] }

def reloadData (s : MessageTable Date) (l : Listener Unit) : MessageTable Date :=
  { s with
    messageTableView := s.messageTableView.reloadData s.numberOfRowsInSection
    reloads := s.reloads ++ [l] }

variable [Instant Date]

/-- The table asks its data source before a message can arrive, and finds none. -/
def viewDidLoad (channel : Option (Channel Date)) (snap : QuerySnapshot) :
    MessageTable Date where
  toConversationViewController := ConversationViewController.viewDidLoad channel snap
  messageTableView := TableView.empty
  assignments := []
  reloads := []
  trapped := false

omit [Instant Date] in
theorem channel_viewDidLoad (channel : Option (Channel Date)) (snap : QuerySnapshot) :
    (viewDidLoad channel snap).channel = channel := by
  unfold viewDidLoad ConversationViewController.viewDidLoad
    ConversationViewController.addAllMessages
  cases getMessagesReference channel <;> rfl

omit [Instant Date] in
theorem stopped_viewDidLoad (channel : Option (Channel Date)) (snap : QuerySnapshot) :
    (viewDidLoad channel snap).stopped = [] :=
  ConversationViewController.stopped_addAllMessages _

/-- The block of `getAllMessages` with the completion that `addAllMessages` gives it. -/
def runMessagesBlock (s : MessageTable Date) (l : Listener Unit)
    (snap : Option QuerySnapshot) (err : Option FirestoreError) : MessageTable Date :=
  match getAllMessagesBlock snap err with
  | none => s
  | some messages => (s.assign l messages).reloadData l

variable [Unicode] [DateFormatter Date]

def messageCell (model : Message Date) (identifierForVendor : Option String)
    (inMessage : Option InMessageCell) (sendingMessage : Option SendingMessageCell) :
    MessageCell :=
  if sameText model.senderId (getDeviceUUID identifierForVendor) = false then
    .inMessage ((InMessageCell.dequeue inMessage).configure model)
  else .sendingMessage ((SendingMessageCell.dequeue sendingMessage).configure model)

def cellForRowAt (s : MessageTable Date) (row : Nat)
    (identifierForVendor : Option String) (inMessage : Option InMessageCell)
    (sendingMessage : Option SendingMessageCell) : MessageTable Date :=
  match s.messagesList[row]? with
  | none => { s with trapped := true }
  | some modelMessage => { s with
      messageTableView := s.messageTableView.display row modelMessage
        (messageCell modelMessage identifierForVendor inMessage sendingMessage) }

def perform (s : MessageTable Date) : MessageTableEvent → Option (MessageTable Date)
  | .sendFakeMessage => some s.sendFakeMessage
  | .change snap => some { s with messages := s.messages.change snap }
  | .deliver listener => do
      let l ← s.messages.listeners[listener]?
      let (_, snap, messages) ← s.messages.deliver listener
      if listener ∈ s.stopped then none
      else some (runMessagesBlock { s with messages := messages } l (some snap) none)
  | .fail listener err => do
      let l ← s.messages.listeners[listener]?
      if listener ∈ s.stopped then none
      else some (runMessagesBlock { s with stopped := listener :: s.stopped } l
        none (some err))
  | .numberOfRowsInSection =>
      some { s with messageTableView :=
        s.messageTableView.reloadData s.numberOfRowsInSection }
  | .cellForRowAt row identifierForVendor inMessage sendingMessage =>
      if row < s.messageTableView.numberOfRows then
        some (s.cellForRowAt row identifierForVendor inMessage sendingMessage)
      else none

def step (s : MessageTable Date) (e : MessageTableEvent) : Option (MessageTable Date) :=
  if s.trapped = true then none else s.perform e

/-! ## What one step does -/

theorem step_eq_some {s s' : MessageTable Date} {e : MessageTableEvent}
    (h : step s e = some s') : s.trapped = false ∧ s.perform e = some s' := by
  unfold step at h
  split at h
  · cases h
  · rename_i htrapped
    exact ⟨Bool.eq_false_iff.mpr htrapped, h⟩

theorem perform_deliver {s s' : MessageTable Date} {i : Nat}
    (h : s.perform (.deliver i) = some s') :
    ∃ l key snap messages, s.messages.listeners[i]? = some l ∧ i ∉ s.stopped ∧
      s.messages.deliver i = some (key, snap, messages) ∧
      s' = runMessagesBlock { s with messages := messages } l (some snap) none := by
  simp only [perform, Option.bind_eq_bind, Option.bind_eq_some_iff] at h
  obtain ⟨l, hl, ⟨key, snap, messages⟩, hdeliver, h⟩ := h
  split at h
  · cases h
  · rename_i hactive
    exact ⟨l, key, snap, messages, hl, hactive, hdeliver, (Option.some.inj h).symm⟩

theorem perform_fail {s s' : MessageTable Date} {i : Nat} {err : FirestoreError}
    (h : s.perform (.fail i err) = some s') :
    (∃ l, s.messages.listeners[i]? = some l) ∧ i ∉ s.stopped ∧
      s' = { s with stopped := i :: s.stopped } := by
  simp only [perform, Option.bind_eq_bind, Option.bind_eq_some_iff] at h
  obtain ⟨l, hl, h⟩ := h
  split at h
  · cases h
  · rename_i hactive
    exact ⟨⟨l, hl⟩, hactive, (Option.some.inj h).symm⟩

theorem perform_cellForRowAt {s s' : MessageTable Date} {row : Nat}
    {identifierForVendor : Option String} {inMessage : Option InMessageCell}
    {sendingMessage : Option SendingMessageCell}
    (h : s.perform (.cellForRowAt row identifierForVendor inMessage sendingMessage) =
      some s') :
    row < s.messageTableView.numberOfRows ∧
      s' = s.cellForRowAt row identifierForVendor inMessage sendingMessage := by
  simp only [perform] at h
  split at h
  · rename_i hrow
    exact ⟨hrow, (Option.some.inj h).symm⟩
  · cases h

omit [Unicode] [DateFormatter Date] in
theorem runMessagesBlock_snapshot (s : MessageTable Date) (l : Listener Unit)
    (snap : QuerySnapshot) :
    ∃ messages, s.runMessagesBlock l (some snap) none =
      (s.assign l messages).reloadData l := by
  unfold runMessagesBlock
  rw [getAllMessagesBlock_snapshot]
  exact ⟨_, rfl⟩

/-- Only an error stops a listener. -/
theorem stopped_step {s s' : MessageTable Date} {e : MessageTableEvent}
    (he : ∀ i err, e ≠ .fail i err) (hstep : step s e = some s') : s'.stopped = s.stopped := by
  have hperform := (step_eq_some hstep).2
  cases e with
  | sendFakeMessage =>
      obtain rfl := Option.some.inj hperform
      exact s.stopped_sendFakeMessage
  | change snap =>
      obtain rfl := Option.some.inj hperform
      rfl
  | deliver i =>
      obtain ⟨l, key, snap, messages, -, -, -, rfl⟩ := perform_deliver hperform
      obtain ⟨list, hblock⟩ := runMessagesBlock_snapshot { s with messages } l snap
      rw [hblock]
      rfl
  | fail i err => exact absurd rfl (he i err)
  | numberOfRowsInSection =>
      obtain rfl := Option.some.inj hperform
      rfl
  | cellForRowAt row identifierForVendor inMessage sendingMessage =>
      obtain ⟨-, rfl⟩ := perform_cellForRowAt hperform
      unfold cellForRowAt
      split <;> rfl

/-! ## The screen without its table -/

omit [Unicode] [DateFormatter Date] in
@[simp] theorem toConversationViewController_runMessagesBlock (s : MessageTable Date)
    (l : Listener Unit) (snap : Option QuerySnapshot) (err : Option FirestoreError) :
    (s.runMessagesBlock l snap err).toConversationViewController =
      s.toConversationViewController.runBlock snap err := by
  unfold runMessagesBlock ConversationViewController.runBlock
  cases (getAllMessagesBlock snap err : Option (List (Message Date))) <;> rfl

/-- A state reaches a listener only when no active one waits for an older one. -/
def InOrder (s : MessageTable Date) (e : MessageTableEvent) (_ : MessageTable Date) :
    Prop :=
  ∀ i, e = .deliver i → s.messages.oldestFirst s.stopped i = true

/-- While snapshots arrive in order, the screen takes the steps of
`ConversationViewController.step` and the table is silent. -/
theorem toConversationViewController_step {s s' : MessageTable Date}
    {e : MessageTableEvent} (hstep : step s e = some s') (horder : s.InOrder e s') :
    s'.toConversationViewController = s.toConversationViewController ∨
      ∃ e', ConversationViewController.step s.toConversationViewController e' =
        some s'.toConversationViewController := by
  have hperform := (step_eq_some hstep).2
  cases e with
  | sendFakeMessage =>
      obtain rfl := Option.some.inj hperform
      exact Or.inr ⟨.sendFakeMessage, rfl⟩
  | change snap =>
      obtain rfl := Option.some.inj hperform
      exact Or.inr ⟨.change snap, rfl⟩
  | deliver i =>
      obtain ⟨l, key, snap, messages, -, hactive, hdeliver, rfl⟩ :=
        perform_deliver hperform
      refine Or.inr ⟨.deliver i, ?_⟩
      simp only [ConversationViewController.step, hactive, horder i rfl, ↓reduceIte,
        hdeliver, toConversationViewController_runMessagesBlock]
      rfl
  | fail i err =>
      obtain ⟨⟨l, hl⟩, hactive, rfl⟩ := perform_fail hperform
      refine Or.inr ⟨.fail i err, ?_⟩
      simp only [ConversationViewController.step, hl, hactive, ↓reduceIte]
      rfl
  | numberOfRowsInSection =>
      obtain rfl := Option.some.inj hperform
      exact Or.inl rfl
  | cellForRowAt row identifierForVendor inMessage sendingMessage =>
      obtain ⟨-, rfl⟩ := perform_cellForRowAt hperform
      left
      unfold cellForRowAt
      split <;> rfl

theorem upToDate_step {s s' : MessageTable Date} {e : MessageTableEvent}
    (hstep : step s e = some s') (horder : s.InOrder e s')
    (h : s.toConversationViewController.UpToDate) :
    s'.toConversationViewController.UpToDate := by
  rcases toConversationViewController_step hstep horder with hsame | ⟨e', he'⟩
  · rw [hsame]
    exact h
  · exact ConversationViewController.upToDate_step he' h

/-! ## The rows are the messages -/

omit [Instant Date] in
theorem messageCell_shows (model : Message Date) (identifierForVendor : Option String)
    (inMessage : Option InMessageCell) (sendingMessage : Option SendingMessageCell) :
    (messageCell model identifierForVendor inMessage sendingMessage).Shows model := by
  unfold messageCell
  split
  · exact MessageCell.shows_inMessage _ model
  · exact MessageCell.shows_sendingMessage _ model

structure RowsMatch (s : MessageTable Date) : Prop where
  running : s.trapped = false
  agrees : s.messageTableView.Agrees MessageCell.Shows s.messagesList

omit [Unicode] [Instant Date] in
theorem rowsMatch_viewDidLoad (channel : Option (Channel Date))
    (snap : QuerySnapshot) : (viewDidLoad channel snap).RowsMatch := by
  refine ⟨rfl, ?_⟩
  rw [viewDidLoad, ConversationViewController.viewDidLoad,
    ConversationViewController.messagesList_addAllMessages]
  exact TableView.agrees_empty

omit [Instant Date] in
theorem RowsMatch.cellForRowAt {s : MessageTable Date} (h : s.RowsMatch) {row : Nat}
    (hrow : row < s.messageTableView.numberOfRows) (identifierForVendor : Option String)
    (inMessage : Option InMessageCell) (sendingMessage : Option SendingMessageCell) :
    (s.cellForRowAt row identifierForVendor inMessage sendingMessage).RowsMatch := by
  obtain ⟨modelMessage, hmodel⟩ := h.agrees.exists_model hrow
  unfold MessageTable.cellForRowAt
  rw [hmodel]
  exact ⟨h.running, h.agrees.display hmodel (messageCell_shows _ _ _ _)⟩

theorem rowsMatch_step {s s' : MessageTable Date} {e : MessageTableEvent}
    (hstep : step s e = some s') (h : s.RowsMatch) : s'.RowsMatch := by
  have hperform := (step_eq_some hstep).2
  cases e with
  | sendFakeMessage =>
      obtain rfl := Option.some.inj hperform
      refine ⟨h.running, ?_⟩
      simpa only [sendFakeMessage,
        ConversationViewController.messagesList_addAllMessages] using h.agrees
  | change snap =>
      obtain rfl := Option.some.inj hperform
      exact ⟨h.running, h.agrees⟩
  | deliver i =>
      obtain ⟨l, key, snap, messages, -, -, -, rfl⟩ := perform_deliver hperform
      obtain ⟨list, hblock⟩ := runMessagesBlock_snapshot { s with messages } l snap
      rw [hblock]
      -- the list is replaced and the table reloaded before any other callback
      exact ⟨h.running, TableView.agrees_reloadData s.messageTableView list⟩
  | fail i err =>
      obtain ⟨-, -, rfl⟩ := perform_fail hperform
      exact ⟨h.running, h.agrees⟩
  | numberOfRowsInSection =>
      obtain rfl := Option.some.inj hperform
      exact ⟨h.running, TableView.agrees_reloadData s.messageTableView s.messagesList⟩
  | cellForRowAt row identifierForVendor inMessage sendingMessage =>
      obtain ⟨hrow, rfl⟩ := perform_cellForRowAt hperform
      exact h.cellForRowAt hrow identifierForVendor inMessage sendingMessage

/-- After a run in which the snapshots arrive in order the rows are the messages of the
latest snapshot. -/
theorem rows_latest {channel : Option (Channel Date)} {snap : QuerySnapshot}
    {es : List MessageTableEvent} {s : MessageTable Date}
    (hrun : run step (viewDidLoad channel snap) es = some s)
    (horder : EveryStep step InOrder (viewDidLoad channel snap) es) :
    s.RowsMatch ∧ ∀ latest ∈ s.messages.latest, s.Shows latest := by
  have hmatch : s.RowsMatch :=
    run_invariant (I := RowsMatch) (fun _ _ _ hstep => rowsMatch_step hstep) hrun
      (rowsMatch_viewDidLoad channel snap)
  have hupToDate : s.toConversationViewController.UpToDate :=
    run_invariant_of_everyStep
      (I := fun s : MessageTable Date => s.toConversationViewController.UpToDate)
      (fun _ _ _ hin hstep => upToDate_step hstep hin) hrun horder
      (ConversationViewController.upToDate_viewDidLoad channel snap)
  exact ⟨hmatch, hupToDate.latest⟩

end MessageTable

end

end Chatik
