import Chatik.Platform

/-!
# Channels and messages

The two values that the conversation screens show.  `Channel` is `Equatable`
with the equality that the compiler synthesises, all four fields in turn.
-/

namespace Chatik

structure Channel (Date : Type) where
  identifier : String
  name : String
  lastMessage : Option String
  lastActivity : Option Date

structure Message (Date : Type) where
  senderName : String
  senderId : String
  content : String
  created : Date

variable {Date : Type} [Unicode] [Instant Date]

def sameDate (a b : Date) : Bool := decide (a = b)

def Channel.same (a b : Channel Date) : Bool :=
  sameText a.identifier b.identifier &&
    sameText a.name b.name &&
    sameOptional sameText a.lastMessage b.lastMessage &&
    sameOptional sameDate a.lastActivity b.lastActivity

@[simp] theorem Channel.same_refl (channel : Channel Date) : channel.same channel = true := by
  obtain ⟨identifier, name, lastMessage, lastActivity⟩ := channel
  cases lastMessage <;> cases lastActivity <;>
    simp [Channel.same, sameOptional, sameDate]

theorem Channel.same_identifier {a b : Channel Date} (h : a.same b = true) :
    sameText a.identifier b.identifier = true := by
  simp only [Channel.same, Bool.and_eq_true] at h
  exact h.1.1.1

end Chatik
