import Mathlib.Data.Int.Order.Basic
import Mathlib.Order.Lattice

/-!
# The platform under the program

What the program uses of Swift's standard library, of Foundation and of
`FIRTimestamp` without looking inside: the comparison of strings up to
canonical equivalence, the boundaries of the characters of a string, and the
instants behind a timestamp.  Each is a class, so that the definitions of the
program run on any implementation of it.  `Instant.epoch` is
`Date(timeIntervalSince1970: 0)`; `isCharacterBoundary` tells whether a grapheme
cluster begins at a position of a sequence of Unicode scalars.
-/

namespace Chatik

class Unicode where
  normalForm : String → String
  isCharacterBoundary : List Char → Nat → Bool

/-- Swift's `==` on strings: canonical equivalence. -/
def sameText [Unicode] (a b : String) : Bool :=
  decide (Unicode.normalForm a = Unicode.normalForm b)

@[simp] theorem sameText_refl [Unicode] (a : String) : sameText a a = true := by
  simp [sameText]

def sameOptional {α : Type*} (same : α → α → Bool) : Option α → Option α → Bool
  | none, none => true
  | some a, some b => same a b
  | _, _ => false

@[simp] theorem sameOptional_none_right {α : Type*} (same : α → α → Bool)
    (a : Option α) : sameOptional same a none = a.isNone := by
  cases a <;> rfl

@[simp] theorem sameOptional_some_some {α : Type*} (same : α → α → Bool)
    (a b : α) : sameOptional same (some a) (some b) = same a b := rfl

@[simp] theorem sameOptional_none_some {α : Type*} (same : α → α → Bool)
    (b : α) : sameOptional same none (some b) = false := rfl

/-! ## Timestamps and dates -/

/-- `FIRTimestamp`; the fields hold what its initialiser checks. -/
structure Timestamp where
  seconds : Int
  nanoseconds : Nat
  nanoseconds_lt : nanoseconds < 1000000000 := by decide
  earliest : -62135596800 ≤ seconds := by decide
  latest : seconds < 253402300800 := by decide
  deriving DecidableEq

class Instant (Date : Type) extends LinearOrder Date where
  epoch : Date
  dateValue : Timestamp → Date

/-! ## A concrete platform

Strings of ASCII text compare scalar by scalar and have a boundary at every
position; dates are counted in nanoseconds.
-/

@[reducible] def asciiText : Unicode where
  normalForm := id
  isCharacterBoundary := fun scalars position => decide (position ≤ scalars.length)

@[reducible] def nanosecondDates : Instant Int where
  toLinearOrder := Int.instLinearOrder
  epoch := 0
  dateValue := fun timestamp =>
    timestamp.seconds * 1000000000 + timestamp.nanoseconds

end Chatik
