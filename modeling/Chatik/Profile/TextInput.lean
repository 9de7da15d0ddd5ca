import Chatik.Platform

/-!
# Editing the text of a field

UIKit describes an edit by an `NSRange` of UTF-16 offsets and a replacement.  A
range that ends inside a surrogate pair or behind the text is never proposed.
`Range(_:in:)` is stricter than that: both of its ends must be boundaries of
characters, so it can fail on a range that UIKit does propose.
-/

namespace Chatik

structure NSRange where
  location : Nat
  length : Nat

def utf16Width (scalar : Char) : Nat := if scalar.val < 0x10000 then 1 else 2

/-- The position of the scalar that begins at a UTF-16 offset. -/
def scalarIndex? : List Char → Nat → Option Nat
  | _, 0 => some 0
  | [], _ + 1 => none
  | scalar :: scalars, offset + 1 =>
      if utf16Width scalar ≤ offset + 1 then
        (scalarIndex? scalars (offset + 1 - utf16Width scalar)).map (· + 1)
      else none

def scalarRange? (text : String) (range : NSRange) : Option (Nat × Nat) := do
  let lower ← scalarIndex? text.toList range.location
  let upper ← scalarIndex? text.toList (range.location + range.length)
  some (lower, upper)

/-- `Range(range, in: text)`. -/
def characterRange? [Unicode] (text : String) (range : NSRange) :
    Option (Nat × Nat) := do
  let (lower, upper) ← scalarRange? text range
  if Unicode.isCharacterBoundary text.toList lower &&
      Unicode.isCharacterBoundary text.toList upper then
    some (lower, upper)
  else none

def replacingCharacters (text : String) (textRange : Nat × Nat)
    (replacement : String) : String :=
  String.ofList (text.toList.take textRange.1 ++ replacement.toList ++
    text.toList.drop textRange.2)

/-- The text that a field shows after an edit that the delegate allows. -/
def edited? (text : String) (range : NSRange) (replacement : String) :
    Option String :=
  (scalarRange? text range).map fun textRange =>
    replacingCharacters text textRange replacement

/-- On whole characters the field shows the text that the handler computes. -/
theorem edited?_of_characterRange? [Unicode] {text replacement : String} {range : NSRange}
    {textRange : Nat × Nat} (h : characterRange? text range = some textRange) :
    edited? text range replacement =
      some (replacingCharacters text textRange replacement) := by
  simp only [characterRange?, Option.bind_eq_bind, Option.bind_eq_some_iff,
    Option.ite_none_right_eq_some, Option.some.injEq] at h
  obtain ⟨scalars, hscalars, -, rfl⟩ := h
  rw [edited?, hscalars]
  rfl

end Chatik
