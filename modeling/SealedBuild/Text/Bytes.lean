
/-!
# Bytes and text

Files and process outputs are bytes. Bytes are read as text either strictly, when they are valid
UTF-8 as a whole, or leniently: each maximal part that cannot start or continue a character becomes
one replacement character.
-/

namespace SealedBuild

/-- The content of a file or of an output stream. -/
abbrev Bytes := List UInt8

namespace Bytes

/-- The bytes of a text in UTF-8. -/
def ofString (s : String) : Bytes := s.toUTF8.data.toList

/-- The text that bytes encode, if they are valid UTF-8. -/
def text? (bytes : Bytes) : Option String := String.fromUTF8? ⟨bytes.toArray⟩

/-- The shape of a character's encoding, given by its first byte: the bounds of the second byte,
the number of bytes after the first, and the value that the first byte contributes. -/
def lead (b : UInt8) : Option (Nat × Nat × Nat × Nat) :=
  let n := b.toNat
  if n < 0xc2 then none
  else if n < 0xe0 then some (0x80, 0xbf, 1, n - 0xc0)
  else if n = 0xe0 then some (0xa0, 0xbf, 2, 0)
  else if n = 0xed then some (0x80, 0x9f, 2, 0xd)
  else if n < 0xf0 then some (0x80, 0xbf, 2, n - 0xe0)
  else if n = 0xf0 then some (0x90, 0xbf, 3, 0)
  else if n < 0xf4 then some (0x80, 0xbf, 3, n - 0xf0)
  else if n = 0xf4 then some (0x80, 0x8f, 3, 4)
  else none

/-- Reads continuation bytes: the number of bytes that fit, and the value if all of them do. -/
def continuation (low high : Nat) : Nat → Nat → Bytes → Nat × Option Nat
  | 0, value, _ => (0, some value)
  | _ + 1, _, [] => (0, none)
  | count + 1, value, b :: rest =>
    if low ≤ b.toNat ∧ b.toNat ≤ high then
      let (taken, result) := continuation 0x80 0xbf count (value * 64 + (b.toNat - 0x80)) rest
      (taken + 1, result)
    else (0, none)

/-- The first character of bytes that start with `b`, and the number of bytes after `b` that it
takes up. Bytes that form no character give the replacement character. -/
def firstChar (b : UInt8) (rest : Bytes) : Char × Nat :=
  if b.toNat < 0x80 then (Char.ofNat b.toNat, 0)
  else match lead b with
    | none => ('\ufffd', 0)
    | some (low, high, count, value) =>
      match continuation low high count value rest with
      | (taken, some code) => (Char.ofNat code, taken)
      | (taken, none) => ('\ufffd', taken)

/-- Reads bytes leniently. -/
def lenientChars : Bytes → List Char
  | [] => []
  | b :: rest =>
    let first := firstChar b rest
    first.1 :: lenientChars (rest.drop first.2)
termination_by bytes => bytes.length
decreasing_by simp only [List.length_drop, List.length_cons]; omega

/-- The text that bytes encode, with replacement characters where they encode none. -/
def lenientText (bytes : Bytes) : String := String.ofList (lenientChars bytes)

end Bytes

end SealedBuild
