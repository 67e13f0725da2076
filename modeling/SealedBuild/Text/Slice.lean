
/-!
# Slices of a text

A place in a text is told by the number of bytes that the text before it takes in UTF-8. It is a
boundary if it lies between two characters or at an end of the text, and a text can be cut at its
boundaries only.
-/

namespace SealedBuild.Text

/-- The number of bytes that characters take. -/
def byteLength : List Char → Nat
  | [] => 0
  | c :: rest => c.utf8Size + byteLength rest

/-- The characters of a text, each with its offset, if the first one has the given offset. -/
def charIndicesFrom : Nat → List Char → List (Nat × Char)
  | _, [] => []
  | offset, c :: rest => (offset, c) :: charIndicesFrom (offset + c.utf8Size) rest

/-- The characters of a text, each with the number of bytes before it. -/
def charIndices (s : List Char) : List (Nat × Char) := charIndicesFrom 0 s

/-- The text before an offset, if that is a boundary. -/
def before? : List Char → Nat → Option (List Char)
  | [], offset => if offset = 0 then some [] else none
  | c :: rest, offset =>
    if offset = 0 then some []
    else if offset < c.utf8Size then none
    else (before? rest (offset - c.utf8Size)).map (c :: ·)

theorem byteLength_cons (c : Char) (rest : List Char) :
    byteLength (c :: rest) = c.utf8Size + byteLength rest := rfl

theorem getElem?_charIndicesFrom (offset : Nat) (s : List Char) (n : Nat) :
    (charIndicesFrom offset s)[n]? = s[n]?.map fun c => (offset + byteLength (s.take n), c) := by
  induction s generalizing offset n with
  | nil => rfl
  | cons c rest ih =>
    cases n with
    | zero => simp [charIndicesFrom, byteLength]
    | succ n => simp [charIndicesFrom, ih, byteLength_cons, Nat.add_assoc]

/-- A text can be cut behind any of its beginnings. -/
theorem before?_append (s t : List Char) : before? (s ++ t) (byteLength s) = some s := by
  induction s with
  | nil => cases t <;> rfl
  | cons c rest ih =>
    have written : c.utf8Size + byteLength rest ≠ 0 := by
      have := c.utf8Size_pos
      omega
    have fits : ¬ c.utf8Size + byteLength rest < c.utf8Size := by omega
    rw [List.cons_append, byteLength_cons, before?, if_neg written, if_neg fits,
      Nat.add_sub_cancel_left, ih, Option.map_some]

/-- The offset of a character is a boundary, with the characters that come earlier before it. -/
theorem before?_of_charIndices {s : List Char} {n cut : Nat} {c : Char}
    (found : (charIndices s)[n]? = some (cut, c)) : before? s cut = some (s.take n) := by
  rw [charIndices, getElem?_charIndicesFrom, Option.map_eq_some_iff] at found
  obtain ⟨_, -, eq⟩ := found
  obtain ⟨rfl, -⟩ := Prod.mk.inj eq
  have part := before?_append (s.take n) (s.drop n)
  rwa [List.take_append_drop, ← Nat.zero_add (byteLength _)] at part

end SealedBuild.Text
