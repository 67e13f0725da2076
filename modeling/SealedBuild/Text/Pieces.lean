
/-!
# Cutting text at separators

A text with `n` separators has `n + 1` pieces, some of which may be empty. Paths, image references
and the tables of character properties are all read piece by piece.

Main statement: `glue_cutAt`, which says that gluing the pieces with the separator gives the text
back.
-/

namespace SealedBuild.Text

/-- Adds a character in front of the first piece. -/
def consPiece (c : Char) : List (List Char) → List (List Char)
  | [] => [[c]]
  | piece :: rest => (c :: piece) :: rest

/-- Cuts a text at every occurrence of the separator. -/
def cutAt (separator : Char) : List Char → List (List Char)
  | [] => [[]]
  | c :: rest =>
    if c = separator then [] :: cutAt separator rest else consPiece c (cutAt separator rest)

/-- Joins pieces, with the separator between neighbours. -/
def glue (separator : Char) : List (List Char) → List Char
  | [] => []
  | [piece] => piece
  | piece :: next :: rest => piece ++ separator :: glue separator (next :: rest)

theorem cutAt_ne_nil (separator : Char) (s : List Char) : cutAt separator s ≠ [] := by
  cases s with
  | nil => simp [cutAt]
  | cons c rest =>
    by_cases h : c = separator
    · simp [cutAt, h]
    · cases hr : cutAt separator rest <;> simp [cutAt, h, consPiece, hr]

theorem glue_consPiece (separator c : Char) {pieces : List (List Char)} (h : pieces ≠ []) :
    glue separator (consPiece c pieces) = c :: glue separator pieces := by
  match pieces with
  | [] => exact absurd rfl h
  | [piece] => rfl
  | piece :: next :: rest => rfl

theorem glue_nil_cons (separator : Char) {pieces : List (List Char)} (h : pieces ≠ []) :
    glue separator ([] :: pieces) = separator :: glue separator pieces := by
  match pieces with
  | [] => exact absurd rfl h
  | piece :: rest => rfl

theorem glue_cutAt (separator : Char) (s : List Char) :
    glue separator (cutAt separator s) = s := by
  induction s with
  | nil => rfl
  | cons c rest ih =>
    by_cases h : c = separator
    · simp [cutAt, h, glue_nil_cons separator (cutAt_ne_nil separator rest), ih]
    · simp [cutAt, h, glue_consPiece separator c (cutAt_ne_nil separator rest), ih]

/-- The last piece is empty only if nothing follows the last separator. -/
theorem getLast?_eq_separator_of_cutAt (separator : Char) {s : List Char} (h : s ≠ [])
    (last : (cutAt separator s).getLast? = some []) : s.getLast? = some separator := by
  induction s with
  | nil => exact absurd rfl h
  | cons c rest ih =>
    cases hr : cutAt separator rest with
    | nil => exact absurd hr (cutAt_ne_nil separator rest)
    | cons piece more =>
      by_cases hrest : rest = []
      · subst hrest
        by_cases hc : c = separator
        · simp [hc]
        · simp [cutAt, hc, consPiece] at last
      · have tail : (cutAt separator rest).getLast? = some [] := by
          by_cases hc : c = separator
          · simpa [cutAt, hc, hr, List.getLast?_cons_cons] using last
          · cases more with
            | nil => simp [cutAt, hc, hr, consPiece] at last
            | cons next others =>
              simpa [cutAt, hc, hr, consPiece, List.getLast?_cons_cons] using last
        rw [List.getLast?_cons_of_ne_nil hrest, ih hrest tail]

/-- Whether `part` occurs somewhere in `s`. -/
def occursIn (part : List Char) : List Char → Bool
  | [] => part.isEmpty
  | c :: rest => part.isPrefixOf (c :: rest) || occursIn part rest

theorem occursIn_iff_isInfix {part s : List Char} : occursIn part s = true ↔ part <:+: s := by
  induction s with
  | nil => simp [occursIn]
  | cons c rest ih =>
    rw [occursIn, Bool.or_eq_true, List.isPrefixOf_iff_prefix, ih, List.infix_cons_iff]

/-- Whether the text `part` occurs somewhere in the text `s`. -/
def contains (s part : String) : Bool := occursIn part.toList s.toList

/-- If something occurs in a text, so does its end. -/
theorem contains_of_contains_append {s before part : String}
    (held : contains s (before ++ part) = true) : contains s part = true := by
  rw [contains, occursIn_iff_isInfix] at held ⊢
  rw [String.toList_append] at held
  exact (List.suffix_append _ _).isInfix.trans held

end SealedBuild.Text
