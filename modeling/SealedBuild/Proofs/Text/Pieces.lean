import SealedBuild.Text.Pieces

/-!
# Pieces between separators

Cutting a text at a separator is what splitting a list at a member is for lists in general, and
gluing is intercalation. So the laws of these carry over: pieces that hold no separator come out of
a cut as they were glued together, and a text may be cut in two at any of its separators first.

Main statements: `cutAt_glue`, `cutAt_append_cons`, `append_cons_inj_of_count`, and for words at the
ends of pieces `suffix_iff_of_not_mem`, `exists_piece_prefix_iff` and `mem_dropLast_cutAt_iff`.
-/

namespace SealedBuild.Text

variable {separator : Char} {s piece : List Char} {pieces : List (List Char)}

theorem consPiece_eq_modifyHead (c : Char) (written : pieces ≠ []) :
    consPiece c pieces = pieces.modifyHead (c :: ·) := by
  cases pieces with
  | nil => exact absurd rfl written
  | cons piece rest => rfl

theorem cutAt_eq_splitOn (separator : Char) (s : List Char) :
    cutAt separator s = s.splitOn separator := by
  induction s with
  | nil => rfl
  | cons c rest ih =>
      rw [cutAt, List.splitOn_cons_eq_if_modifyHead, ih]
      simp only [beq_iff_eq]
      split
      · rfl
      · exact consPiece_eq_modifyHead c (List.splitOn_ne_nil separator rest)

theorem glue_eq_intercalate (separator : Char) (pieces : List (List Char)) :
    glue separator pieces = [separator].intercalate pieces := by
  induction pieces with
  | nil => rfl
  | cons piece rest ih =>
      cases rest with
      | nil => simp [glue, List.intercalate]
      | cons next more =>
          rw [glue, ih]
          simp [List.intercalate]

/-- A text may be cut in two at one of its separators first. -/
theorem cutAt_append_cons (separator : Char) (s rest : List Char) :
    cutAt separator (s ++ separator :: rest) = cutAt separator s ++ cutAt separator rest := by
  rw [cutAt_eq_splitOn, cutAt_eq_splitOn, cutAt_eq_splitOn, List.splitOn_append_cons_self]

/-- Pieces that hold no separator are found again in what they are glued to. -/
theorem cutAt_glue (clean : ∀ piece ∈ pieces, separator ∉ piece) (written : pieces ≠ []) :
    cutAt separator (glue separator pieces) = pieces := by
  rw [cutAt_eq_splitOn, glue_eq_intercalate, List.splitOn_intercalate separator clean written]

theorem not_mem_of_mem_cutAt (cut : piece ∈ cutAt separator s) : separator ∉ piece := by
  induction s generalizing piece with
  | nil =>
      obtain rfl := List.mem_singleton.mp cut
      exact List.not_mem_nil
  | cons c rest ih =>
      by_cases same : c = separator
      · rw [cutAt, if_pos same] at cut
        rcases List.mem_cons.mp cut with rfl | cut
        · exact List.not_mem_nil
        · exact ih cut
      · rw [cutAt, if_neg same] at cut
        cases later : cutAt separator rest with
        | nil => exact absurd later (cutAt_ne_nil separator rest)
        | cons first more =>
            rw [later] at cut ih
            rcases List.mem_cons.mp cut with rfl | cut
            · apply mt List.mem_cons.mp
              exact not_or.mpr ⟨Ne.symm same, ih List.mem_cons_self⟩
            · exact ih (List.mem_cons_of_mem _ cut)

/-- A text without a separator is its own only piece. -/
theorem cutAt_of_not_mem (clean : separator ∉ s) : cutAt separator s = [s] := by
  have alone : cutAt separator (glue separator [s]) = [s] :=
    cutAt_glue (List.forall_mem_singleton.mpr clean) (List.cons_ne_nil _ _)
  exact alone

/-- What comes after all separators is the last piece. -/
theorem getLast?_cutAt_append_cons (front : List Char) (clean : separator ∉ s) :
    (cutAt separator (front ++ separator :: s)).getLast? = some s := by
  rw [cutAt_append_cons, cutAt_of_not_mem clean, List.getLast?_concat]

/-- A glued text holds the separator and what its pieces hold. -/
theorem mem_glue {c : Char} (held : c ∈ glue separator pieces) :
    c = separator ∨ ∃ piece ∈ pieces, c ∈ piece := by
  induction pieces with
  | nil => cases held
  | cons piece rest ih =>
      cases rest with
      | nil => exact .inr ⟨piece, List.mem_cons_self, held⟩
      | cons next more =>
          rw [glue, List.mem_append, List.mem_cons] at held
          rcases held with first | same | later
          · exact .inr ⟨piece, List.mem_cons_self, first⟩
          · exact .inl same
          · obtain same | ⟨other, member, held⟩ := ih later
            · exact .inl same
            · exact .inr ⟨other, List.mem_cons_of_mem _ member, held⟩

/-- A joined text is as long as its parts and the separators between them. -/
theorem utf8ByteSize_intercalate (separator first part : String) (count : Nat) :
    (separator.intercalate (first :: List.replicate count part)).utf8ByteSize =
      first.utf8ByteSize + count * (separator.utf8ByteSize + part.utf8ByteSize) := by
  induction count generalizing first with
  | zero => simp
  | succ count ih =>
      rw [List.replicate_succ, String.intercalate_cons_cons, String.utf8ByteSize_append,
        String.utf8ByteSize_append, ih part, Nat.succ_mul]
      omega

/-- Pieces may be glued in two lots. -/
theorem glue_append {more : List (List Char)} (written : pieces ≠ []) (written' : more ≠ []) :
    glue separator (pieces ++ more) =
      glue separator pieces ++ separator :: glue separator more := by
  induction pieces with
  | nil => exact absurd rfl written
  | cons first others ih =>
      cases others with
      | nil =>
          cases more with
          | nil => exact absurd rfl written'
          | cons next later => rfl
      | cons next later =>
          have glued := ih (List.cons_ne_nil next later)
          rw [List.cons_append] at glued
          rw [List.cons_append, List.cons_append, glue, glued, glue, List.append_assoc,
            List.cons_append]

/-- The last piece stands behind a separator unless it is the only one. -/
theorem glue_concat (separator : Char) (written : pieces ≠ []) (piece : List Char) :
    glue separator (pieces ++ [piece]) = glue separator pieces ++ separator :: piece :=
  glue_append written (List.cons_ne_nil piece [])

/-- A text with as many separators before a cut is cut in the same way. -/
theorem append_cons_inj_of_count {before after before' after' : List Char}
    (same : before ++ separator :: after = before' ++ separator :: after')
    (counts : before.count separator = before'.count separator) :
    before = before' ∧ after = after' := by
  induction before generalizing before' with
  | nil =>
      cases before' with
      | nil => exact ⟨rfl, (List.cons.inj same).2⟩
      | cons c rest =>
          obtain rfl := (List.cons.inj same).1
          simp at counts
  | cons c rest ih =>
      cases before' with
      | nil =>
          obtain rfl := (List.cons.inj same).1
          simp at counts
      | cons c' rest' =>
          obtain ⟨rfl, tails⟩ := List.cons.inj same
          have counts' : rest.count separator = rest'.count separator := by
            simpa [List.count_cons] using counts
          obtain ⟨rfl, rfl⟩ := ih tails counts'
          exact ⟨rfl, rfl⟩

/-- Where a text ends with a separator and a piece, that is its last piece. -/
theorem cons_suffix_append_cons_iff {front after after' : List Char} (clean : separator ∉ after)
    (clean' : separator ∉ after') :
    separator :: after <:+ front ++ separator :: after' ↔ after = after' := by
  constructor
  · rintro ⟨front', same⟩
    have counts := congrArg (List.count separator) same
    simp only [List.count_append, List.count_cons_self, List.count_eq_zero.mpr clean,
      List.count_eq_zero.mpr clean'] at counts
    exact (append_cons_inj_of_count same (by omega)).2
  · rintro rfl
    exact List.suffix_append front _

/-! ### Words at the ends of pieces -/

section Words

variable {rest word : List Char}

/-- The pieces at the end of a text are the pieces of a text that starts where one of them does. -/
theorem cutAt_suffix_iff : cutAt separator rest <:+ cutAt separator s ↔
    rest = s ∨ separator :: rest <:+ s := by
  constructor
  · rintro ⟨front, cut⟩
    have whole := glue_cutAt separator s
    rw [← cut] at whole
    by_cases empty : front = []
    · rw [empty, List.nil_append, glue_cutAt] at whole
      exact .inl whole
    · rw [glue_append empty (cutAt_ne_nil separator rest), glue_cutAt] at whole
      exact .inr ⟨_, whole⟩
  · rintro (rfl | ⟨front, rfl⟩)
    · exact List.suffix_refl _
    · rw [cutAt_append_cons]
      exact List.suffix_append _ _

/-- Every end of the pieces of a text is cut from a text. -/
theorem exists_cutAt_eq_of_suffix (ending : pieces <:+ cutAt separator s) (written : pieces ≠ []) :
    ∃ rest, cutAt separator rest = pieces :=
  ⟨glue separator pieces,
    cutAt_glue (fun _ held => not_mem_of_mem_cutAt (ending.subset held)) written⟩

/-- The first piece is what stands before the first separator. -/
theorem cutAt_cases (separator : Char) (s : List Char) :
    (separator ∉ s ∧ cutAt separator s = [s]) ∨
      ∃ first rest, separator ∉ first ∧ s = first ++ separator :: rest ∧
        cutAt separator s = first :: cutAt separator rest := by
  by_cases held : separator ∈ s
  · obtain ⟨first, rest, rfl, clean⟩ := List.eq_append_cons_of_mem held
    refine .inr ⟨first, rest, clean, rfl, ?_⟩
    rw [cutAt_append_cons, cutAt_of_not_mem clean, List.singleton_append]
  · exact .inl ⟨held, cutAt_of_not_mem held⟩

/-- What holds no separator stands at the front of a text if it stands at the front of its first
piece. -/
theorem prefix_iff_of_not_mem (clean : separator ∉ word) :
    word <+: s ↔ ∃ first more, cutAt separator s = first :: more ∧ word <+: first := by
  obtain ⟨-, cut⟩ | ⟨first, rest, -, rfl, cut⟩ := cutAt_cases separator s
  · simp [cut]
  · rw [cut]
    constructor
    · intro front
      refine ⟨first, _, rfl, ?_⟩
      rcases Nat.lt_or_ge first.length word.length with longer | shorter
      · have beyond : first ++ [separator] <+: word := by
          refine List.prefix_of_prefix_length_le ⟨rest, by simp⟩ front ?_
          rw [List.length_append]
          exact longer
        exact absurd (beyond.subset (by simp)) clean
      · exact List.prefix_of_prefix_length_le front (List.prefix_append _ _) shorter
    · rintro ⟨_, _, ⟨⟩, front⟩
      exact front.trans (List.prefix_append _ _)

/-- What holds no separator stands at the end of a text if it stands at the end of its last
piece. -/
theorem suffix_iff_of_not_mem (clean : separator ∉ word) :
    word <:+ s ↔ ∃ last, (cutAt separator s).getLast? = some last ∧ word <:+ last := by
  obtain ⟨init, last, cut⟩ : ∃ init last, cutAt separator s = init ++ [last] :=
    ⟨_, _, (List.dropLast_concat_getLast (cutAt_ne_nil separator s)).symm⟩
  have whole := glue_cutAt separator s
  rw [cut, List.getLast?_concat]
  simp only [Option.some.injEq, exists_eq_left']
  rw [cut] at whole
  by_cases single : init = []
  · subst single
    obtain rfl : last = s := whole
    rfl
  · rw [glue_concat separator single] at whole
    rw [← whole]
    constructor
    · intro ending
      rcases Nat.lt_or_ge last.length word.length with longer | shorter
      · have beyond : separator :: last <:+ word :=
          List.suffix_of_suffix_length_le (List.suffix_append _ _) ending longer
        exact absurd (beyond.subset List.mem_cons_self) clean
      · refine List.suffix_of_suffix_length_le ending ?_ shorter
        exact (List.suffix_cons _ _).trans (List.suffix_append _ _)
    · intro ending
      exact ending.trans ((List.suffix_cons _ _).trans (List.suffix_append _ _))

/-- What holds no separator stands in front of the first one if it is the first of several
pieces. -/
theorem concat_prefix_iff_of_not_mem (clean : separator ∉ word) :
    word ++ [separator] <+: s ↔ ∃ more, more ≠ [] ∧ cutAt separator s = word :: more := by
  constructor
  · rintro ⟨rest, rfl⟩
    refine ⟨cutAt separator rest, cutAt_ne_nil separator rest, ?_⟩
    rw [List.append_assoc, List.singleton_append, cutAt_append_cons, cutAt_of_not_mem clean,
      List.singleton_append]
  · rintro ⟨more, written, cut⟩
    have whole := glue_cutAt separator s
    rw [cut, ← List.singleton_append, glue_append (List.cons_ne_nil _ _) written] at whole
    exact ⟨glue separator more, by rw [← whole]; simp [glue]⟩

/-- A piece starts with a word if the word stands where the piece starts. -/
theorem exists_piece_prefix_iff (clean : separator ∉ word) :
    (∃ rest, cutAt separator rest <:+ cutAt separator s ∧ word <+: rest) ↔
      ∃ piece ∈ cutAt separator s, word <+: piece := by
  constructor
  · rintro ⟨rest, ending, starts⟩
    obtain ⟨first, more, cut, front⟩ := (prefix_iff_of_not_mem clean).mp starts
    exact ⟨first, ending.subset (cut ▸ List.mem_cons_self), front⟩
  · rintro ⟨piece, held, front⟩
    obtain ⟨before, after, cut⟩ := List.append_of_mem held
    obtain ⟨rest, cut'⟩ : ∃ rest, cutAt separator rest = piece :: after :=
      exists_cutAt_eq_of_suffix ⟨before, cut.symm⟩ (List.cons_ne_nil _ _)
    have starts := (prefix_iff_of_not_mem clean).mpr ⟨piece, after, cut', front⟩
    exact ⟨rest, cut' ▸ ⟨before, cut.symm⟩, starts⟩

/-- A word is a piece before the last one if it stands where the piece starts, with a separator
behind it. -/
theorem mem_dropLast_cutAt_iff (clean : separator ∉ word) :
    (∃ rest, cutAt separator rest <:+ cutAt separator s ∧ word ++ [separator] <+: rest) ↔
      word ∈ (cutAt separator s).dropLast := by
  simp only [concat_prefix_iff_of_not_mem clean]
  constructor
  · rintro ⟨rest, ⟨before, cut⟩, more, written, cut'⟩
    rw [← cut, cut', List.dropLast_append_of_ne_nil (List.cons_ne_nil _ _),
      List.dropLast_cons_of_ne_nil written]
    exact List.mem_append_right _ List.mem_cons_self
  · intro held
    obtain ⟨before, after, eq⟩ := List.append_of_mem held
    have written := cutAt_ne_nil separator s
    have cut : cutAt separator s =
        before ++ word :: (after ++ [(cutAt separator s).getLast written]) := by
      rw [← List.cons_append, ← List.append_assoc, ← eq, List.dropLast_concat_getLast]
    obtain ⟨rest, cut'⟩ :=
      exists_cutAt_eq_of_suffix (s := s) ⟨before, cut.symm⟩ (List.cons_ne_nil _ _)
    exact ⟨rest, cut' ▸ ⟨before, cut.symm⟩, _, by simp, cut'⟩

end Words

end SealedBuild.Text
