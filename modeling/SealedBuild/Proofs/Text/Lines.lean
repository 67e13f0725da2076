import SealedBuild.Proofs.Text.Encoding
import SealedBuild.Query

/-!
# Lines of texts and of their bytes

A text is cut into lines from the front: what stands before the first line feed is a line, and the
rest is cut in the same way. UTF-8 writes a line feed and a carriage return as one byte each, and
uses these bytes for nothing else, so that the bytes of a text have the lines of the text.

Main statements: `splitLines_ofString`, the lines of the bytes of a text, and `linesOf_withFeeds`,
the lines of a text that was put together from lines.
-/

namespace SealedBuild.Text

variable {α : Type} [DecidableEq α] {lf cr : α} {line : List α}

/-- What stands before the first line feed is a line. -/
theorem rawLines_append_cons (clean : lf ∉ line) (rest : List α) :
    rawLines lf (line ++ lf :: rest) = (line, true) :: rawLines lf rest := by
  induction line with
  | nil => simp [rawLines]
  | cons a line ih =>
    obtain ⟨other, clean⟩ := not_or.mp (mt List.mem_cons.mpr clean)
    rw [List.cons_append, rawLines, if_neg (Ne.symm other), ih clean]

/-- Without a line feed there is one line, which has not ended. -/
theorem rawLines_of_not_mem (clean : lf ∉ line) (written : line ≠ []) :
    rawLines lf line = [(line, false)] := by
  induction line with
  | nil => exact absurd rfl written
  | cons a line ih =>
    obtain ⟨other, clean⟩ := not_or.mp (mt List.mem_cons.mpr clean)
    rw [rawLines, if_neg (Ne.symm other)]
    cases line with
    | nil => rfl
    | cons b line => rw [ih clean (by simp)]

theorem splitLines_append_cons (clean : lf ∉ line) (rest : List α) :
    splitLines lf cr (line ++ lf :: rest) = dropReturn cr line :: splitLines lf cr rest := by
  rw [splitLines, rawLines_append_cons clean]
  rfl

theorem splitLines_of_not_mem (clean : lf ∉ line) (written : line ≠ []) :
    splitLines lf cr line = [line] := by
  rw [splitLines, rawLines_of_not_mem clean written]
  rfl

/-- Induction over the lines of a text: it is empty, or it has one line without an end, or there is
a line before the rest of it. -/
@[elab_as_elim]
theorem inductionOnLines (lf : α) {motive : List α → Prop} (nil : motive [])
    (last : ∀ line, lf ∉ line → line ≠ [] → motive line)
    (cons : ∀ line rest, lf ∉ line → motive rest → motive (line ++ lf :: rest))
    (s : List α) : motive s := by
  by_cases more : lf ∈ s
  · obtain ⟨line, rest, eq, clean⟩ := List.eq_append_cons_of_mem more
    rw [eq]
    exact cons line rest clean (inductionOnLines lf nil last cons rest)
  · by_cases empty : s = []
    · exact empty ▸ nil
    · exact last s more empty
termination_by s.length
decreasing_by rw [eq, List.length_append, List.length_cons]; omega

theorem dropReturn_subset (cr : α) (line : List α) : dropReturn cr line ⊆ line := by
  unfold dropReturn
  split
  · exact List.dropLast_subset line
  · exact List.Subset.refl line

/-- No line holds a line feed. -/
theorem not_mem_of_mem_splitLines {s : List α} (held : line ∈ splitLines lf cr s) : lf ∉ line := by
  induction s using inductionOnLines lf with
  | nil => cases held
  | last s clean written =>
    rw [splitLines_of_not_mem clean written, List.mem_singleton] at held
    exact held ▸ clean
  | cons first rest clean ih =>
    rw [splitLines_append_cons clean] at held
    rcases List.mem_cons.mp held with rfl | later
    · exact fun mem => clean (dropReturn_subset cr first mem)
    · exact ih later

/-- Lines that are put together, each with a line feed after it, are found again; a carriage return
at the end of one of them then counts as part of the line end. -/
theorem splitLines_flatMap {lines : List (List α)} (clean : ∀ line ∈ lines, lf ∉ line) :
    splitLines lf cr (lines.flatMap fun line => line ++ [lf]) = lines.map (dropReturn cr) := by
  induction lines with
  | nil => rfl
  | cons line lines ih =>
    obtain ⟨first, others⟩ := List.forall_mem_cons.mp clean
    rw [List.flatMap_cons, List.append_assoc, List.singleton_append, splitLines_append_cons first,
      ih others, List.map_cons]

/-- Lines with a line feed after each of them. -/
def withFeeds (lines : List String) : String := String.join (lines.map fun line => line ++ "\n")

/-- The lines of a text that was put together from lines. -/
theorem linesOf_withFeeds {lines : List String} (clean : ∀ line ∈ lines, '\n' ∉ line.toList) :
    linesOf (withFeeds lines) =
      lines.map fun line => String.ofList (dropReturn '\r' line.toList) := by
  have joined : (withFeeds lines).toList =
      (lines.map String.toList).flatMap fun line => line ++ ['\n'] := by
    rw [withFeeds, String.toList_join, List.flatMap_map, List.flatMap_map]
    simp
  have clean' : ∀ line ∈ lines.map String.toList, '\n' ∉ line := by
    simpa using clean
  rw [linesOf, Text.lines, joined, splitLines_flatMap clean', List.map_map, List.map_map]
  rfl

/-- A line is blank with a carriage return at its end if it is blank without. -/
theorem isBlankText_dropReturn (line : String) :
    isBlankText (String.ofList (dropReturn '\r' line.toList)) = isBlankText line := by
  rw [isBlankText, isBlankText, String.toList_ofList, dropReturn]
  split
  · rename_i last
    obtain ⟨init, eq⟩ := List.getLast?_eq_some_iff.mp last
    rw [eq, List.dropLast_concat, List.all_append]
    simp [isBlank]
  · rfl

/-- No line of a text that was put together is written on if all lines were blank. -/
theorem writtenLines_withFeeds_eq_nil_iff {lines : List String}
    (clean : ∀ line ∈ lines, '\n' ∉ line.toList) :
    writtenLines (withFeeds lines) = [] ↔ ∀ line ∈ lines, isBlankText line = true := by
  rw [writtenLines, linesOf_withFeeds clean, List.filter_eq_nil_iff]
  simp [isBlankText_dropReturn]

end SealedBuild.Text

namespace SealedBuild.Bytes

open Text

theorem feed_mem_encoded_iff {s : List Char} : 10 ∈ encoded s ↔ '\n' ∈ s :=
  mem_encoded_iff rfl (by decide)

theorem feed_mem_ofString_iff {s : String} : 10 ∈ ofString s ↔ '\n' ∈ s.toList := by
  rw [ofString_eq_flatMap, ← encoded, feed_mem_encoded_iff]

/-- A carriage return is dropped from the bytes of a text as it is from the text. -/
theorem dropReturn_encoded (s : List Char) :
    dropReturn 13 (encoded s) = encoded (dropReturn '\r' s) := by
  by_cases last : s.getLast? = some '\r'
  · obtain ⟨init, rfl⟩ := List.getLast?_eq_some_iff.mp last
    have one : encoded ['\r'] = [13] := rfl
    simp [dropReturn, encoded_append, one]
  · have last' : (encoded s).getLast? ≠ some 13 :=
      mt (getLast?_encoded_eq_some_iff rfl (by decide)).mp last
    rw [dropReturn, dropReturn, if_neg last, if_neg last']

theorem splitLines_encoded (s : List Char) :
    splitLines 10 13 (encoded s) = (Text.lines s).map encoded := by
  rw [Text.lines]
  induction s using inductionOnLines '\n' with
  | nil => rfl
  | last line clean written =>
    have written' : encoded line ≠ [] := by
      cases line with
      | nil => exact absurd rfl written
      | cons c line => simp [encoded]
    rw [splitLines_of_not_mem clean written,
      splitLines_of_not_mem (mt feed_mem_encoded_iff.mp clean) written']
    rfl
  | cons line rest clean ih =>
    have bytes : encoded (line ++ '\n' :: rest) = encoded line ++ 10 :: encoded rest :=
      encoded_append line ('\n' :: rest)
    rw [bytes, splitLines_append_cons clean,
      splitLines_append_cons (mt feed_mem_encoded_iff.mp clean), ih, dropReturn_encoded,
      List.map_cons]

/-- The bytes of a text have the lines of the text. -/
theorem splitLines_ofString (s : String) :
    splitLines 10 13 (ofString s) = (linesOf s).map ofString := by
  rw [ofString_eq_flatMap, ← encoded, splitLines_encoded, linesOf, List.map_map]
  exact List.map_congr_left fun line _ => (ofString_ofList line).symm

end SealedBuild.Bytes
