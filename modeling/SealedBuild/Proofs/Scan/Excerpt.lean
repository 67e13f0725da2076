import SealedBuild.Proofs.Text.Encoding
import SealedBuild.Proofs.Text.Layout
import SealedBuild.Scan

/-!
# Excerpts of lines

An excerpt is cut by bytes, at the offset of the first character that is too many. That offset is a
boundary for characters of every width, since the bytes before it are those of the characters before
it; a text can be cut at such offsets and at no others.

Main statements: `before?_eq_some_iff` and `excerpt_of_line`.
-/

namespace SealedBuild

open Text

namespace Text

variable {s t : List Char} {offset : Nat}

/-! ### Boundaries -/

theorem byteLength_eq (s : List Char) :
    byteLength s = (Bytes.ofString (String.ofList s)).length := by
  rw [Bytes.ofString_eq_flatMap, String.toList_ofList]
  induction s with
  | nil => rfl
  | cons c rest ih =>
      rw [List.flatMap_cons, List.length_append, String.length_utf8EncodeChar, byteLength_cons, ih]

/-- A text is cut behind one of its beginnings, told by the number of bytes that it takes. -/
theorem before?_eq_some_iff : before? s offset = some t ↔ t <+: s ∧ byteLength t = offset := by
  constructor
  · intro cut
    induction s generalizing offset t with
    | nil =>
      by_cases atStart : offset = 0
      · obtain rfl : [] = t := by simpa [before?, atStart] using cut
        exact ⟨List.prefix_refl _, atStart.symm⟩
      · simp [before?, atStart] at cut
    | cons c rest ih =>
      by_cases atStart : offset = 0
      · obtain rfl : [] = t := by simpa [before?, atStart] using cut
        exact ⟨List.nil_prefix, atStart.symm⟩
      · by_cases inside : offset < c.utf8Size
        · simp [before?, atStart, inside] at cut
        · rw [before?, if_neg atStart, if_neg inside, Option.map_eq_some_iff] at cut
          obtain ⟨part, cut, rfl⟩ := cut
          obtain ⟨isPrefix, size⟩ := ih cut
          refine ⟨List.cons_prefix_cons.mpr ⟨rfl, isPrefix⟩, ?_⟩
          rw [byteLength_cons, size]
          omega
  · rintro ⟨⟨more, rfl⟩, rfl⟩
    exact before?_append t more

/-- A character of three bytes ends at the third one. -/
example : before? ['€', 'a'] 3 = some ['€'] ∧ before? ['€', 'a'] 2 = none := by decide

/-- The bytes of a text up to a boundary are those of the text before it. -/
theorem ofString_of_before? (cut : before? s offset = some t) :
    Bytes.ofString (String.ofList t) = (Bytes.ofString (String.ofList s)).take offset := by
  obtain ⟨⟨more, rfl⟩, rfl⟩ := before?_eq_some_iff.mp cut
  rw [byteLength_eq, Bytes.ofString_eq_flatMap, Bytes.ofString_eq_flatMap, String.toList_ofList,
    String.toList_ofList, List.flatMap_append, List.take_left]

end Text

namespace Scanner

/-! ### Long and short lines -/

theorem excerpt?_eq (line : String) : excerpt? line = some (excerpt line) :=
  (Option.some_get _).symm

theorem excerpt_of_le {line : String} (short : (trim line.toList).length ≤ maxExcerpt) :
    (excerpt line).toList = trim line.toList := by
  have whole := excerpt?_eq line
  rw [excerpt?, charIndices, getElem?_charIndicesFrom, List.getElem?_eq_none short] at whole
  rw [← Option.some.inj whole, String.toList_ofList]

/-- A long line is cut at the offset of the first character that is too many, which is where the
characters before it end. -/
theorem excerpt_of_lt {line : String} (long : maxExcerpt < (trim line.toList).length) :
    ∃ cut c, (charIndices (trim line.toList))[maxExcerpt]? = some (cut, c) ∧
      before? (trim line.toList) cut = some ((trim line.toList).take maxExcerpt) ∧
      (excerpt line).toList = (trim line.toList).take maxExcerpt ++ ['.', '.', '.'] := by
  obtain ⟨⟨cut, c⟩, found⟩ :
      ∃ entry, (charIndices (trim line.toList))[maxExcerpt]? = some entry := by
    rw [charIndices, getElem?_charIndicesFrom, List.getElem?_eq_getElem long]
    exact ⟨_, rfl⟩
  have part := before?_of_charIndices found
  have whole := excerpt?_eq line
  simp only [excerpt?, found, part, Option.map_some] at whole
  refine ⟨cut, c, found, part, ?_⟩
  rw [← Option.some.inj whole, String.toList_append, String.toList_ofList]
  rfl

end Scanner

/-- The excerpt of a line. There always is one: a line that is cut is cut between two characters.
What is left without the blanks at the ends is kept as it is if it has at most 160 characters, and
otherwise its first 160 characters are followed by three dots. -/
theorem excerpt_of_line (line : String) :
    ∃ kept, Trims line.toList kept ∧
      Scanner.excerpt? line = some (Scanner.excerpt line) ∧
      (kept.length ≤ 160 → (Scanner.excerpt line).toList = kept) ∧
      (160 < kept.length →
        (Scanner.excerpt line).toList = kept.take 160 ++ ['.', '.', '.'] ∧
        ∃ cut c, (charIndices kept)[160]? = some (cut, c) ∧
          Bytes.ofString (String.ofList (kept.take 160)) =
            (Bytes.ofString (String.ofList kept)).take cut) ∧
      (Scanner.excerpt line).length ≤ 163 ∧
      (∀ c, (Scanner.excerpt line).toList.head? = some c → isBlank c = false) ∧
      (Scanner.excerpt line = "" ↔ isBlankText line = true) := by
  have trims := trims_trim line.toList
  have blank_iff : isBlankText line = true ↔ trim line.toList = [] := by
    rw [trim_eq_iff, trims_nil_iff, isBlankText, List.all_eq_true]
  refine ⟨trim line.toList, trims, Scanner.excerpt?_eq line, Scanner.excerpt_of_le, ?_⟩
  by_cases short : (trim line.toList).length ≤ 160
  · have whole : (Scanner.excerpt line).toList = trim line.toList := Scanner.excerpt_of_le short
    refine ⟨fun long => absurd short (Nat.not_le_of_lt long), ?_, ?_, ?_⟩
    · rw [← String.length_toList, whole]
      omega
    · rw [whole]
      exact trims.first
    · rw [blank_iff, ← String.toList_eq_nil_iff, whole]
  · have long : 160 < (trim line.toList).length := Nat.lt_of_not_le short
    obtain ⟨cut, c, found, part, whole⟩ := Scanner.excerpt_of_lt long
    obtain ⟨first, rest, text⟩ : ∃ first rest, trim line.toList = first :: rest :=
      List.exists_cons_of_length_pos (Nat.zero_lt_of_lt long)
    refine ⟨fun _ => ⟨whole, cut, c, found, ofString_of_before? part⟩, ?_, ?_, ?_⟩
    · rw [← String.length_toList, whole, List.length_append, List.length_take]
      exact Nat.add_le_add_right (Nat.min_le_left _ _) 3
    · intro c head
      refine trims.first c ?_
      rwa [whole, text, Scanner.maxExcerpt, List.take_succ_cons, List.cons_append,
        List.head?_cons, ← List.head?_cons (l := rest), ← text] at head
    · rw [blank_iff, ← String.toList_eq_nil_iff, whole, text]
      simp [Scanner.maxExcerpt]

end SealedBuild
