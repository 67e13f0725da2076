import Mathlib.Data.List.DropRight
import SealedBuild.Proofs.Text.Lines

/-!
# What lines and trimmed texts are

The lines of a text are told by putting them together again: a text is made up of lines if it
consists of them and of their ends, and only the last one may lack its end. A trimmed text is told
in the same way, by the blanks that were around it. Neither relation says how the parts are found,
and both leave exactly one possibility. A text with a single word is what a trimmed text without
blanks comes from.

Main statements: `splitLines_eq_iff`, `trim_eq_iff` and `isWord_iff`.
-/

namespace SealedBuild.Text

/-! ### Lines -/

section Lines

variable {α : Type} [DecidableEq α] {lf cr : α} {s : List α} {found : List (List α)}

/-- A text consists of lines and of their ends. A line ends in a line feed, or in a carriage return
and a line feed; the last line may have no end if it is not empty. -/
inductive MadeUpOf (lf cr : α) : List α → List (List α) → Prop
  | nil : MadeUpOf lf cr [] []
  | last {line : List α} (clean : lf ∉ line) (written : line ≠ []) : MadeUpOf lf cr line [line]
  | feed {line rest : List α} {more : List (List α)} (clean : lf ∉ line)
      (open_ : line.getLast? ≠ some cr) (onward : MadeUpOf lf cr rest more) :
      MadeUpOf lf cr (line ++ lf :: rest) (line :: more)
  | returnFeed {line rest : List α} {more : List (List α)} (clean : lf ∉ line)
      (onward : MadeUpOf lf cr rest more) :
      MadeUpOf lf cr (line ++ cr :: lf :: rest) (line :: more)

theorem madeUpOf_splitLines (s : List α) : MadeUpOf lf cr s (splitLines lf cr s) := by
  induction s using inductionOnLines lf with
  | nil => exact .nil
  | last line clean written =>
    rw [splitLines_of_not_mem clean written]
    exact .last clean written
  | cons line rest clean ih =>
    rw [splitLines_append_cons clean]
    by_cases ends : line.getLast? = some cr
    · obtain ⟨init, rfl⟩ := List.getLast?_eq_some_iff.mp ends
      have clean' : lf ∉ init := fun mem => clean (List.mem_append_left _ mem)
      rw [dropReturn, if_pos ends, List.dropLast_concat, List.append_assoc]
      exact .returnFeed clean' ih
    · rw [dropReturn, if_neg ends]
      exact .feed clean ends ih

/-- The lines of a text are what it is made up of. -/
theorem splitLines_eq_iff (distinct : lf ≠ cr) :
    splitLines lf cr s = found ↔ MadeUpOf lf cr s found := by
  constructor
  · rintro rfl
    exact madeUpOf_splitLines s
  · intro madeUp
    induction madeUp with
    | nil => rfl
    | last clean written => exact splitLines_of_not_mem clean written
    | @feed line rest more clean open_ onward ih =>
      rw [splitLines_append_cons clean, ih, dropReturn, if_neg open_]
    | @returnFeed line rest more clean onward ih =>
      have clean' : lf ∉ line ++ [cr] := by simp [clean, distinct]
      have joined : line ++ cr :: lf :: rest = (line ++ [cr]) ++ lf :: rest := by simp
      rw [joined, splitLines_append_cons clean', ih, dropReturn, if_pos (by simp),
        List.dropLast_concat]

end Lines

/-- A text is made up of lines. -/
def HasLines (text : String) (found : List String) : Prop :=
  MadeUpOf '\n' '\r' text.toList (found.map String.toList)

theorem linesOf_eq_iff {text : String} {found : List String} :
    linesOf text = found ↔ HasLines text found := by
  rw [HasLines, ← splitLines_eq_iff (by decide), linesOf, Text.lines]
  constructor
  · rintro rfl
    simp
  · intro same
    simp [same]

/-! ### Trimmed texts -/

variable {s t : List Char}

/-- A text is what is left of another one without the blanks at its ends. -/
structure Trims (s t : List Char) : Prop where
  around : ∃ before after, s = before ++ t ++ after ∧ (∀ c ∈ before, isBlank c = true) ∧
    ∀ c ∈ after, isBlank c = true
  first : ∀ c, t.head? = some c → isBlank c = false
  last : ∀ c, t.getLast? = some c → isBlank c = false

theorem trimEnd_eq_rdropWhile (s : List Char) : trimEnd s = s.rdropWhile isBlank := rfl

theorem trims_trim (s : List Char) : Trims s (trim s) := by
  rw [trim, trimEnd_eq_rdropWhile]
  constructor
  · refine ⟨s.takeWhile isBlank, (s.dropWhile isBlank).rtakeWhile isBlank, ?_, ?_, ?_⟩
    · rw [List.append_assoc, List.rdropWhile_append_rtakeWhile, List.takeWhile_append_dropWhile]
    · exact fun c => List.mem_takeWhile_imp
    · exact fun c => List.mem_rtakeWhile_imp
  · intro c held
    obtain ⟨rest, eq⟩ := List.rdropWhile_prefix isBlank (s.dropWhile isBlank)
    have head : (s.dropWhile isBlank).head? = some c := by
      rw [← eq, List.head?_append, held, Option.some_or]
    simpa [head] using List.head?_dropWhile_not isBlank s
  · intro c held
    have written : (s.dropWhile isBlank).rdropWhile isBlank ≠ [] := by
      intro empty
      simp [empty] at held
    have solid := List.rdropWhile_last_not isBlank _ written
    rw [List.getLast?_eq_some_getLast written] at held
    rw [Option.some.inj held] at solid
    simpa using solid

/-- What is left of a text without the blanks at its ends. -/
theorem trim_eq_iff : trim s = t ↔ Trims s t := by
  constructor
  · rintro rfl
    exact trims_trim s
  · rintro ⟨⟨before, after, rfl, blank, blank'⟩, first, last⟩
    rw [trim, trimEnd_eq_rdropWhile, List.append_assoc, List.dropWhile_append_of_pos blank]
    cases t with
    | nil => simp [List.dropWhile_eq_nil_iff.mpr blank']
    | cons c rest =>
      have solid : isBlank c = false := first c rfl
      have kept : List.rdropWhile isBlank (c :: rest) = c :: rest := by
        refine List.rdropWhile_eq_self_iff.mpr fun written => ?_
        simp [last _ (List.getLast?_eq_some_getLast written)]
      calc
        List.rdropWhile isBlank (List.dropWhile isBlank (c :: rest ++ after))
          = List.rdropWhile isBlank (c :: rest ++ after) := by simp [solid]
        _ = List.rdropWhile isBlank (c :: rest) := by
          rw [List.rdropWhile, List.reverse_append,
            List.dropWhile_append_of_pos (by simpa using blank'), ← List.rdropWhile]
        _ = c :: rest := kept

/-- Nothing is left of a text if it is blank. -/
theorem trims_nil_iff : Trims s [] ↔ ∀ c ∈ s, isBlank c = true := by
  constructor
  · rintro ⟨⟨before, after, rfl, blank, blank'⟩, -, -⟩ c held
    rw [List.append_nil, List.mem_append] at held
    exact held.elim (blank c) (blank' c)
  · intro blank
    exact ⟨⟨s, [], by simp, blank, List.forall_mem_nil _⟩, by simp, by simp⟩

theorem trimmed_eq_iff {text left : String} :
    trimmed text = left ↔ Trims text.toList left.toList := by
  rw [← trim_eq_iff, trimmed, ← String.toList_inj, String.toList_ofList]

/-! ### Words -/

variable {text word : String}

/-- A text is a single word, with nothing but blanks around it. -/
structure IsWord (text word : String) : Prop where
  around : ∃ before after, text.toList = before ++ word.toList ++ after ∧
    (∀ c ∈ before, isBlank c = true) ∧ ∀ c ∈ after, isBlank c = true
  written : word ≠ ""
  solid : ∀ c ∈ word.toList, isBlank c = false

theorem isWord_iff :
    IsWord text word ↔ trimmed text = word ∧ word ≠ "" ∧ ∀ c ∈ word.toList, isBlank c = false := by
  rw [trimmed_eq_iff]
  constructor
  · rintro ⟨around, written, solid⟩
    refine ⟨⟨around, fun c head => ?_, fun c last => ?_⟩, written, solid⟩
    · exact solid c (List.mem_of_head? head)
    · exact solid c (List.mem_of_getLast? last)
  · rintro ⟨trims, written, solid⟩
    exact ⟨trims.around, written, solid⟩

/-- A word is on one line. -/
theorem IsWord.linesOf_eq (isWord : IsWord text word) : linesOf word = [word] := by
  have clean : '\n' ∉ word.toList := fun feed => Bool.noConfusion (isWord.solid _ feed)
  have written : word.toList ≠ [] := mt String.toList_eq_nil_iff.mp isWord.written
  rw [linesOf_eq_iff, HasLines]
  exact .last clean written

/-- A text that is a single line without its blanks has no line feed inside. -/
theorem not_mem_of_length_linesOf (single : (linesOf (trimmed text)).length = 1) :
    '\n' ∉ (trimmed text).toList := by
  obtain ⟨line, found⟩ := List.length_eq_one_iff.mp single
  have lines : MadeUpOf '\n' '\r' (trimmed text).toList [line.toList] := linesOf_eq_iff.mp found
  have solid : ∀ c, (trimmed text).toList.getLast? = some c → isBlank c = false :=
    (trimmed_eq_iff.mp rfl).last
  generalize (trimmed text).toList = s at lines solid
  cases lines with
  | last clean => exact clean
  | feed clean open_ onward =>
    cases onward with
    | nil => exact Bool.noConfusion (solid '\n' (by simp))
  | returnFeed clean onward =>
    cases onward with
    | nil => exact Bool.noConfusion (solid '\n' (by simp))

end SealedBuild.Text
