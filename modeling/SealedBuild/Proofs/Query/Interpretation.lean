import Mathlib.Data.List.Forall2
import SealedBuild.Proofs.Text.Layout

/-!
# What the output of a query says

`Reads` tells the five ways in which an output is understood, in terms of the lines that a stream is
made up of, of their trimmed forms, and of the words that occur in it. Which of the streams counts
is decided by the exit status alone.

Main statement: `reading_of_query`, for every package and every output.
-/

namespace SealedBuild

open Text

variable {package text words : String} {lines : List String} {output other : StepOutput}
  {result : Except Failure QueryOutcome}

/-- Words occur somewhere in a text. -/
def Mentions (text words : String) : Prop := words.toList <:+: text.toList

theorem contains_iff_mentions : contains text words = true ↔ Mentions text words :=
  occursIn_iff_isInfix

/-- A line has a character that is no white space. -/
def IsWritten (line : String) : Prop := ∃ c ∈ line.toList, isBlank c = false

instance : DecidablePred IsWritten := fun line =>
  inferInstanceAs (Decidable (∃ c ∈ line.toList, isBlank c = false))

theorem isBlankText_iff : isBlankText text = true ↔ ¬ IsWritten text := by
  simp [isBlankText, IsWritten]

/-- The lines of a text that are not blank, in order. -/
def Shows (text : String) (shown : List String) : Prop :=
  ∃ all, HasLines text all ∧ shown = all.filter (IsWritten ·)

theorem writtenLines_eq_filter (text : String) :
    writtenLines text = (linesOf text).filter (IsWritten ·) := by
  refine List.filter_congr fun line _ => ?_
  rw [Bool.eq_iff_iff, Bool.not_eq_true', ← Bool.not_eq_true, isBlankText_iff, not_not,
    decide_eq_true_iff]

theorem writtenLines_eq_iff : writtenLines text = lines ↔ Shows text lines := by
  rw [writtenLines_eq_filter]
  constructor
  · rintro rfl
    exact ⟨_, linesOf_eq_iff.mp rfl, rfl⟩
  · rintro ⟨all, made, rfl⟩
    rw [linesOf_eq_iff.mpr made]

/-- The candidates that a text lists for an ambiguous package: its lines without the blanks at their
ends, as far as they start with the package and a version mark, or the package if there are none. -/
def Lists (package text : String) (tree : List String) : Prop :=
  ∃ all stripped, HasLines text all ∧
    List.Forall₂ (fun line left => Trims line.toList left.toList) all stripped ∧
    (let found := stripped.filter fun line => (package ++ "@").toList <+: line.toList
     found ≠ [] ∧ tree = found ∨ found = [] ∧ tree = [package])

/-- The last line of a text that is not blank, without the blanks at its ends. -/
def EndsWith (text reason : String) : Prop :=
  ∃ all, HasLines text all ∧
    ((∀ line ∈ all, ¬ IsWritten line) ∧ reason = "no output" ∨
      ∃ before line after, all = before ++ line :: after ∧ IsWritten line ∧
        (∀ line ∈ after, ¬ IsWritten line) ∧ Trims line.toList reason.toList)

/-- What the output of a query for a package says. -/
inductive Reads (package : String) (output : StepOutput) : Except Failure QueryOutcome → Prop
  | nothing (ended : output.code = some 0) (shows : Shows output.stdout []) :
      Reads package output (.ok .absent)
  | tree {tree : List String} (ended : output.code = some 0) (shows : Shows output.stdout tree)
      (written : tree ≠ []) : Reads package output (.ok (.present tree))
  | unmatched (failed : output.code ≠ some 0)
      (complains : Mentions output.stderr "did not match any packages") :
      Reads package output (.ok .absent)
  | ambiguous {tree : List String} (failed : output.code ≠ some 0)
      (matched : ¬ Mentions output.stderr "did not match any packages")
      (complains : Mentions output.stderr "is ambiguous")
      (lists : Lists package output.stderr tree) :
      Reads package output (.ok (.present tree))
  | unclear {reason : String} (failed : output.code ≠ some 0)
      (matched : ¬ Mentions output.stderr "did not match any packages")
      (single : ¬ Mentions output.stderr "is ambiguous") (ends : EndsWith output.stderr reason) :
      Reads package output
        (.error (.sandbox ("dependency query for `" ++ package ++ "` failed: " ++ reason)
          output.code))

/-! ### Each of the five ways -/

theorem candidates_eq_iff {tree : List String} :
    candidates package text = tree ↔ Lists package text tree := by
  have strips (all : List String) : List.Forall₂
      (fun line left => Trims line.toList left.toList) all (all.map trimmed) := by
    rw [List.forall₂_map_right_iff]
    exact List.forall₂_same.mpr fun line _ => trimmed_eq_iff.mp rfl
  have found_eq (stripped : List String) :
      (stripped.filter fun line => (package ++ "@").toList.isPrefixOf line.toList) =
        stripped.filter fun line => (package ++ "@").toList <+: line.toList := by
    refine List.filter_congr fun line _ => ?_
    rw [Bool.eq_iff_iff, List.isPrefixOf_iff_prefix, decide_eq_true_iff]
  rw [candidates, found_eq]
  constructor
  · rintro rfl
    refine ⟨_, _, linesOf_eq_iff.mp rfl, strips _, ?_⟩
    split
    next nothing => exact .inr ⟨nothing, rfl⟩
    next something => exact .inl ⟨something, rfl⟩
  · rintro ⟨all, stripped, made, trims, chosen⟩
    have stripped_eq : all.map trimmed = stripped := by
      rw [← List.forall₂_eq_eq_eq, List.forall₂_map_left_iff]
      exact trims.imp fun line left trims => trimmed_eq_iff.mpr trims
    rw [linesOf_eq_iff.mpr made, stripped_eq]
    rcases chosen with ⟨something, rfl⟩ | ⟨nothing, rfl⟩
    · exact if_neg something
    · exact if_pos nothing

theorem candidates_ne_nil (package text : String) : candidates package text ≠ [] := by
  unfold candidates
  dsimp only
  split
  · simp
  · assumption

/-- The reason that is given for an output that is not understood. -/
theorem reason_eq_iff {reason : String} :
    ((writtenLines text).getLast?.map trimmed).getD "no output" = reason ↔
      EndsWith text reason := by
  rw [writtenLines_eq_filter]
  constructor
  · rintro rfl
    refine ⟨_, linesOf_eq_iff.mp rfl, ?_⟩
    rcases List.eq_nil_or_concat ((linesOf text).filter (IsWritten ·)) with
      nothing | ⟨init, line, eq⟩
    · left
      rw [nothing]
      exact ⟨by simpa using nothing, rfl⟩
    · right
      rw [List.concat_eq_append] at eq
      obtain ⟨before, rest, eq_rest, -, shown⟩ := List.filter_eq_append_iff.mp eq
      obtain ⟨between, after, rfl, -, written, nothing⟩ := List.filter_eq_cons_iff.mp shown
      refine ⟨before ++ between, line, after, by rw [eq_rest, List.append_assoc], ?_, ?_, ?_⟩
      · simpa using written
      · simpa using nothing
      · rw [eq, List.getLast?_concat]
        exact trimmed_eq_iff.mp rfl
  · rintro ⟨all, made, ⟨blank, rfl⟩ | ⟨before, line, after, rfl, written, blank, trims⟩⟩
    · rw [linesOf_eq_iff.mpr made, List.filter_eq_nil_iff.mpr (by simpa using blank)]
      rfl
    · have nothing : after.filter (IsWritten ·) = [] :=
        List.filter_eq_nil_iff.mpr (by simpa using blank)
      rw [linesOf_eq_iff.mpr made, List.filter_append, List.filter_cons_of_pos (by simpa),
        nothing, List.getLast?_concat]
      exact trimmed_eq_iff.mpr trims

/-- An output is understood in exactly one of the five ways. -/
theorem interpretQuery_eq_iff : interpretQuery package output = result ↔
    Reads package output result := by
  constructor
  · rintro rfl
    unfold interpretQuery
    split
    next ended =>
      rw [StepOutput.success_iff] at ended
      dsimp only
      split
      next blank => exact .nothing ended (writtenLines_eq_iff.mp blank)
      next written => exact .tree ended (writtenLines_eq_iff.mp rfl) written
    next failed =>
      rw [StepOutput.success_iff] at failed
      split
      next complains => exact .unmatched failed (contains_iff_mentions.mp complains)
      next matched =>
        rw [contains_iff_mentions] at matched
        split
        next complains =>
          exact .ambiguous failed matched (contains_iff_mentions.mp complains)
            (candidates_eq_iff.mp rfl)
        next single =>
          rw [contains_iff_mentions] at single
          exact .unclear failed matched single (reason_eq_iff.mp rfl)
  · intro reads
    cases reads with
    | nothing ended shows =>
      rw [interpretQuery, if_pos (StepOutput.success_iff.mpr ended), writtenLines_eq_iff.mpr shows]
      rfl
    | tree ended shows written =>
      rw [interpretQuery, if_pos (StepOutput.success_iff.mpr ended), writtenLines_eq_iff.mpr shows]
      exact congrArg Except.ok (if_neg written)
    | unmatched failed complains =>
      rw [interpretQuery, if_neg (mt StepOutput.success_iff.mp failed),
        if_pos (contains_iff_mentions.mpr complains)]
    | ambiguous failed matched complains lists =>
      rw [interpretQuery, if_neg (mt StepOutput.success_iff.mp failed),
        if_neg (mt contains_iff_mentions.mp matched),
        if_pos (contains_iff_mentions.mpr complains), candidates_eq_iff.mpr lists]
    | unclear failed matched single ends =>
      rw [interpretQuery, if_neg (mt StepOutput.success_iff.mp failed),
        if_neg (mt contains_iff_mentions.mp matched), if_neg (mt contains_iff_mentions.mp single),
        reason_eq_iff.mpr ends]

/-- The exit status decides which stream counts. -/
theorem interpretQuery_congr (code_eq : other.code = output.code)
    (stream_eq : if output.code = some 0 then other.stdout = output.stdout
      else other.stderr = output.stderr) :
    interpretQuery package other = interpretQuery package output := by
  have ended_iff : other.success = true ↔ output.success = true := by
    rw [StepOutput.success_iff, StepOutput.success_iff, code_eq]
  by_cases ended : output.success = true
  · rw [if_pos (StepOutput.success_iff.mp ended)] at stream_eq
    rw [interpretQuery, interpretQuery, if_pos (ended_iff.mpr ended), if_pos ended, stream_eq]
  · rw [if_neg (mt StepOutput.success_iff.mpr ended)] at stream_eq
    rw [interpretQuery, interpretQuery, if_neg (mt ended_iff.mp ended), if_neg ended, stream_eq,
      code_eq]

/-- An output makes no sense if the query has failed and complains of nothing that is known. -/
theorem exists_failure_iff : (∃ failure, interpretQuery package output = .error failure) ↔
    output.code ≠ some 0 ∧ ¬ Mentions output.stderr "did not match any packages" ∧
      ¬ Mentions output.stderr "is ambiguous" := by
  constructor
  · rintro ⟨failure, unclear⟩
    cases interpretQuery_eq_iff.mp unclear with
    | unclear failed matched single ends => exact ⟨failed, matched, single⟩
  · rintro ⟨failed, matched, single⟩
    exact ⟨_, interpretQuery_eq_iff.mpr (.unclear failed matched single (reason_eq_iff.mp rfl))⟩

/-- How an output is understood, for every package. The exit status decides which stream counts, and
a failed query makes no sense only if it complains neither of a name that matches nothing nor of an
ambiguous one. A package that is present comes with at least one line. -/
theorem reading_of_query (package : String) (output : StepOutput) :
    (∀ result, interpretQuery package output = result ↔ Reads package output result) ∧
    (∀ other : StepOutput, other.code = output.code →
      (if output.code = some 0 then other.stdout = output.stdout
        else other.stderr = output.stderr) →
      interpretQuery package other = interpretQuery package output) ∧
    ((∃ failure, interpretQuery package output = .error failure) ↔
      output.code ≠ some 0 ∧ ¬ Mentions output.stderr "did not match any packages" ∧
        ¬ Mentions output.stderr "is ambiguous") ∧
    ∀ tree, interpretQuery package output = .ok (.present tree) → tree ≠ [] := by
  refine ⟨fun result => interpretQuery_eq_iff, ?_, ?_, ?_⟩
  · intro other code_eq stream_eq
    exact interpretQuery_congr code_eq stream_eq
  · exact exists_failure_iff
  · intro tree present
    cases interpretQuery_eq_iff.mp present with
    | tree ended shows written => exact written
    | ambiguous failed matched complains lists =>
      rw [← candidates_eq_iff.mpr lists]
      exact candidates_ne_nil package output.stderr

end SealedBuild
