import Mathlib.Data.List.TakeWhile
import SealedBuild.Proofs.Outcome
import SealedBuild.Proofs.Toml.Suffix
import SealedBuild.Text.Blank
import SealedBuild.Toml.Document

/-!
# How statements stand in a text

Every statement has a mark of its own, the bracket of a header or the equals sign of a pair, and
what follows a statement starts on another line. So a text without a mark has no statements, a text
that has all its characters on one line, blanks aside, has at most one, and a text without
statements holds nothing but blanks and comments.

Main statements: `exists_mark_of_readStatements`, and for one line `length_le_one_of_oneLine`; the
document of a single statement is in `assemble_singleton`.
-/

namespace SealedBuild.Toml

open Text

variable {s t : List Char} {bound : Nat} {first second : Statement}
  {statements others : List Statement} {text : String} {document : Value}

theorem isBlank_of_isMark {c : Char} (mark : isMark c = true) : isBlank c = false := by
  rw [isMark, Bool.or_eq_true, beq_iff_eq, beq_iff_eq] at mark
  rcases mark with rfl | rfl
  · rfl
  · rfl

theorem isBlank_of_isSpace {c : Char} (space : isSpace c = true) : isBlank c = true := by
  rw [isSpace, Bool.or_eq_true, beq_iff_eq, beq_iff_eq] at space
  rcases space with rfl | rfl
  · rfl
  · rfl

theorem readStatements_nil (bound : Nat) : readStatements bound [] = .ok [] := by
  cases bound with
  | zero => rfl
  | succ more => rfl

/-- What is read from a text is read line by line: nothing is left, or the line has no statement, or
it has one and ends after it. -/
theorem readStatements_cases (read : readStatements (bound + 1) s = .ok statements) :
    (skipComment (skipSpace s) = [] ∧ statements = []) ∨
    (∃ rest, afterLineEnd? (skipComment (skipSpace s)) = some rest ∧
      readStatements bound rest = .ok statements) ∨
    ∃ statement left rest others, readStatement (skipSpace s) = .ok (statement, left) ∧
      endLine left = .ok rest ∧ readStatements bound rest = .ok others ∧
      statements = statement :: others := by
  unfold readStatements at read
  split at read
  · rename_i nothing
    exact .inl ⟨nothing, (Except.ok.inj read).symm⟩
  · rename_i next following written
    rw [written]
    split at read
    · rename_i rest ended
      exact .inr (.inl ⟨rest, ended, read⟩)
    · split at read
      · cases read
      · rename_i statement left found
        split at read
        · cases read
        · rename_i rest ended
          obtain ⟨others, later, rfl⟩ := ok_of_map read
          exact .inr (.inr ⟨statement, left, rest, others, found, ended, later, rfl⟩)

/-- The first statement of a text has a mark, and the other statements are read from the lines
after it. -/
theorem exists_mark_of_readStatements (read : readStatements bound s = .ok (first :: others)) :
    ∃ mark after, isMark mark = true ∧ mark :: after <:+ s ∧
      (others = [] ∨
        ∃ fewer rest, '\n' :: rest <:+ after ∧ readStatements fewer rest = .ok others) := by
  induction bound generalizing s with
  | zero => cases read
  | succ more ih =>
    rcases readStatements_cases read with ⟨-, none_read⟩ | ⟨rest, ended, later⟩ |
      ⟨statement, left, rest, others', found, ended, later, same⟩
    · cases none_read
    · -- The line holds a comment at most, so the statement is on a later one.
      obtain ⟨mark, after, marks, marked, onward⟩ := ih later
      refine ⟨mark, after, marks, ?_, onward⟩
      exact marked.trans ((List.suffix_cons _ _).trans (feed_suffix_of_afterLineEnd? ended))
    · obtain ⟨rfl, rfl⟩ := List.cons.inj same
      obtain ⟨mark, after, marks, marked, leftover⟩ := exists_mark_of_readStatement found
      refine ⟨mark, after, marks, marked.trans (skipSpace_suffix s), ?_⟩
      rcases eq_nil_or_suffix_of_endLine ended with rfl | feed
      · rw [readStatements_nil] at later
        exact .inl (Except.ok.inj later).symm
      · exact .inr ⟨more, rest, feed.trans leftover, later⟩

theorem skipComment_of_not_mem (plain : '#' ∉ s) : skipComment s = s := by
  unfold skipComment
  split
  · simp at plain
  · rfl

/-- The blanks before what a line holds do not make it more than blank. -/
theorem isBlank_of_skipSpace (later : ∀ c ∈ skipSpace s, isBlank c = true) :
    ∀ c ∈ s, isBlank c = true := by
  intro c held
  rw [← List.takeWhile_append_dropWhile (p := isSpace) (l := s)] at held
  rcases List.mem_append.mp held with front | rest
  · exact isBlank_of_isSpace (List.mem_takeWhile_imp front)
  · exact later c rest

/-- A line end is blank, and so is the text if what follows is. -/
theorem isBlank_of_afterLineEnd? {rest : List Char} (ended : afterLineEnd? s = some rest)
    (rests : ∀ c ∈ rest, isBlank c = true) : ∀ c ∈ s, isBlank c = true := by
  unfold afterLineEnd? at ended
  split at ended
  · obtain rfl := Option.some.inj ended
    simpa [isBlank] using rests
  · obtain rfl := Option.some.inj ended
    simpa [isBlank] using rests
  · cases ended

/-- A text in which nothing is read holds only blanks, if it has no comments. -/
theorem isBlank_of_readStatements_nil (read : readStatements bound s = .ok [])
    (long : s.length < bound) (plain : '#' ∉ s) : ∀ c ∈ s, isBlank c = true := by
  induction bound generalizing s with
  | zero => exact absurd long (Nat.not_lt_zero _)
  | succ more ih =>
    have uncommented : skipComment (skipSpace s) = skipSpace s :=
      skipComment_of_not_mem fun held => plain ((skipSpace_suffix s).subset held)
    apply isBlank_of_skipSpace
    rcases readStatements_cases read with ⟨nothing, -⟩ | ⟨rest, ended, later⟩ |
      ⟨statement, left, rest, others, -, -, -, same⟩
    · rw [uncommented] at nothing
      simp [nothing]
    · have within := feed_suffix_of_afterLineEnd? ended
      rw [uncommented] at ended
      apply isBlank_of_afterLineEnd? ended
      apply ih later
      · have shorter := within.length_le
        rw [List.length_cons] at shorter
        omega
      · exact fun held => plain (within.subset (List.mem_cons_of_mem _ held))
    · cases same

/-! ### One line -/

/-- All that is not blank in a text stands on one line. -/
def OneLine (s : List Char) : Prop :=
  ∀ before after, s = before ++ '\n' :: after →
    (∀ c ∈ before, isBlank c = true) ∨ ∀ c ∈ after, isBlank c = true

theorem OneLine.of_suffix (line : OneLine s) (ends : t <:+ s) : OneLine t := by
  rintro before after rfl
  obtain ⟨front, rfl⟩ := ends
  rcases line (front ++ before) after (by simp) with blank | blank
  · exact .inl fun c held => blank c (List.mem_append_right _ held)
  · exact .inr blank

/-- Blanks around a text without a line feed leave it on its line. -/
theorem oneLine_append {before word after : List Char}
    (blank : ∀ c ∈ before, isBlank c = true) (blank' : ∀ c ∈ after, isBlank c = true)
    (clean : '\n' ∉ word) : OneLine (before ++ word ++ after) := by
  intro front back cut
  rw [List.append_assoc] at cut
  rcases List.append_eq_append_iff.mp cut with ⟨more, rfl, rest⟩ | ⟨more, rfl, -⟩
  · right
    rcases List.append_eq_append_iff.mp rest with ⟨gap, -, rfl⟩ | ⟨gap, rfl, feed⟩
    · exact fun c held => blank' c (List.mem_append_right _ (List.mem_cons_of_mem _ held))
    · cases gap with
      | nil =>
        obtain rfl : '\n' :: back = after := feed
        exact fun c held => blank' c (List.mem_cons_of_mem _ held)
      | cons c gap =>
        obtain ⟨rfl, -⟩ := List.cons.inj feed
        simp at clean
  · exact .inl fun c held => blank c (List.mem_append_left _ held)

/-- There is at most one statement on one line. -/
theorem length_le_one_of_oneLine (line : OneLine s)
    (read : readStatements bound s = .ok statements) : statements.length ≤ 1 := by
  match statements, read with
  | [], _ => exact Nat.zero_le 1
  | [_], _ => exact Nat.le_refl 1
  | first :: second :: others, read =>
    obtain ⟨mark, after, marks, ⟨front, rfl⟩, none_left | ⟨fewer, rest, ⟨gap, rfl⟩, read'⟩⟩ :=
      exists_mark_of_readStatements read
    · cases none_left
    · obtain ⟨mark', after', marks', ends, -⟩ := exists_mark_of_readStatements read'
      rcases line (front ++ mark :: gap) rest (by simp) with blank | blank
      · have held := blank mark (by simp)
        rw [isBlank_of_isMark marks] at held
        cases held
      · have held := blank mark' (ends.subset List.mem_cons_self)
        rw [isBlank_of_isMark marks'] at held
        cases held

/-! ### Documents -/

/-- The statements of a text. -/
def statementsOf (text : String) : Except Error (List Statement) :=
  readStatements ((withoutMark text.toList).length + 1) (withoutMark text.toList)

theorem withoutMark_suffix (s : List Char) : withoutMark s <:+ s := by
  unfold withoutMark
  split_ifs
  · exact List.drop_suffix 1 s
  · exact List.suffix_rfl

/-- A text is a document if it has statements that go together. -/
theorem parse_ok_iff : parse text = .ok document ↔
    ∃ statements, statementsOf text = .ok statements ∧ assemble statements = .ok document := by
  unfold parse statementsOf
  dsimp only
  cases readStatements ((withoutMark text.toList).length + 1) (withoutMark text.toList) with
  | error error => simp
  | ok statements => simp

/-- A text without a mark of a statement is no document, unless it holds nothing but blanks and
comments. -/
theorem exists_error_of_unmarked (unmarked : ∀ c ∈ text.toList, isMark c = false)
    (uncommented : '#' ∉ text.toList) (unheaded : '\ufeff' ∉ text.toList)
    (written : ∃ c ∈ text.toList, isBlank c = false) : ∃ error, parse text = .error error := by
  have whole : withoutMark text.toList = text.toList :=
    if_neg fun head => unheaded (List.mem_of_head? head)
  cases read : parse text with
  | error error => exact ⟨error, rfl⟩
  | ok document =>
    obtain ⟨statements, stated, -⟩ := parse_ok_iff.mp read
    rw [statementsOf, whole] at stated
    cases statements with
    | nil =>
      obtain ⟨c, held, solid⟩ := written
      have blank := isBlank_of_readStatements_nil stated (Nat.lt_succ_self _) uncommented c held
      rw [solid] at blank
      cases blank
    | cons first others =>
      obtain ⟨mark, after, marks, ends, -⟩ := exists_mark_of_readStatements stated
      rw [unmarked mark (ends.subset List.mem_cons_self)] at marks
      cases marks

/-- A document is a table. -/
theorem exists_entries_of_parse (read : parse text = .ok document) :
    ∃ entries, document = .table entries := by
  obtain ⟨statements, -, assembled⟩ := parse_ok_iff.mp read
  unfold assemble at assembled
  dsimp only at assembled
  split at assembled
  · cases assembled
  · rename_i entries pairs
    obtain ⟨more, -, rfl⟩ := ok_of_map assembled
    exact ⟨finishEntries more, rfl⟩

/-- The first name of a key. -/
def DottedKey.root (key : DottedKey) : String := key.parents.head?.getD key.name

/-- The name of the document that a statement is about. -/
def Statement.root : Statement → String
  | .header opened => opened.key.root
  | .pair key _ => key.root

namespace Entries

variable {entries : Entries}

/-- A change below an empty table leaves one entry in it, with the first name of the way. -/
theorem root_of_descend {made origin : Origin} {parents : List String} {name : String}
    {change : Origin → Entries → Except Error Entries}
    (single : ∀ {inner}, change origin [] = .ok inner → ∃ node, inner = [(name, node)])
    (descended : descend made change parents origin [] = .ok entries) :
    ∃ node, entries = [(DottedKey.root ⟨parents, name⟩, node)] := by
  cases parents with
  | nil => exact single descended
  | cons parent rest =>
    rw [descend] at descended
    simp only [find?] at descended
    obtain ⟨inner, -, rfl⟩ := ok_of_map descended
    exact ⟨.table made inner, rfl⟩

theorem root_of_addPair {key : DottedKey} {value : Value}
    (added : addPair [] (key, value) = .ok entries) : ∃ node, entries = [(key.root, node)] := by
  refine root_of_descend (@fun inner changed => ?_) added
  dsimp only at changed
  split_ifs at changed
  exact ⟨.value value, (Except.ok.inj changed).symm⟩

theorem root_of_addSection {opened : Header} (added : addSection [] ⟨opened, []⟩ = .ok entries) :
    ∃ node, entries = [(opened.key.root, node)] := by
  refine root_of_descend (@fun inner changed => ?_) added
  dsimp only at changed
  split_ifs at changed
  · exact ⟨.tables [[]], (Except.ok.inj changed).symm⟩
  · exact ⟨.table .header [], (Except.ok.inj changed).symm⟩

end Entries

theorem assemble_pair (key : DottedKey) (value : Value) : assemble [.pair key value] =
    (Entries.addPair [] (key, value)).map fun entries => .table (finishEntries entries) := by
  simp only [assemble, sections, Entries.addPairs]
  cases Entries.addPair [] (key, value) <;> rfl

theorem assemble_header (opened : Header) : assemble [.header opened] =
    (Entries.addSection [] ⟨opened, []⟩).map fun entries => .table (finishEntries entries) := by
  simp only [assemble, sections, Entries.addPairs, Entries.addSections]
  cases Entries.addSection [] ⟨opened, []⟩ <;> rfl

/-- A single statement makes a document with one entry, under its first name. -/
theorem assemble_singleton {statement : Statement}
    (assembled : assemble [statement] = .ok document) :
    ∃ value, document = .table [(statement.root, value)] := by
  cases statement with
  | pair key value =>
    rw [assemble_pair] at assembled
    obtain ⟨entries, added, rfl⟩ := ok_of_map assembled
    obtain ⟨node, rfl⟩ := Entries.root_of_addPair added
    exact ⟨node.toValue, rfl⟩
  | header opened =>
    rw [assemble_header] at assembled
    obtain ⟨entries, added, rfl⟩ := ok_of_map assembled
    obtain ⟨node, rfl⟩ := Entries.root_of_addSection added
    exact ⟨node.toValue, rfl⟩

end SealedBuild.Toml
