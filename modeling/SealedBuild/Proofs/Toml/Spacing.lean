import Mathlib.Data.List.TakeWhile
import SealedBuild.Proofs.Toml.Statements

/-!
# A table of one text

The smallest document worth writing has a table with one text in it. However many blanks stand
around its parts, and however many lines are left empty, the same document is read from it.

Main statement: `Spacing.parse_document`.
-/

namespace SealedBuild.Toml

variable {s rest gap : List Char} {c : Char} {name text : List Char}
  {statement : Statement} {statements : List Statement}

/-- Whether a character is a blank of a line or ends the line. -/
def isWhite (c : Char) : Bool := isSpace c || c == '\n'

theorem isSpace_of_isWhite (white : isWhite c = true) (inside : c ≠ '\n') : isSpace c = true := by
  rw [isWhite, Bool.or_eq_true, beq_iff_eq] at white
  exact white.resolve_right inside

/-! ### Lines -/

theorem skipSpace_append (spaces : ∀ c ∈ gap, isSpace c = true) (s : List Char) :
    skipSpace (gap ++ s) = skipSpace s := List.dropWhile_append_of_pos spaces

theorem skipSpace_cons (solid : isSpace c = false) (s : List Char) : skipSpace (c :: s) = c :: s :=
  List.dropWhile_cons_of_neg (by simp [solid])

theorem readStatements_append (spaces : ∀ c ∈ gap, isSpace c = true) (bound : Nat)
    (s : List Char) : readStatements bound (gap ++ s) = readStatements bound s := by
  cases bound with
  | zero => rfl
  | succ more => rw [readStatements, readStatements, skipSpace_append spaces]

/-- Statements are read from a text with any sufficient bound on the number of its lines. -/
def Reads (s : List Char) (statements : List Statement) : Prop :=
  ∀ bound, s.length < bound → readStatements bound s = .ok statements

theorem reads_nil : Reads [] [] := fun bound _ => readStatements_nil bound

/-- Empty lines and blanks in front of a text do not matter. -/
theorem Reads.white_append (reads : Reads s statements) (white : ∀ c ∈ gap, isWhite c = true) :
    Reads (gap ++ s) statements := by
  induction gap with
  | nil => exact reads
  | cons c gap ih =>
    obtain ⟨first, others⟩ := List.forall_mem_cons.mp white
    intro bound long
    by_cases feed : c = '\n'
    · subst feed
      cases bound with
      | zero => exact absurd long (Nat.not_lt_zero _)
      | succ more =>
        have onward : readStatements (more + 1) ('\n' :: (gap ++ s)) =
            readStatements more (gap ++ s) := rfl
        rw [List.cons_append, onward]
        apply ih others
        rw [List.cons_append, List.length_cons] at long
        omega
    · have space := isSpace_of_isWhite first feed
      have single : ∀ d ∈ [c], isSpace d = true := by simpa using space
      rw [List.cons_append, ← List.singleton_append, readStatements_append single]
      apply ih others
      rw [List.cons_append, List.length_cons] at long
      omega

/-- A character that can stand first in a statement. -/
structure Starts (c : Char) : Prop where
  solid : isSpace c = false
  uncommented : c ≠ '#'
  open_ : c ≠ '\n' ∧ c ≠ '\r'

theorem Starts.skipComment_cons (starts : Starts c) (s : List Char) :
    skipComment (c :: s) = c :: s := by
  unfold skipComment
  split
  · rename_i comment
    exact absurd (List.cons.inj comment).1 starts.uncommented
  · rfl

theorem Starts.afterLineEnd?_cons (starts : Starts c) (s : List Char) :
    afterLineEnd? (c :: s) = none := by
  unfold afterLineEnd?
  split
  · rename_i feed
    exact absurd (List.cons.inj feed).1 starts.open_.1
  · rename_i return_
    exact absurd (List.cons.inj return_).1 starts.open_.2
  · rfl

/-- A statement takes something off its text, so fewer lines are left to be read. -/
theorem length_lt_of_readStatement {left : List Char}
    (found : readStatement s = .ok (statement, left)) (ended : endLine left = .ok rest) :
    rest.length < s.length := by
  obtain ⟨mark, after, -, marked, leftover⟩ := exists_mark_of_readStatement found
  have consumed := marked.length_le
  have kept := leftover.length_le
  rw [List.length_cons] at consumed
  rcases eq_nil_or_suffix_of_endLine ended with rfl | later
  · rw [List.length_nil]
    omega
  · have onward := later.length_le
    rw [List.length_cons] at onward
    omega

/-- A statement that ends its line is read before those of the lines after it. -/
theorem Reads.cons {left : List Char} (starts : Starts c)
    (found : readStatement (c :: s) = .ok (statement, left)) (ended : endLine left = .ok rest)
    (reads : Reads rest statements) : Reads (c :: s) (statement :: statements) := by
  intro bound long
  have shorter := length_lt_of_readStatement found ended
  cases bound with
  | zero => exact absurd long (Nat.not_lt_zero _)
  | succ more =>
    have onward : readStatements more rest = .ok statements := reads more (by omega)
    rw [readStatements, skipSpace_cons starts.solid, starts.skipComment_cons]
    dsimp only
    rw [starts.afterLineEnd?_cons]
    dsimp only
    rw [found]
    dsimp only
    rw [ended]
    dsimp only
    rw [onward]
    rfl

theorem endLine_append (spaces : ∀ c ∈ gap, isSpace c = true) (s : List Char) :
    endLine (gap ++ s) = endLine s := by
  rw [endLine, endLine, skipSpace_append spaces]

/-- White text after a statement ends its line and leaves white text. -/
theorem exists_white_of_endLine (white : ∀ c ∈ gap, isWhite c = true) (s : List Char)
    (ends : '\n' ∈ gap ∨ s = []) :
    ∃ more, (∀ c ∈ more, isWhite c = true) ∧ endLine (gap ++ s) = .ok (more ++ s) := by
  by_cases feed : '\n' ∈ gap
  · obtain ⟨spaces, more, rfl, clean⟩ := List.eq_append_cons_of_mem feed
    rw [List.forall_mem_append, List.forall_mem_cons] at white
    have narrow : ∀ c ∈ spaces, isSpace c = true := fun c held =>
      isSpace_of_isWhite (white.1 c held) fun same => clean (same ▸ held)
    refine ⟨more, white.2.2, ?_⟩
    rw [List.append_assoc, endLine_append narrow]
    rfl
  · obtain rfl : s = [] := ends.resolve_left feed
    have narrow : ∀ c ∈ gap, isSpace c = true := fun c held =>
      isSpace_of_isWhite (white c held) fun same => feed (same ▸ held)
    refine ⟨[], by simp, ?_⟩
    rw [endLine_append narrow]
    rfl

/-! ### Keys and texts -/

/-- A name that needs no quotes. -/
structure IsBare (name : List Char) : Prop where
  written : name ≠ []
  bare : ∀ c ∈ name, isBareKeyChar c = true

theorem IsBare.exists_cons (isBare : IsBare name) :
    ∃ c rest, name = c :: rest ∧ isBareKeyChar c = true := by
  obtain ⟨c, rest, rfl⟩ := List.exists_cons_of_ne_nil isBare.written
  exact ⟨c, rest, rfl, isBare.bare c List.mem_cons_self⟩

/-- A text that stands between quotes as it is. -/
structure IsPlain (text : List Char) : Prop where
  written : text ≠ []
  plain : ∀ c ∈ text, isPlainText c = true
  unquoted : '"' ∉ text
  unescaped : '\\' ∉ text

theorem isBareKeyChar_of_isSpace (space : isSpace c = true) : isBareKeyChar c = false := by
  rw [isSpace, Bool.or_eq_true, beq_iff_eq, beq_iff_eq] at space
  rcases space with rfl | rfl
  · rfl
  · rfl

/-- A name can stand first in a statement. -/
theorem starts_of_isBareKeyChar (bare : isBareKeyChar c = true) : Starts c where
  solid := by
    rw [← Bool.not_eq_true]
    intro space
    rw [isBareKeyChar_of_isSpace space] at bare
    cases bare
  uncommented := by
    rintro rfl
    cases bare
  open_ := by
    constructor
    · rintro rfl
      cases bare
    · rintro rfl
      cases bare

/-- A name without quotes ends where a character stands that cannot be part of it. -/
theorem readName_append (isBare : IsBare name)
    (stops : ∀ c, s.head? = some c → isBareKeyChar c = false) :
    readName (name ++ s) = .ok (String.ofList name, s) := by
  have taken : (name ++ s).takeWhile isBareKeyChar = name := by
    rw [List.takeWhile_append_of_pos isBare.bare]
    cases s with
    | nil => simp
    | cons c s => simp [stops c rfl]
  have dropped : (name ++ s).dropWhile isBareKeyChar = s := by
    rw [List.dropWhile_append_of_pos isBare.bare]
    cases s with
    | nil => rfl
    | cons c s => exact List.dropWhile_cons_of_neg (by simp [stops c rfl])
  obtain ⟨c, name, rfl, first⟩ := isBare.exists_cons
  rw [List.cons_append] at taken dropped ⊢
  unfold readName
  split
  · rename_i starts
    obtain ⟨rfl, -⟩ := List.cons.inj starts
    cases first
  · rename_i starts
    obtain ⟨rfl, -⟩ := List.cons.inj starts
    cases first
  · rw [taken, dropped]

/-- A character after a key that ends it. -/
structure Stops (c : Char) : Prop where
  solid : isSpace c = false
  undotted : c ≠ '.'
  other : isBareKeyChar c = false

/-- A key of one name is read with the blanks around it. -/
theorem readKey_spaced {before after : List Char} {stop : Char}
    (spaces : ∀ c ∈ before, isSpace c = true) (isBare : IsBare name)
    (spaces' : ∀ c ∈ after, isSpace c = true) (stops : Stops stop) (rest : List Char) :
    readKey (before ++ (name ++ (after ++ stop :: rest))) =
      .ok (⟨[], String.ofList name⟩, stop :: rest) := by
  obtain ⟨solid, undotted, other⟩ := stops
  have ends : ∀ c, (after ++ stop :: rest).head? = some c → isBareKeyChar c = false := by
    intro c head
    cases after with
    | nil =>
      obtain rfl := Option.some.inj head
      exact other
    | cons d after =>
      obtain rfl := Option.some.inj head
      exact isBareKeyChar_of_isSpace (spaces' _ List.mem_cons_self)
  have starts : skipSpace (name ++ (after ++ stop :: rest)) = name ++ (after ++ stop :: rest) := by
    obtain ⟨c, name, rfl, first⟩ := isBare.exists_cons
    exact skipSpace_cons (starts_of_isBareKeyChar first).solid _
  have named := readName_append isBare ends
  have single : readNames (depthLimit - 1) (before ++ (name ++ (after ++ stop :: rest))) =
      .ok ([String.ofList name], stop :: rest) := by
    have positive : depthLimit - 1 = 78 + 1 := rfl
    rw [positive, readNames, skipSpace_append spaces, starts, named]
    dsimp only
    rw [skipSpace_append spaces', skipSpace_cons solid]
    split
    · rename_i dot
      exact absurd (List.cons.inj dot).1 undotted
    · rfl
  rw [readKey, single]
  rfl

theorem readLineString_append (plain : ∀ c ∈ text, isPlainText c = true)
    (unquoted : '"' ∉ text) (unescaped : '\\' ∉ text) (rest : List Char) :
    readLineString .basic .plain (text ++ '"' :: rest) = .ok (text, rest) := by
  induction text with
  | nil => rfl
  | cons c text ih =>
    obtain ⟨first, others⟩ := List.forall_mem_cons.mp plain
    obtain ⟨quote, unquoted⟩ := not_or.mp (mt List.mem_cons.mpr unquoted)
    obtain ⟨backslash, unescaped⟩ := not_or.mp (mt List.mem_cons.mpr unescaped)
    have inside : ¬ c = Quotation.basic.mark := Ne.symm quote
    have single : ¬ (c = '\\' ∧ Quotation.basic = .basic) := fun both => backslash both.1.symm
    rw [List.cons_append, readLineString, if_neg inside, if_neg single, if_pos first,
      ih others unquoted unescaped]
    rfl

/-- A text between quotes is read as it is. -/
theorem readValue_append (isPlain : IsPlain text) (rest : List Char) (depth : Nat) :
    readValue (depth + 1) ('"' :: (text ++ '"' :: rest)) =
      .ok (.string (String.ofList text), rest) := by
  obtain ⟨written, plain, unquoted, unescaped⟩ := isPlain
  have line : ¬ (text ++ '"' :: rest).take 2 = [Quotation.basic.mark, Quotation.basic.mark] := by
    obtain ⟨c, text, rfl⟩ := List.exists_cons_of_ne_nil written
    intro block
    exact unquoted ((List.cons.inj block).1 ▸ List.mem_cons_self)
  have quoted : readQuoted .basic (text ++ '"' :: rest) = .ok (String.ofList text, rest) := by
    rw [readQuoted, if_neg line, readLineString_append plain unquoted unescaped]
    rfl
  have reads : readValue (depth + 1) ('"' :: (text ++ '"' :: rest)) =
      (readQuoted .basic (text ++ '"' :: rest)).map fun found => (.string found.1, found.2) := rfl
  rw [reads, quoted]
  rfl

/-! ### The document -/

/-- The blanks around the parts of a table of one text. -/
structure Spacing where
  front : List Char
  opening : List Char
  closing : List Char
  middle : List Char
  left : List Char
  right : List Char
  back : List Char
  front_white : ∀ c ∈ front, isWhite c = true
  opening_space : ∀ c ∈ opening, isSpace c = true
  closing_space : ∀ c ∈ closing, isSpace c = true
  middle_white : ∀ c ∈ middle, isWhite c = true
  /-- The pair is on another line than the header. -/
  middle_feed : '\n' ∈ middle
  left_space : ∀ c ∈ left, isSpace c = true
  right_space : ∀ c ∈ right, isSpace c = true
  back_white : ∀ c ∈ back, isWhite c = true

namespace Spacing

variable (spacing : Spacing) {table key : List Char}

/-- A key with a text. -/
def pair (key text : List Char) : List Char :=
  key ++ (spacing.left ++ '=' :: (spacing.right ++ '"' :: (text ++ '"' :: spacing.back)))

/-- A table with a text under a key. -/
def document (table key text : List Char) : List Char :=
  spacing.front ++ '[' :: (spacing.opening ++ (table ++ (spacing.closing ++ ']' ::
    (spacing.middle ++ spacing.pair key text))))

theorem readStatement_header (isBare : IsBare table) (rest : List Char) :
    readStatement ('[' :: (spacing.opening ++ (table ++ (spacing.closing ++ ']' :: rest)))) =
      .ok (.header ⟨false, [], String.ofList table⟩, rest) := by
  have stops : Stops ']' := ⟨rfl, by decide, rfl⟩
  have keyed := readKey_spaced spacing.opening_space isBare spacing.closing_space stops rest
  have single : ¬ (spacing.opening ++ (table ++ (spacing.closing ++ ']' :: rest))).head? =
      some '[' := by
    cases opens : spacing.opening with
    | nil =>
      obtain ⟨c, table, rfl, first⟩ := isBare.exists_cons
      intro head
      obtain rfl := Option.some.inj head
      cases first
    | cons c opening =>
      intro head
      obtain rfl := Option.some.inj head
      have space := spacing.opening_space '[' (by rw [opens]; exact List.mem_cons_self)
      cases space
  have header : readHeader (spacing.opening ++ (table ++ (spacing.closing ++ ']' :: rest))) =
      .ok (⟨false, [], String.ofList table⟩, rest) := by
    unfold readHeader
    split
    · rename_i starts
      exact absurd (congrArg List.head? starts) single
    · rw [keyed]
      rfl
  rw [readStatement, header]
  rfl

theorem readStatement_pair (isBare : IsBare key) (isPlain : IsPlain text) :
    readStatement (spacing.pair key text) =
      .ok (.pair ⟨[], String.ofList key⟩ (.string (String.ofList text)), spacing.back) := by
  have stops : Stops '=' := ⟨rfl, by decide, rfl⟩
  have keyed := readKey_spaced (List.forall_mem_nil _) isBare spacing.left_space stops
    (spacing.right ++ '"' :: (text ++ '"' :: spacing.back))
  rw [List.nil_append] at keyed
  have value : readValue (depthLimit - 1) (skipSpace (spacing.right ++ '"' :: (text ++ '"' ::
      spacing.back))) = .ok (.string (String.ofList text), spacing.back) := by
    rw [skipSpace_append spacing.right_space, skipSpace_cons rfl]
    exact readValue_append isPlain spacing.back 78
  have paired : readPair (readValue (depthLimit - 1)) (spacing.pair key text) =
      .ok ((⟨[], String.ofList key⟩, .string (String.ofList text)), spacing.back) := by
    have named : readPair (readValue (depthLimit - 1)) (spacing.pair key text) =
        (readValue (depthLimit - 1) (skipSpace (spacing.right ++ '"' :: (text ++ '"' ::
          spacing.back)))).map fun found =>
            ((⟨[], String.ofList key⟩, found.1), found.2) := by
      rw [readPair, pair, keyed]
      rfl
    rw [named, value]
    rfl
  unfold readStatement
  split
  · rename_i starts
    obtain ⟨c, key, rfl, first⟩ := isBare.exists_cons
    obtain ⟨rfl, -⟩ := List.cons.inj starts
    cases first
  · rw [paired]
    rfl

/-- A header and a pair are read, whatever blanks are around their parts. -/
theorem reads_document (isBare : IsBare table) (isBare' : IsBare key) (isPlain : IsPlain text) :
    Reads (spacing.document table key text)
      [.header ⟨false, [], String.ofList table⟩,
        .pair ⟨[], String.ofList key⟩ (.string (String.ofList text))] := by
  obtain ⟨after, white, ended⟩ := exists_white_of_endLine spacing.back_white [] (.inr rfl)
  obtain ⟨between, white', ended'⟩ :=
    exists_white_of_endLine spacing.middle_white (spacing.pair key text) (.inl spacing.middle_feed)
  rw [List.append_nil] at ended
  have last : Reads (spacing.pair key text)
      [.pair ⟨[], String.ofList key⟩ (.string (String.ofList text))] := by
    have found := spacing.readStatement_pair isBare' isPlain
    obtain ⟨c, key, rfl, first⟩ := isBare'.exists_cons
    exact .cons (starts_of_isBareKeyChar first) found ended (reads_nil.white_append white)
  have starts : Starts '[' := ⟨rfl, by decide, by decide, by decide⟩
  apply Reads.white_append _ spacing.front_white
  exact .cons starts (spacing.readStatement_header isBare _) ended' (last.white_append white')

/-- The document of a table with a text is read from it. -/
theorem parse_document (isBare : IsBare table) (isBare' : IsBare key) (isPlain : IsPlain text) :
    parse (String.ofList (spacing.document table key text)) =
      .ok (.table [(String.ofList table,
        .table [(String.ofList key, .string (String.ofList text))])]) := by
  have unmarked : withoutMark (spacing.document table key text) =
      spacing.document table key text := by
    apply if_neg
    rw [document]
    cases opens : spacing.front with
    | nil => simp
    | cons c front =>
      intro head
      obtain rfl := Option.some.inj head
      have white := spacing.front_white '\ufeff' (by rw [opens]; exact List.mem_cons_self)
      cases white
  refine parse_ok_iff.mpr ⟨[.header ⟨false, [], String.ofList table⟩,
    .pair ⟨[], String.ofList key⟩ (.string (String.ofList text))], ?_, rfl⟩
  rw [statementsOf, String.toList_ofList, unmarked]
  exact spacing.reads_document isBare isBare' isPlain _ (Nat.lt_succ_self _)

end Spacing

end SealedBuild.Toml
