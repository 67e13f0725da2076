import SealedBuild.Proofs.Outcome
import SealedBuild.Proofs.Text.Layout
import SealedBuild.Proofs.Toml.Statements
import SealedBuild.Toolchain

/-!
# What a manifest is read as

A manifest is a document with an entry for the toolchain, or a single word that is the channel.
Which of the two it is shows when it is read as a document: a text that is no document is a channel
or nothing. The same way is taken for a document with an entry that no toolchain can be read from,
so such a document is taken for a channel if it is a single word, as `[toolchain]` is. That happens
to documents of one statement only, which is then about the toolchain.

Main statement: `reading_of_document`.
-/

namespace SealedBuild

open Text
open Toml (Value Fields)

namespace Toolchain

variable {content : String} {document entry : Value} {error : Toml.Error}
  {toolchain result : Toolchain}

/-- A channel that can be asked for: a word without blanks. -/
structure ValidChannel (channel : String) : Prop where
  written : channel ≠ ""
  solid : ∀ c ∈ channel.toList, isBlank c = false

theorem checked_ok_iff :
    checked toolchain = .ok result ↔ result = toolchain ∧ ValidChannel toolchain.channel := by
  unfold checked
  constructor
  · intro found
    split_ifs at found with invalid
    obtain ⟨written, solid⟩ := not_or.mp invalid
    exact ⟨(Except.ok.inj found).symm, written, by simpa using solid⟩
  · rintro ⟨rfl, written, solid⟩
    rw [if_neg]
    exact not_or.mpr ⟨written, by simpa using solid⟩

theorem checked_error (invalid : ¬ ValidChannel toolchain.channel) :
    checked toolchain = .error (.invalidChannel toolchain.channel) := by
  unfold checked
  split_ifs with refused
  · rfl
  · obtain ⟨written, solid⟩ := not_or.mp refused
    exact absurd ⟨written, by simpa using solid⟩ invalid

/-- A text that no toolchain can be read from is a channel if it is a line. -/
theorem parse_of_error (refused : (Toml.parse content >>= ofManifest) = .error error) :
    parse content = if (linesOf (trimmed content)).length = 1
      then checked (ofChannel (trimmed content)) else .error (.notManifest error) := by
  rw [parse, refused]

/-- A text that no toolchain can be read from is a channel if it is a word. -/
theorem parse_ok_iff_of_error (refused : (Toml.parse content >>= ofManifest) = .error error) :
    parse content = .ok result ↔ ∃ word, IsWord content word ∧ result = ofChannel word := by
  rw [parse_of_error refused]
  constructor
  · intro found
    split_ifs at found
    obtain ⟨same, written, solid⟩ := checked_ok_iff.mp found
    exact ⟨trimmed content, isWord_iff.mpr ⟨rfl, written, solid⟩, same⟩
  · rintro ⟨word, isWord, rfl⟩
    obtain ⟨same, written, solid⟩ := isWord_iff.mp isWord
    have single : (linesOf word).length = 1 := congrArg List.length isWord.linesOf_eq
    rw [same, if_pos single]
    exact checked_ok_iff.mpr ⟨rfl, written, solid⟩

/-! ### The entry of a document -/

/-- What a document has under the name of the toolchain. -/
def pinned? : Value → Option Value
  | .table entries => (entries.find? (·.1 == "toolchain")).map (·.2)
  | _ => none

/-- A document holds a toolchain. -/
def Holds (document : Value) (toolchain : Toolchain) : Prop :=
  ∃ entry, pinned? document = some entry ∧ ofToml entry = .ok toolchain

/-- A document has an entry for the toolchain that no toolchain can be read from. -/
def Malformed (document : Value) (error : Toml.Error) : Prop :=
  ∃ entry, pinned? document = some entry ∧ ofToml entry = .error error

theorem required_ok_iff {α : Type} {fields : Fields} {position : Nat} {name : String}
    {decode : Value → Except Toml.Error α} {found : α} :
    fields.required position name decode = .ok found ↔
      ∃ value, fields.find? position name = some value ∧ decode value = .ok found := by
  unfold Fields.required
  cases fields.find? position name with
  | none => simp
  | some value => simp

theorem asString_ok_iff {value : Value} {text : String} :
    value.asString = .ok text ↔ value = .string text := by
  cases value <;> simp [Value.asString]

/-- A toolchain is read only from a record with a text for its channel. -/
theorem exists_channel_of_ofToml (found : ofToml entry = .ok toolchain) :
    ∃ fields, Fields.ofValue entry = .ok fields ∧
      fields.find? 0 "channel" = some (.string toolchain.channel) := by
  obtain ⟨fields, record, found⟩ := ok_of_bind found
  obtain ⟨channel, named, found⟩ := ok_of_bind found
  obtain ⟨profile, -, found⟩ := ok_of_bind found
  obtain ⟨components, -, found⟩ := ok_of_bind found
  obtain ⟨targets, -, found⟩ := ok_of_bind found
  obtain ⟨value, held, text⟩ := required_ok_iff.mp named
  obtain rfl := asString_ok_iff.mp text
  obtain rfl := Except.ok.inj found
  exact ⟨fields, record, held⟩

/-- What is read from a document is read from its entry. -/
theorem read_document (read : Toml.parse content = .ok document) :
    (Toml.parse content >>= ofManifest) = match pinned? document with
      | some entry => (ofToml entry).map some
      | none => .ok none := by
  obtain ⟨entries, rfl⟩ := Toml.exists_entries_of_parse read
  rw [read]
  rfl

theorem parse_of_absent (read : Toml.parse content = .ok document)
    (absent : pinned? document = none) : parse content = .error .missingTable := by
  rw [parse, read_document read, absent]

theorem parse_of_holds (read : Toml.parse content = .ok document)
    (holds : Holds document toolchain) : parse content = checked toolchain := by
  obtain ⟨entry, held, found⟩ := holds
  rw [parse, read_document read, held]
  dsimp only
  rw [found]
  rfl

theorem read_malformed (read : Toml.parse content = .ok document)
    (malformed : Malformed document error) :
    (Toml.parse content >>= ofManifest) = .error error := by
  obtain ⟨entry, held, failed⟩ := malformed
  rw [read_document read, held]
  dsimp only
  rw [failed]
  rfl

/-- A document has no entry, or a toolchain in it, or an entry that is none. -/
theorem entry_cases (document : Value) :
    pinned? document = none ∨ (∃ toolchain, Holds document toolchain) ∨
      ∃ error, Malformed document error := by
  cases held : pinned? document with
  | none => exact .inl rfl
  | some entry =>
    cases found : ofToml entry with
    | ok toolchain => exact .inr (.inl ⟨toolchain, entry, held, found⟩)
    | error error => exact .inr (.inr ⟨error, entry, held, found⟩)

theorem Holds.unique (holds : Holds document toolchain) (holds' : Holds document result) :
    toolchain = result := by
  obtain ⟨entry, held, found⟩ := holds
  obtain ⟨entry', held', found'⟩ := holds'
  obtain rfl := Option.some.inj (held.symm.trans held')
  exact Except.ok.inj (found.symm.trans found')

theorem Malformed.not_holds (malformed : Malformed document error) :
    ¬ Holds document toolchain := by
  obtain ⟨entry, held, failed⟩ := malformed
  rintro ⟨entry', held', found⟩
  obtain rfl := Option.some.inj (held.symm.trans held')
  cases failed.symm.trans found

theorem Malformed.entry_ne_none (malformed : Malformed document error) :
    pinned? document ≠ none := by
  obtain ⟨entry, held, -⟩ := malformed
  simp [held]

/-- A document is a manifest of the toolchain in it, or of the word that it is. -/
theorem parse_ok_iff_of_document (read : Toml.parse content = .ok document) :
    parse content = .ok result ↔ (Holds document result ∧ ValidChannel result.channel) ∨
      ∃ error word, Malformed document error ∧ IsWord content word ∧ result = ofChannel word := by
  rcases entry_cases document with absent | ⟨toolchain, holds⟩ | ⟨error, malformed⟩
  · rw [parse_of_absent read absent]
    simp [Holds, Malformed, absent]
  · rw [parse_of_holds read holds, checked_ok_iff]
    constructor
    · rintro ⟨rfl, valid⟩
      exact .inl ⟨holds, valid⟩
    · rintro (⟨holds', valid⟩ | ⟨error, word, malformed, -⟩)
      · obtain rfl := holds'.unique holds
        exact ⟨rfl, valid⟩
      · exact absurd holds malformed.not_holds
  · rw [parse_ok_iff_of_error (read_malformed read malformed)]
    constructor
    · rintro ⟨word, isWord, same⟩
      exact .inr ⟨error, word, malformed, isWord, same⟩
    · rintro (⟨holds, -⟩ | ⟨-, word, -, isWord, same⟩)
      · exact absurd holds malformed.not_holds
      · exact ⟨word, isWord, same⟩

/-- A text that is on one line, apart from blanks, has at most one statement. -/
theorem length_le_one_of_statementsOf {statements : List Toml.Statement}
    (stated : Toml.statementsOf content = .ok statements)
    (single : (linesOf (trimmed content)).length = 1) : statements.length ≤ 1 := by
  have trims : Trims content.toList (trimmed content).toList := trimmed_eq_iff.mp rfl
  obtain ⟨before, after, around, blank, blank'⟩ := trims.around
  have line : Toml.OneLine content.toList := by
    rw [around]
    exact Toml.oneLine_append blank blank' (not_mem_of_length_linesOf single)
  exact Toml.length_le_one_of_oneLine (line.of_suffix (Toml.withoutMark_suffix _)) stated

/-- A document on one line with a malformed entry is one statement about the toolchain. -/
theorem exists_statement_of_malformed (read : Toml.parse content = .ok document)
    (malformed : Malformed document error) (single : (linesOf (trimmed content)).length = 1) :
    ∃ statement, Toml.statementsOf content = .ok [statement] ∧ statement.root = "toolchain" := by
  obtain ⟨statements, stated, assembled⟩ := Toml.parse_ok_iff.mp read
  have few := length_le_one_of_statementsOf stated single
  match statements, stated, assembled, few with
  | [], stated, assembled, few =>
    obtain rfl := Except.ok.inj assembled
    exact absurd rfl malformed.entry_ne_none
  | [statement], stated, assembled, few =>
    obtain ⟨value, rfl⟩ := Toml.assemble_singleton assembled
    refine ⟨statement, stated, ?_⟩
    by_contra other
    have absent : pinned? (.table [(statement.root, value)]) = none := by simp [pinned?, other]
    exact malformed.entry_ne_none absent

end Toolchain

open Toolchain

/-- From a document the toolchain in it is read, or else, if it has an entry that is no toolchain
and is a single word, a channel. A document without an entry is refused, and so is one with an
entry that is no toolchain, unless it is a word; if it has more than one statement the reason is why
the entry is no toolchain. What is taken for a channel in spite of its entry is a single statement
about the toolchain. -/
theorem reading_of_document {content : String} {document : Value}
    (read : Toml.parse content = .ok document) :
    (∀ toolchain, parse content = .ok toolchain ↔
      (Holds document toolchain ∧ ValidChannel toolchain.channel) ∨
        ∃ error word, Malformed document error ∧ IsWord content word ∧
          toolchain = ofChannel word) ∧
    (pinned? document = none → parse content = .error .missingTable) ∧
    (∀ entry, pinned? document = some entry →
      (∀ fields channel, Fields.ofValue entry = .ok fields →
        fields.find? 0 "channel" ≠ some (.string channel)) →
      ∃ error, Malformed document error) ∧
    (∀ error, Malformed document error → (∀ word, ¬ IsWord content word) →
      parse content = .error (.notManifest error) ∨
        parse content = .error (.invalidChannel (trimmed content))) ∧
    (∀ error statements, Malformed document error →
      Toml.statementsOf content = .ok statements → statements.length ≠ 1 →
      parse content = .error (.notManifest error)) ∧
    ∀ error word, Malformed document error → IsWord content word →
      ∃ statement, Toml.statementsOf content = .ok [statement] ∧
        statement.root = "toolchain" := by
  refine ⟨fun toolchain => parse_ok_iff_of_document read, parse_of_absent read, ?_, ?_, ?_, ?_⟩
  · intro entry held unfit
    rcases entry_cases document with absent | ⟨toolchain, entry', held', found⟩ | failed
    · rw [absent] at held
      cases held
    · obtain rfl := Option.some.inj (held.symm.trans held')
      obtain ⟨fields, record, channel⟩ := exists_channel_of_ofToml found
      exact absurd channel (unfit fields _ record)
    · exact failed
  · intro error malformed wordless
    have refused := read_malformed read malformed
    rw [parse_of_error refused]
    split_ifs with single
    · right
      have invalid : ¬ ValidChannel (trimmed content) := fun valid =>
        wordless _ (isWord_iff.mpr ⟨rfl, valid.written, valid.solid⟩)
      exact checked_error invalid
    · exact .inl rfl
  · intro error statements malformed stated several
    rw [parse_of_error (read_malformed read malformed), if_neg]
    intro single
    obtain ⟨statement, stated', -⟩ := exists_statement_of_malformed read malformed single
    obtain rfl := Except.ok.inj (stated'.symm.trans stated)
    exact several rfl
  · intro error word malformed isWord
    apply exists_statement_of_malformed read malformed
    rw [(isWord_iff.mp isWord).1, isWord.linesOf_eq]
    rfl

theorem reading_of_misshapen_entries :
    parse "[[toolchain]]" = .ok (.ofChannel "[[toolchain]]") ∧
    ∃ reason, parse "[ toolchain ]" = .error reason := by
  constructor
  · have malformed : Malformed (.table [("toolchain", .array [.table []])])
        (.wrongType "a string") := ⟨.array [.table []], rfl, rfl⟩
    have isWord : IsWord "[[toolchain]]" "[[toolchain]]" := by
      refine ⟨⟨[], [], by simp⟩, by decide, ?_⟩
      simp [isBlank]
    have read : Toml.parse "[[toolchain]]" =
        .ok (.table [("toolchain", .array [.table []])]) := rfl
    obtain ⟨accepted, -⟩ := reading_of_document read
    exact (accepted _).mpr (.inr ⟨_, _, malformed, isWord, rfl⟩)
  · have malformed : Malformed (.table [("toolchain", .table [])]) (.missingKey "channel") :=
      ⟨.table [], rfl, rfl⟩
    have wordless : ∀ word, ¬ IsWord "[ toolchain ]" word := by
      intro word isWord
      obtain ⟨rfl, -, solid⟩ := isWord_iff.mp isWord
      exact absurd (solid ' ' (by decide +kernel)) (by decide)
    have read : Toml.parse "[ toolchain ]" = .ok (.table [("toolchain", .table [])]) := rfl
    obtain ⟨-, -, -, refused, -⟩ := reading_of_document read
    rcases refused _ malformed wordless with same | same
    · exact ⟨_, same⟩
    · exact ⟨_, same⟩

/-- An empty table for the toolchain lacks a channel, and is taken for one. -/
theorem channel_of_empty_table :
    Toml.parse "[toolchain]" = .ok (.table [("toolchain", .table [])]) ∧
    Malformed (.table [("toolchain", .table [])]) (.missingKey "channel") ∧
    parse "[toolchain]" = .ok (.ofChannel "[toolchain]") ∧
    ∀ toolchain, ¬ Holds (.table [("toolchain", .table [])]) toolchain := by
  have malformed : Malformed (.table [("toolchain", .table [])]) (.missingKey "channel") :=
    ⟨.table [], rfl, rfl⟩
  exact ⟨rfl, malformed, rfl, fun _ => malformed.not_holds⟩

end SealedBuild
