import SealedBuild.Proofs.Toml.Spacing
import SealedBuild.Proofs.Toolchain.Reading

/-!
# The two forms of a manifest

A toolchain of which nothing but the channel is said can be written in two ways: as the name of the
channel alone, and as a document with a table for the toolchain. The name is never taken for a
document, since it has no mark of a statement in it, and the document always is one; so both are
manifests of the same toolchain, whatever blanks and empty lines stand around their parts.

Main statement: `forms_agree`.
-/

namespace SealedBuild

open Text
open Toml (isBareKeyChar isPlainText isWhite isMark)

namespace Toolchain

variable {c : Char} {channel : String}

/-- Whether a character can be part of the name of a channel: a letter, a digit, a dash, an
underscore or a dot. The letters are those of any script, so beyond ASCII every character counts
that is not a blank and not the mark that may stand in front of a text. -/
def isNameChar (c : Char) : Bool :=
  isBareKeyChar c || c == '.' || (decide (0x80 ≤ c.toNat) && !isBlank c && c != '\ufeff')

theorem toNat_of_between {low high : Char} (between : low ≤ c ∧ c ≤ high) :
    low.toNat ≤ c.toNat ∧ c.toNat ≤ high.toNat := by
  rwa [Char.le_def, Char.le_def, UInt32.le_iff_toNat_le, UInt32.le_iff_toNat_le] at between

theorem toNat_of_isBareKeyChar (bare : isBareKeyChar c = true) :
    0x2d ≤ c.toNat ∧ c.toNat ≤ 0x7a := by
  simp only [isBareKeyChar, Toml.isDecimal, Bool.or_eq_true, decide_eq_true_eq,
    beq_iff_eq] at bare
  rcases bare with (((digit | small) | large) | rfl) | rfl
  · obtain ⟨least, most⟩ := toNat_of_between digit
    exact ⟨Nat.le_trans (by decide) least, Nat.le_trans most (by decide)⟩
  · obtain ⟨least, most⟩ := toNat_of_between small
    exact ⟨Nat.le_trans (by decide) least, Nat.le_trans most (by decide)⟩
  · obtain ⟨least, most⟩ := toNat_of_between large
    exact ⟨Nat.le_trans (by decide) least, Nat.le_trans most (by decide)⟩
  · decide
  · decide

/-- A printable character of ASCII, apart from the space, is neither a blank nor a control. -/
theorem solid_of_toNat (bounds : 0x21 ≤ c.toNat ∧ c.toNat ≤ 0x7e) :
    isBlank c = false ∧ isPlainText c = true := by
  constructor
  · simp only [isBlank, Bool.or_eq_false_iff, Bool.and_eq_false_iff, beq_eq_false_iff_ne,
      decide_eq_false_iff_not]
    omega
  · simp only [isPlainText, Bool.or_eq_true, Bool.and_eq_true, decide_eq_true_eq, bne_iff_ne]
    omega

/-- What the characters of a name have in common. -/
structure InName (c : Char) : Prop where
  solid : isBlank c = false
  plain : isPlainText c = true
  apart : c ∉ ['"', '\\', '#', '[', '=', '\ufeff']

theorem inName_of_isNameChar (named : isNameChar c = true) : InName c := by
  have apart : c ∉ ['"', '\\', '#', '[', '=', '\ufeff'] := by
    intro held
    have unnamed : ['"', '\\', '#', '[', '=', '\ufeff'].all (!isNameChar ·) = true := by decide
    have other := List.all_eq_true.mp unnamed c held
    rw [named] at other
    cases other
  simp only [isNameChar, Bool.or_eq_true, Bool.and_eq_true, beq_iff_eq, decide_eq_true_eq,
    Bool.not_eq_true'] at named
  rcases named with (bare | rfl) | ⟨⟨beyond, solid⟩, -⟩
  · obtain ⟨least, most⟩ := toNat_of_isBareKeyChar bare
    obtain ⟨solid, plain⟩ := solid_of_toNat (c := c) (by omega)
    exact ⟨solid, plain, apart⟩
  · exact ⟨rfl, rfl, apart⟩
  · refine ⟨solid, ?_, apart⟩
    simp only [isPlainText, Bool.or_eq_true, Bool.and_eq_true, decide_eq_true_eq, bne_iff_ne]
    omega

theorem isBlank_of_isWhite (white : isWhite c = true) : isBlank c = true := by
  rw [isWhite, Bool.or_eq_true, beq_iff_eq] at white
  rcases white with space | rfl
  · exact Toml.isBlank_of_isSpace space
  · rfl

/-- The name of a channel: it is not empty, and its characters can be part of one. -/
structure ChannelName (channel : String) : Prop where
  written : channel ≠ ""
  named : ∀ c ∈ channel.toList, isNameChar c = true

variable (name : ChannelName channel)

include name

theorem ChannelName.valid : ValidChannel channel :=
  ⟨name.written, fun c held => (inName_of_isNameChar (name.named c held)).solid⟩

/-- A text with white space around it. -/
theorem ChannelName.isWord {before after : String} (white : ∀ c ∈ before.toList, isWhite c = true)
    (white' : ∀ c ∈ after.toList, isWhite c = true) :
    IsWord (before ++ channel ++ after) channel where
  around := ⟨before.toList, after.toList, by simp, fun c held => isBlank_of_isWhite (white c held),
    fun c held => isBlank_of_isWhite (white' c held)⟩
  written := name.written
  solid := name.valid.solid

/-- The name of a channel is no document. -/
theorem ChannelName.exists_error {before after : String}
    (white : ∀ c ∈ before.toList, isWhite c = true)
    (white' : ∀ c ∈ after.toList, isWhite c = true) :
    ∃ error, Toml.parse (before ++ channel ++ after) = .error error := by
  have apart : ∀ c ∈ (before ++ channel ++ after).toList, c ∉ ['#', '[', '=', '\ufeff'] := by
    have unwhite : ['#', '[', '=', '\ufeff'].all (!isWhite ·) = true := by decide
    have clean : ∀ c, isWhite c = true → c ∉ ['#', '[', '=', '\ufeff'] := by
      intro c white bad
      have other := List.all_eq_true.mp unwhite c bad
      rw [white] at other
      cases other
    intro c held
    rw [String.toList_append, String.toList_append, List.mem_append, List.mem_append] at held
    rcases held with (front | inside) | back
    · exact clean c (white c front)
    · have named := inName_of_isNameChar (name.named c inside)
      exact fun bad => named.apart (List.mem_of_mem_drop (i := 2) bad)
    · exact clean c (white' c back)
  apply Toml.exists_error_of_unmarked
  · intro c held
    rw [← Bool.not_eq_true, isMark, Bool.or_eq_true, beq_iff_eq, beq_iff_eq]
    rintro (rfl | rfl)
    · exact apart _ held (by decide)
    · exact apart _ held (by decide)
  · exact fun held => apart _ held (by decide)
  · exact fun held => apart _ held (by decide)
  · obtain ⟨c, held⟩ := List.exists_mem_of_ne_nil _ (mt String.toList_eq_nil_iff.mp name.written)
    refine ⟨c, ?_, name.valid.solid c held⟩
    rw [String.toList_append, String.toList_append]
    exact List.mem_append_left _ (List.mem_append_right _ held)

/-- The name of a channel, with white space around it, is the manifest of the channel. -/
theorem ChannelName.parse_line {before after : String}
    (white : ∀ c ∈ before.toList, isWhite c = true)
    (white' : ∀ c ∈ after.toList, isWhite c = true) :
    parse (before ++ channel ++ after) = .ok (ofChannel channel) := by
  obtain ⟨error, unread⟩ := name.exists_error white white'
  have refused : (Toml.parse (before ++ channel ++ after) >>= ofManifest) = .error error := by
    rw [unread]
    rfl
  exact (parse_ok_iff_of_error refused).mpr ⟨channel, name.isWord white white', rfl⟩

/-- A document that says no more than the channel is a manifest of it. -/
theorem ChannelName.parse_table {content : String}
    (read : Toml.parse content =
      .ok (.table [("toolchain", .table [("channel", .string channel)])])) :
    parse content = .ok (ofChannel channel) := by
  have holds : Holds (.table [("toolchain", .table [("channel", .string channel)])])
      (ofChannel channel) := ⟨.table [("channel", .string channel)], rfl, rfl⟩
  rw [parse_of_holds read holds]
  exact checked_ok_iff.mpr ⟨rfl, name.valid⟩

/-- The table of a channel, however it is spaced. -/
theorem ChannelName.parse_spaced (spacing : Toml.Spacing) :
    Toml.parse (String.ofList
      (spacing.document "toolchain".toList "channel".toList channel.toList)) =
        .ok (.table [("toolchain", .table [("channel", .string channel)])]) := by
  have inName : ∀ c ∈ channel.toList, InName c := fun c held =>
    inName_of_isNameChar (name.named c held)
  have isPlain : Toml.IsPlain channel.toList :=
    { written := mt String.toList_eq_nil_iff.mp name.written
      plain := fun c held => (inName c held).plain
      unquoted := fun held => (inName _ held).apart (by decide)
      unescaped := fun held => (inName _ held).apart (by decide) }
  have table : Toml.IsBare "toolchain".toList := ⟨by decide, List.all_eq_true.mp (by decide)⟩
  have key : Toml.IsBare "channel".toList := ⟨by decide, List.all_eq_true.mp (by decide)⟩
  rw [spacing.parse_document table key isPlain, String.ofList_toList, String.ofList_toList,
    String.ofList_toList]

omit name

/-- Whatever is read from a manifest has a channel that can be asked for. -/
theorem validChannel_of_parse {content : String} {toolchain : Toolchain}
    (parsed : parse content = .ok toolchain) : ValidChannel toolchain.channel := by
  unfold parse at parsed
  split at parsed
  · obtain ⟨rfl, valid⟩ := checked_ok_iff.mp parsed
    exact valid
  · cases parsed
  · dsimp only at parsed
    split_ifs at parsed
    obtain ⟨rfl, valid⟩ := checked_ok_iff.mp parsed
    exact valid

end Toolchain

open Toolchain

/-- The name of a channel, with any white space around it, and every document with a table for the
toolchain that says no more than the channel are manifests of one and the same toolchain; and such a
table can be written with any white space around its parts. The channel that is read from a
manifest, of either form, is never empty and has no blanks in it. -/
theorem forms_agree :
    (∀ channel, ChannelName channel →
      (∀ before after : String, (∀ c ∈ before.toList, isWhite c = true) →
        (∀ c ∈ after.toList, isWhite c = true) →
        parse (before ++ channel ++ after) = .ok (ofChannel channel)) ∧
      (∀ content, Toml.parse content =
          .ok (.table [("toolchain", .table [("channel", .string channel)])]) →
        parse content = .ok (ofChannel channel)) ∧
      ∀ spacing : Toml.Spacing, Toml.parse (String.ofList
          (spacing.document "toolchain".toList "channel".toList channel.toList)) =
        .ok (.table [("toolchain", .table [("channel", .string channel)])])) ∧
    ∀ content toolchain, parse content = .ok toolchain → ValidChannel toolchain.channel := by
  refine ⟨fun channel name => ⟨?_, ?_, ?_⟩, fun _ _ => validChannel_of_parse⟩
  · exact fun _ _ => name.parse_line
  · exact fun _ => name.parse_table
  · exact name.parse_spaced

theorem forms_agree_on_nightly :
    parse ("\n" ++ "nightly-2025-06-01" ++ "\t\n") = .ok (.ofChannel "nightly-2025-06-01") ∧
    parse "[toolchain]\nchannel = \"nightly-2025-06-01\"\n" =
      .ok (.ofChannel "nightly-2025-06-01") := by
  have name : ChannelName "nightly-2025-06-01" :=
    ⟨by decide, List.all_eq_true.mp (by decide)⟩
  have none_left : ∀ c ∈ [], isWhite c = true := List.forall_mem_nil _
  have none_left' : ∀ c ∈ [], Toml.isSpace c = true := List.forall_mem_nil _
  have feed : ∀ c ∈ ['\n'], isWhite c = true := by simp [isWhite]
  have space : ∀ c ∈ [' '], Toml.isSpace c = true := by simp [Toml.isSpace]
  obtain ⟨line, table, spaced⟩ := forms_agree.1 _ name
  constructor
  · exact line "\n" "\t\n" (List.all_eq_true.mp rfl) (List.all_eq_true.mp rfl)
  · apply table
    exact spaced ⟨[], [], [], ['\n'], [' '], [' '], ['\n'], none_left, none_left', none_left', feed,
      List.mem_singleton_self _, space, space, feed⟩

end SealedBuild
