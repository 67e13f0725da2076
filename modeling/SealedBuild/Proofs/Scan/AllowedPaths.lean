import SealedBuild.Proofs.Glob.Meaning
import SealedBuild.Proofs.Path.Location
import SealedBuild.Proofs.Scan.Occurrences

/-!
# Paths that are allowed by default

The default patterns come in pairs, one for the top of the tree and one for any depth. A star also
stands for slashes, so the second of a pair describes all that the first one does, and together the
six patterns say three things about the pieces of a path: how the last one ends, how some piece
starts, and which piece stands before the last one. The second of these is not about the last piece
alone, so all that lies below a directory with a name like that of a history file is allowed too.

Main statement: `allowed_by_default`.
-/

namespace SealedBuild

open Text

namespace Glob

variable {glob : Glob} {pattern text : String}

theorem matches_iff (parsed : parse pattern = .ok glob) :
    (∃ glob, parse pattern = .ok glob ∧ glob.isMatch text = true) ↔
      Describes glob.tokens text.toList := by
  simp [parsed, isMatch_iff]

end Glob

/-! ### The six patterns -/

namespace Path

variable {path : Path}

/-- The last piece of a path ends like the name of a document. -/
def EndsAsDocument (path : Path) : Prop :=
  ∃ last, path.pieces.getLast? = some last ∧ ".md".toList <:+ last

/-- Some piece of a path starts like the name of a history file. -/
def NamesHistory (path : Path) : Prop :=
  ∃ piece ∈ path.pieces, "CHANGELOG".toList <+: piece

/-- A piece of a path, but not the last one, is the directory of documents. -/
def LeadsThroughDocs (path : Path) : Prop := "docs".toList ∈ path.pieces.dropLast

end Path

namespace Glob

variable {path : Path} {tokens : List Token} {token : Token} {word s : List Char}

/-- What a pattern describes at the top, its pair describes there and further down. -/
theorem Describes.nested (describes : Describes tokens s) :
    Describes (.anyComponents :: tokens) s := .cons .noComponent describes

theorem describes_chars_anything_iff (anything : ∀ rest, Describes [token] rest) :
    Describes (word.map .char ++ [token]) s ↔ word <+: s := by
  rw [describes_chars_append_iff]
  constructor
  · rintro ⟨rest, rfl, -⟩
    exact List.prefix_append _ _
  · rintro ⟨rest, rfl⟩
    exact ⟨rest, rfl, anything rest⟩

/-- The tokens of `*.md`. -/
def documents : List Token := .anySequence :: ".md".toList.map .char

/-- The tokens of `docs/**`. -/
def docs : List Token := "docs/".toList.map .char ++ [.anyComponents]

/-- The tokens of `CHANGELOG*`. -/
def history : List Token := "CHANGELOG".toList.map .char ++ [.anySequence]

theorem nested_documents_iff :
    Describes (.anyComponents :: documents) path.text.toList ↔ path.EndsAsDocument := by
  have documents_iff (s : List Char) : Describes documents s ↔ ".md".toList <:+ s := by
    simp only [documents, describes_anySequence_cons_iff, describes_chars_iff, exists_eq_right]
  rw [describes_anyComponents_cons_iff (by rw [documents_iff]; decide), Path.EndsAsDocument,
    Path.pieces, ← suffix_iff_of_not_mem (by decide)]
  simp only [documents_iff]
  constructor
  · rintro ⟨rest, behind, ending⟩
    rcases cutAt_suffix_iff.mp behind with rfl | behind
    · exact ending
    · exact ending.trans ((List.suffix_cons _ _).trans behind)
  · intro ending
    exact ⟨_, List.suffix_refl _, ending⟩

theorem nested_docs_iff :
    Describes (.anyComponents :: docs) path.text.toList ↔ path.LeadsThroughDocs := by
  have docs_iff (s : List Char) : Describes docs s ↔ "docs".toList ++ ['/'] <+: s :=
    describes_chars_anything_iff describes_anything'
  rw [describes_anyComponents_cons_iff (by rw [docs_iff]; decide)]
  simp only [docs_iff]
  exact mem_dropLast_cutAt_iff (by decide)

theorem nested_history_iff :
    Describes (.anyComponents :: history) path.text.toList ↔ path.NamesHistory := by
  have history_iff (s : List Char) : Describes history s ↔ "CHANGELOG".toList <+: s :=
    describes_chars_anything_iff describes_anything
  rw [describes_anyComponents_cons_iff (by rw [history_iff]; decide)]
  simp only [history_iff]
  exact exists_piece_prefix_iff (by decide)

end Glob

/-- By default tokens are allowed on a path whose last piece ends like the name of a document, on
one that leads through a directory of documents, and on one with a piece that starts like the name
of a history file, wherever that piece stands. -/
theorem Scanner.isAllowed_default_iff {scanner : Scanner} {path : Path}
    (compiled : Scanner.ofSettings {} = .ok scanner) : scanner.isAllowed path = true ↔
      path.EndsAsDocument ∨ path.LeadsThroughDocs ∨ path.NamesHistory := by
  have parsed : Glob.parse "*.md" = .ok ⟨Glob.documents⟩ ∧
      Glob.parse "**/*.md" = .ok ⟨.anyComponents :: Glob.documents⟩ ∧
      Glob.parse "docs/**" = .ok ⟨Glob.docs⟩ ∧
      Glob.parse "**/docs/**" = .ok ⟨.anyComponents :: Glob.docs⟩ ∧
      Glob.parse "CHANGELOG*" = .ok ⟨Glob.history⟩ ∧
      Glob.parse "**/CHANGELOG*" = .ok ⟨.anyComponents :: Glob.history⟩ := by
    decide
  obtain ⟨documents, nested, docs, nestedDocs, history, nestedHistory⟩ := parsed
  have patterns : ({} : VerifySettings).allowedPaths = defaultAllowedPaths := rfl
  rw [TokenScanner.isAllowed_iff compiled, patterns]
  simp only [defaultAllowedPaths, List.exists_mem_cons_iff, List.not_mem_nil, false_and,
    exists_false, or_false]
  rw [Glob.matches_iff documents, Glob.matches_iff nested, Glob.matches_iff docs,
    Glob.matches_iff nestedDocs, Glob.matches_iff history, Glob.matches_iff nestedHistory,
    ← Glob.nested_documents_iff, ← Glob.nested_docs_iff, ← Glob.nested_history_iff]
  constructor
  · rintro (top | any | top | any | top | any)
    · exact .inl top.nested
    · exact .inl any
    · exact .inr (.inl top.nested)
    · exact .inr (.inl any)
    · exact .inr (.inr top.nested)
    · exact .inr (.inr any)
  · rintro (any | any | any)
    · exact .inr (.inl any)
    · exact .inr (.inr (.inr (.inl any)))
    · exact .inr (.inr (.inr (.inr (.inr any))))

/-- Names lead to a document or to a history file: the last one is the name of such a file, or an
earlier one is that of the directory of documents. -/
def IsDocumentation (names : List String) : Prop :=
  (∃ last, names.getLast? = some last ∧
    (".md".toList <:+ last.toList ∨ "CHANGELOG".toList <+: last.toList)) ∨
  "docs" ∈ names.dropLast

/-- Names lead through a directory that is named like a history file. -/
def LeadsThroughHistory (names : List String) : Prop :=
  ∃ name ∈ names.dropLast, "CHANGELOG".toList <+: name.toList

/-- What is said of the pieces of a path, said of its names. -/
theorem allowed_pieces_iff {names : List String} (ordinary : ∀ name ∈ names, Path.IsOrdinary name)
    (written : names ≠ []) :
    ((pathOf names).EndsAsDocument ∨ (pathOf names).LeadsThroughDocs ∨
      (pathOf names).NamesHistory) ↔ IsDocumentation names ∨ LeadsThroughHistory names := by
  have pieces : (pathOf names).pieces = names.map String.toList :=
    Path.pieces_intercalate (fun name member => (ordinary name member).whole) written
  obtain ⟨front, last, rfl⟩ : ∃ front last, names = front ++ [last] :=
    ⟨_, _, (List.dropLast_concat_getLast written).symm⟩
  rw [Path.EndsAsDocument, Path.LeadsThroughDocs, Path.NamesHistory, pieces, IsDocumentation,
    LeadsThroughHistory]
  simp only [List.map_append, List.map_cons, List.map_nil, List.getLast?_concat,
    List.dropLast_concat, Option.some.injEq, exists_eq_left', List.mem_append, List.mem_map,
    List.mem_singleton, String.toList_inj]
  constructor
  · rintro (ends | ⟨_, held, rfl⟩ | ⟨_, ⟨name, held, rfl⟩ | rfl, starts⟩)
    · exact .inl (.inl (.inl ends))
    · exact .inl (.inr held)
    · exact .inr ⟨name, held, starts⟩
    · exact .inl (.inl (.inr starts))
  · rintro (((ends | starts) | held) | ⟨name, held, starts⟩)
    · exact .inl ends
    · exact .inr (.inr ⟨_, .inr rfl, starts⟩)
    · exact .inr (.inl ⟨_, held, rfl⟩)
    · exact .inr (.inr ⟨_, .inl ⟨name, held, rfl⟩, starts⟩)

/-- The paths on which tokens are allowed by default. For all texts they are told by their pieces.
Names that are written as a path are allowed if they lead to a document or a history file, or
through a directory that is named like a history file. -/
theorem allowed_by_default {names : List String} (ordinary : ∀ name ∈ names, Path.IsOrdinary name)
    (written : names ≠ []) :
    ∃ scanner, Scanner.ofSettings {} = .ok scanner ∧
      (∀ path, scanner.isAllowed path = true ↔
        path.EndsAsDocument ∨ path.LeadsThroughDocs ∨ path.NamesHistory) ∧
      (scanner.isAllowed (pathOf names) = true ↔
        IsDocumentation names ∨ LeadsThroughHistory names) := by
  obtain ⟨scanner, compiled⟩ := exists_ofSettings_default
  have allowed_iff (path : Path) : scanner.isAllowed path = true ↔
      path.EndsAsDocument ∨ path.LeadsThroughDocs ∨ path.NamesHistory :=
    Scanner.isAllowed_default_iff compiled
  exact ⟨scanner, compiled, allowed_iff,
    (allowed_iff _).trans (allowed_pieces_iff ordinary written)⟩

namespace Sample

/-- The names of a source file in a directory that is named like a history file. -/
def underHistory : List String := ["CHANGELOG-tools", "src", "main.rs"]

theorem not_isDocumentation_underHistory : ¬ IsDocumentation underHistory := by
  rintro (⟨last, isLast, named⟩ | held)
  · obtain rfl : "main.rs" = last := Option.some.inj isLast
    revert named
    decide
  · revert held
    decide

end Sample

theorem allowed_by_default_under_history :
    (∀ name ∈ Sample.underHistory, Path.IsOrdinary name) ∧ Sample.underHistory ≠ [] ∧
    ∃ scanner, Scanner.ofSettings {} = .ok scanner ∧
      (∀ path, scanner.isAllowed path = true ↔
        path.EndsAsDocument ∨ path.LeadsThroughDocs ∨ path.NamesHistory) ∧
      (scanner.isAllowed (pathOf Sample.underHistory) = true ↔
        IsDocumentation Sample.underHistory ∨ LeadsThroughHistory Sample.underHistory) :=
  ⟨by decide, by decide, allowed_by_default (by decide) (by decide)⟩

/-- A source file that is neither a document nor a history file is allowed. -/
theorem source_allowed_under_history : ∃ scanner, Scanner.ofSettings {} = .ok scanner ∧
    scanner.isAllowed ⟨"CHANGELOG-tools/src/main.rs"⟩ = true ∧
    pathOf Sample.underHistory = ⟨"CHANGELOG-tools/src/main.rs"⟩ ∧
    ¬ IsDocumentation Sample.underHistory := by
  obtain ⟨scanner, compiled⟩ := exists_ofSettings_default
  refine ⟨scanner, compiled, ?_, by decide, Sample.not_isDocumentation_underHistory⟩
  exact (Scanner.isAllowed_default_iff compiled).mpr
    (.inr (.inr ⟨"CHANGELOG-tools".toList, by decide, by decide⟩))

end SealedBuild
