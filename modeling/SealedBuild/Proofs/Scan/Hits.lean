import SealedBuild.Proofs.FileSystem.Listing
import SealedBuild.Scan

/-!
# The hits of a scan

A scan reports matches; what it leaves out is where in the settings the token of a match stands, and
the names of its file one by one. Together with the number of the line these make up the spot of a
match. `TokenScanner.hits` are the matches of a scan with their spots. They are counted along with
the files, lines and tokens that the scan goes through, so a spot is true of its match by the way it
is found.

Main statements: `hits_map_snd`, `mem_hits_iff` and `hits_pairwise_before`.
-/

namespace SealedBuild

open Text

/-- Where a match stands: the names that lead to its file, the number of its line, which is counted
from one, and the place of its token in the settings. -/
structure Spot where
  names : RawPlace
  line : Nat
  token : Nat
  deriving DecidableEq

/-- The order of spots: by path, compared name by name and byte by byte, then by line, then by
token. -/
def Spot.Before (first second : Spot) : Prop :=
  first.names < second.names ∨
    first.names = second.names ∧
      (first.line < second.line ∨ first.line = second.line ∧ first.token < second.token)

theorem Spot.not_before_self (spot : Spot) : ¬ spot.Before spot := by
  rintro (less | ⟨-, less | ⟨-, less⟩⟩)
  · exact List.lt_irrefl _ less
  · exact Nat.lt_irrefl _ less
  · exact Nat.lt_irrefl _ less

/-- The members of a list are numbered upwards. -/
theorem zipIdx_pairwise_lt {α : Type} (l : List α) (start : Nat) :
    (l.zipIdx start).Pairwise fun a b => a.2 < b.2 := by
  rw [← List.pairwise_map (R := (· < ·)), List.zipIdx_map_snd]
  exact List.pairwise_lt_range'

namespace TokenScanner

variable {languages : Languages} {scanner : TokenScanner languages} {files : FileSystem}
  {root : Path} {names : RawPlace} {content : Bytes} {spot : Spot} {found : TokenMatch}

/-- A token of the scanner matches a line of a file. -/
inductive Finds (scanner : TokenScanner languages) (content : Bytes) : Spot → TokenMatch → Prop
  | on {names : RawPlace} {number index : Nat} {text line : String}
      {token : languages.lines.Pattern × String}
      (isText : content.text? = some text) (isLine : (linesOf text)[number]? = some line)
      (isToken : scanner.tokens[index]? = some token)
      (isMatch : languages.lines.isMatch token.1 line = true) :
      Finds scanner content ⟨names, number + 1, index⟩
        { path := .ofNames names, line := number + 1, token := token.2
          excerpt := Scanner.excerpt line, allowed := scanner.allows (.ofNames names) }

/-- The matches on one line with their spots. -/
def hitsOnLine (scanner : TokenScanner languages) (names : RawPlace) (number : Nat)
    (line : String) : List (Spot × TokenMatch) :=
  (scanner.tokens.zipIdx.filter fun token => languages.lines.isMatch token.1.1 line).map
    fun token => (⟨names, number, token.2⟩,
      { path := .ofNames names, line := number, token := token.1.2
        excerpt := Scanner.excerpt line, allowed := scanner.allows (.ofNames names) })

/-- The matches in a file with their spots. -/
def hitsInFile (scanner : TokenScanner languages) (names : RawPlace) (content : Bytes) :
    List (Spot × TokenMatch) :=
  match content.text? with
  | some text => ((linesOf text).zipIdx 1).flatMap fun line =>
      scanner.hitsOnLine names line.2 line.1
  | none => []

/-- The matches in the tree below a path with their spots. -/
def hits (scanner : TokenScanner languages) (files : FileSystem) (root : Path) :
    List (Spot × TokenMatch) :=
  (scanner.scannedFiles files root).flatMap fun file => scanner.hitsInFile file.1 file.2

/-! ### The matches without their spots -/

theorem hitsOnLine_map_snd (scanner : TokenScanner languages) (names : RawPlace) (number : Nat)
    (line : String) :
    (scanner.hitsOnLine names number line).map (·.2) =
      scanner.matchesOnLine (.ofNames names) number line := by
  have tokens : scanner.tokens.filter (fun token => languages.lines.isMatch token.1 line) =
      (scanner.tokens.zipIdx.filter fun token =>
        languages.lines.isMatch token.1.1 line).map (·.1) := by
    calc
      _ = (scanner.tokens.zipIdx.map (·.1)).filter fun token =>
          languages.lines.isMatch token.1 line := by
        rw [List.zipIdx_map_fst]
      _ = _ := List.filter_map
  rw [hitsOnLine, matchesOnLine, tokens, List.map_map, List.map_map]
  rfl

theorem matchesInLines_eq_flatMap (scanner : TokenScanner languages) (path : OsPath) (number : Nat)
    (lines : List String) :
    scanner.matchesInLines path number lines =
      (lines.zipIdx number).flatMap fun line => scanner.matchesOnLine path line.2 line.1 := by
  induction lines generalizing number with
  | nil => rfl
  | cons line rest ih => rw [matchesInLines, ih, List.zipIdx_cons, List.flatMap_cons]

theorem hitsInFile_map_snd (scanner : TokenScanner languages) (names : RawPlace)
    (content : Bytes) :
    (scanner.hitsInFile names content).map (·.2) = scanner.matchesInFile names content := by
  unfold hitsInFile matchesInFile
  cases content.text? with
  | none => rfl
  | some text =>
    simp only [List.map_flatMap, hitsOnLine_map_snd, matchesInLines_eq_flatMap]

/-- A scan reports its hits. -/
theorem hits_map_snd (scanner : TokenScanner languages) (files : FileSystem) (root : Path) :
    (scanner.hits files root).map (·.2) = scanner.scan files root := by
  rw [hits, scan, List.map_flatMap]
  simp only [hitsInFile_map_snd]

/-! ### Which hits there are -/

theorem mem_hitsInFile_iff :
    (spot, found) ∈ scanner.hitsInFile names content ↔
      spot.names = names ∧ scanner.Finds content spot found := by
  constructor
  · intro hit
    unfold hitsInFile at hit
    split at hit
    next text isText =>
      obtain ⟨⟨line, number⟩, numbered, onLine⟩ := List.mem_flatMap.mp hit
      obtain ⟨⟨token, index⟩, chosen, eq⟩ := List.mem_map.mp onLine
      obtain ⟨isToken, isMatch⟩ := List.mem_filter.mp chosen
      cases eq
      obtain ⟨positive, isLine⟩ := List.mk_mem_zipIdx_iff_le_and_getElem?_sub.mp numbered
      obtain ⟨number, rfl⟩ := Nat.exists_eq_add_of_le' positive
      rw [Nat.add_sub_cancel] at isLine
      exact ⟨rfl, .on isText isLine (List.mk_mem_zipIdx_iff_getElem?.mp isToken) isMatch⟩
    next => cases hit
  · rintro ⟨rfl, finds⟩
    cases finds with
    | @on names number index text line token isText isLine isToken isMatch =>
      simp only [hitsInFile, isText]
      refine List.mem_flatMap.mpr ⟨(line, number + 1), ?_, ?_⟩
      · exact List.mk_mem_zipIdx_iff_le_and_getElem?_sub.mpr ⟨by omega, by simpa using isLine⟩
      · have numbered := List.mk_mem_zipIdx_iff_getElem?.mpr isToken
        exact List.mem_map.mpr ⟨(token, index), List.mem_filter.mpr ⟨numbered, isMatch⟩, rfl⟩

/-- The hits of a scan are what its tokens find in the files that it reads. -/
theorem mem_hits_iff :
    (spot, found) ∈ scanner.hits files root ↔
      ∃ content, (spot.names, content) ∈ scanner.scannedFiles files root ∧
        scanner.Finds content spot found := by
  simp only [hits, List.mem_flatMap, mem_hitsInFile_iff]
  constructor
  · rintro ⟨⟨names, content⟩, read, rfl, finds⟩
    exact ⟨content, read, finds⟩
  · rintro ⟨content, read, finds⟩
    exact ⟨_, read, rfl, finds⟩

/-! ### Their order -/

theorem hitsOnLine_pairwise_before (scanner : TokenScanner languages) (names : RawPlace)
    (number : Nat) (line : String) :
    (scanner.hitsOnLine names number line).Pairwise fun a b => a.1.Before b.1 := by
  rw [hitsOnLine, List.pairwise_map]
  refine ((zipIdx_pairwise_lt _ _).filter _).imp ?_
  intro token token' less
  exact .inr ⟨rfl, .inr ⟨rfl, less⟩⟩

theorem line_of_mem_hitsOnLine {number : Nat} {line : String} {hit : Spot × TokenMatch}
    (mem : hit ∈ scanner.hitsOnLine names number line) :
    hit.1.names = names ∧ hit.1.line = number := by
  obtain ⟨token, -, rfl⟩ := List.mem_map.mp mem
  exact ⟨rfl, rfl⟩

theorem hitsInFile_pairwise_before (scanner : TokenScanner languages) (names : RawPlace)
    (content : Bytes) :
    (scanner.hitsInFile names content).Pairwise fun a b => a.1.Before b.1 := by
  unfold hitsInFile
  split
  · rw [List.pairwise_flatMap]
    refine ⟨fun _ _ => hitsOnLine_pairwise_before _ _ _ _, (zipIdx_pairwise_lt _ _).imp ?_⟩
    intro line line' less hit mem hit' mem'
    obtain ⟨names_eq, line_eq⟩ := line_of_mem_hitsOnLine mem
    obtain ⟨names_eq', line_eq'⟩ := line_of_mem_hitsOnLine mem'
    refine .inr ⟨names_eq.trans names_eq'.symm, .inl ?_⟩
    rwa [line_eq, line_eq']
  · exact .nil

/-- The files that a scan reads come in the order of their names. -/
theorem scannedFiles_pairwise_lt (scanner : TokenScanner languages) (files : FileSystem)
    (root : Path) :
    (scanner.scannedFiles files root).Pairwise fun a b => a.1 < b.1 := by
  unfold scannedFiles
  split
  · exact .nil
  · split
    · exact .nil
    · split
      · split
        · exact List.pairwise_singleton _ _
        · exact .nil
      · split
        · split
          · exact (FileSystem.listing_pairwise_lt _ _ _).filter _
          · exact .nil
        · exact .nil

/-- The order of the files, of the lines in each of them and of the tokens makes up the order of the
hits. -/
theorem hits_pairwise_before (scanner : TokenScanner languages) (files : FileSystem)
    (root : Path) :
    (scanner.hits files root).Pairwise fun a b => a.1.Before b.1 := by
  rw [hits, List.pairwise_flatMap]
  refine ⟨fun _ _ => hitsInFile_pairwise_before _ _ _,
    (scannedFiles_pairwise_lt scanner files root).imp ?_⟩
  intro file file' less hit mem hit' mem'
  rw [← (mem_hitsInFile_iff.mp mem).1, ← (mem_hitsInFile_iff.mp mem').1] at less
  exact .inl less

end TokenScanner

end SealedBuild
