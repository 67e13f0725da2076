import SealedBuild.Proofs.Scan.Occurrences

/-!
# The order of a scan

The matches of a scan come in one order that the tree alone determines: by path, compared name by
name and byte by byte, then by line, then by token. This is not the order of the paths as texts:
`a/b` comes before `a.rs`, although a dot is a smaller byte than a slash.

A walk that sorts the names of each directory comes to the same order, whatever order the file
system lists them in. Neither does it matter in which order the entries have been made. The spelling
of the root matters only where it makes the path of a file too long.

Main statement: `scan_canonical`. It rests on `hits_pairwise_before`, on `listing_eq_descend` for
the walk, and on `listing_eq_of_sight?_eq` for trees that hold the same.
-/

namespace SealedBuild

namespace FileSystem

section Find

variable {κ : Type} [DecidableEq κ] {entries entries' : List (κ × Entry)} {wanted : κ}
  {entry : Entry}

/-- An entry counts if no other one has its place. -/
theorem find_eq_some_of_mem (distinct : (entries.map (·.1)).Nodup)
    (mem : (wanted, entry) ∈ entries) : find entries wanted = some entry := by
  induction entries with
  | nil => cases mem
  | cons first rest ih =>
    rw [List.map_cons, List.nodup_cons] at distinct
    rcases List.mem_cons.mp mem with rfl | mem
    · rw [find, if_pos rfl]
    · have other : first.1 ≠ wanted := by
        rintro rfl
        exact distinct.1 (List.mem_map.mpr ⟨_, mem, rfl⟩)
      rw [find, if_neg other]
      exact ih distinct.2 mem

/-- The order of the entries does not matter if no two are at one place. -/
theorem find_eq_of_perm (perm : entries'.Perm entries) (distinct : (entries.map (·.1)).Nodup) :
    find entries' wanted = find entries wanted := by
  cases found : find entries wanted with
  | some entry =>
    have distinct' := (perm.map (·.1)).symm.nodup distinct
    exact find_eq_some_of_mem distinct' (perm.symm.mem_iff.mp (mem_of_find_eq_some found))
  | none =>
    cases found' : find entries' wanted with
    | none => rfl
    | some entry =>
      have mem := perm.mem_iff.mp (mem_of_find_eq_some found')
      exact absurd found (find_ne_none_iff.mpr ⟨entry, mem⟩)

end Find

variable {before after : FileSystem}

/-- Walks see nothing of a file system but what is at its locations. -/
theorem walkWith_congr (same : ∀ place, after.lookup place = before.lookup place) (follow : Bool)
    (onLink : Location → List String → Except OsError Location) (here : Location)
    (names : List String) :
    after.walkWith follow onLink here names = before.walkWith follow onLink here names := by
  induction names generalizing here with
  | nil => rfl
  | cons name rest ih =>
    simp only [walkWith, isDirectoryAt, same, ih]
    rfl

theorem walk_congr (same : ∀ place, after.lookup place = before.lookup place) (follow : Bool)
    (links : Nat) : after.walk follow links = before.walk follow links := by
  induction links with
  | zero => exact funext fun here => funext fun names => walkWith_congr same _ _ here names
  | succ links ih =>
    rw [walk, walk, ih]
    exact funext fun here => funext fun names => walkWith_congr same _ _ here names

/-- Two file systems hold the same at every place and let the program see the same of it. -/
structure Alike (after before : FileSystem) : Prop where
  lookup : ∀ place, after.lookup place = before.lookup place
  odd : ∀ place, find after.odd place = find before.odd place
  access : after.access = before.access
  workingDirectory : after.workingDirectory = before.workingDirectory

theorem Alike.sight?_eq (alike : after.Alike before) (place : RawPlace) :
    after.sight? place = before.sight? place := by
  have odd : find after.odd = find before.odd := funext alike.odd
  have raw : after.rawLookup place = before.rawLookup place := by
    simp only [rawLookup, alike.lookup, odd]
  rw [sight?, sight?, raw, alike.access]

/-- It makes no difference in which order entries are made, if no two are at one place. -/
theorem Alike.of_perm (entries : after.entries.Perm before.entries)
    (distinct : (before.entries.map (·.1)).Nodup) (odd : after.odd.Perm before.odd)
    (distinctOdd : (before.odd.map (·.1)).Nodup) (access : after.access = before.access)
    (workingDirectory : after.workingDirectory = before.workingDirectory) :
    after.Alike before where
  lookup place := by
    rw [FileSystem.lookup, FileSystem.lookup, find_eq_of_perm entries distinct]
  odd _ := find_eq_of_perm odd distinctOdd
  access := access
  workingDirectory := workingDirectory

end FileSystem

namespace TokenScanner

variable {languages : Languages} {scanner : TokenScanner languages}
  {files before after : FileSystem} {root : Path} {place : Location}

/-- What a scan finds when it walks a directory depth first and is handed the names in each
directory in some order. -/
def scanBy (scanner : TokenScanner languages) (files : FileSystem)
    (order : RawPlace → List RawName) (root : Path) (place : Location) : List TokenMatch :=
  ((files.descend scanner.skipNames order files.depth (Location.raw place)).filter fun file =>
    canOpen root file.1).flatMap fun file => scanner.matchesInFile file.1 file.2

/-- A scan sees nothing of a file system but what is at its places. -/
theorem scan_congr (alike : after.Alike before) (scanner : TokenScanner languages) (root : Path) :
    scanner.scan after root = scanner.scan before root := by
  have listings (place : RawPlace) :
      after.listing scanner.skipNames place = before.listing scanner.skipNames place :=
    FileSystem.listing_eq_of_sight?_eq fun names => alike.sight?_eq (place ++ names)
  simp only [scan, scannedFiles, FileSystem.startOf, FileSystem.resolve, FileSystem.isDirectoryAt,
    FileSystem.walk_congr alike.lookup, alike.workingDirectory, alike.lookup, alike.access,
    listings]
  rfl

/-- Directories below which the same is seen are scanned alike, from roots from which the same files
can be opened. -/
theorem scan_eq_of_sight?_eq {root' : Path} {place' : Location}
    (resolved : before.resolve root = .ok place) (inside : before.isDirectoryAt place = true)
    (resolved' : after.resolve root' = .ok place') (inside' : after.isDirectoryAt place' = true)
    (same : ∀ names, after.sight? (Location.raw place' ++ names) =
      before.sight? (Location.raw place ++ names))
    (opens : ∀ names content, before.Sees scanner.skipNames (Location.raw place) names content →
      canOpen root' names = canOpen root names) :
    scanner.scan after root' = scanner.scan before root := by
  have opened :
      (before.listing scanner.skipNames (Location.raw place)).filter
        (fun file => canOpen root' file.1) =
      (before.listing scanner.skipNames (Location.raw place)).filter
        fun file => canOpen root file.1 :=
    List.filter_congr fun file mem => opens _ _ (FileSystem.mem_listing_iff.mp mem)
  rw [scan, scan, scannedFiles_of_isDirectoryAt resolved inside,
    scannedFiles_of_isDirectoryAt resolved' inside', FileSystem.listing_eq_of_sight?_eq same,
    opened]

/-- The order of the matches of a scan is determined by what is in the tree. -/
structure Canonical (scanner : TokenScanner languages) (files : FileSystem) (root : Path) :
    Prop where
  /-- The matches come with spots that are strictly increasing, and every spot is that of its match:
  a file that is scanned, a line of this file and a token that matches there. -/
  increasing : ∃ hits : List (Spot × TokenMatch), scanner.scan files root = hits.map (·.2) ∧
    (hits.map (·.1)).Pairwise Spot.Before ∧
    ∀ hit ∈ hits, ∃ content, (hit.1.names, content) ∈ scanner.scannedFiles files root ∧
      scanner.Finds content hit.1 hit.2
  /-- It makes no difference in which order the names in a directory are listed. -/
  listed : ∀ {place order}, files.resolve root = .ok place → files.isDirectoryAt place = true →
    files.Lists order → scanner.scan files root = scanner.scanBy files order root place
  /-- It makes no difference in which order the entries have been made. -/
  made : ∀ {after : FileSystem}, after.entries.Perm files.entries →
    (files.entries.map (·.1)).Nodup → after.odd.Perm files.odd →
    (files.odd.map (·.1)).Nodup → after.access = files.access →
    after.workingDirectory = files.workingDirectory →
    scanner.scan after root = scanner.scan files root
  /-- Two trees in which the same is seen give the same matches, and the same text of the failure
  that reports them, unless there is a file that can be opened by its path below one root only. -/
  determined : ∀ {after : FileSystem} {root' : Path} {place place' : Location},
    files.resolve root = .ok place → files.isDirectoryAt place = true →
    after.resolve root' = .ok place' → after.isDirectoryAt place' = true →
    (∀ names, after.sight? (Location.raw place' ++ names) =
      files.sight? (Location.raw place ++ names)) →
    (∀ names content, files.Sees scanner.skipNames (Location.raw place) names content →
      canOpen root' names = canOpen root names) →
    scanner.scan after root' = scanner.scan files root ∧
      ∀ report : Report, { report with tokens := scanner.scan after root' : Report }.failure =
        { report with tokens := scanner.scan files root : Report }.failure

end TokenScanner

/-- The matches of a scan are strictly increasing by path, line and token. Neither the order in
which directories are listed nor the order in which entries were made has a part in them, so trees
that hold the same give the same matches, as long as the same files can be opened by their paths. -/
theorem scan_canonical {languages : Languages} (scanner : TokenScanner languages)
    (files : FileSystem) (root : Path) : scanner.Canonical files root where
  increasing := by
    refine ⟨scanner.hits files root, (TokenScanner.hits_map_snd _ _ _).symm, ?_, fun hit mem => ?_⟩
    · exact List.pairwise_map.mpr (TokenScanner.hits_pairwise_before scanner files root)
    · exact TokenScanner.mem_hits_iff.mp mem
  listed resolved inside lists := by
    rw [TokenScanner.scan, TokenScanner.scannedFiles_of_isDirectoryAt resolved inside,
      TokenScanner.scanBy, FileSystem.listing_eq_descend lists]
  made entries distinct odd distinctOdd access workingDirectory :=
    TokenScanner.scan_congr
      (.of_perm entries distinct odd distinctOdd access workingDirectory) scanner root
  determined {after root' place place'} resolved inside resolved' inside' same opens := by
    have equal : scanner.scan after root' = scanner.scan files root :=
      TokenScanner.scan_eq_of_sight?_eq resolved inside resolved' inside' same opens
    exact ⟨equal, fun report => by rw [equal]⟩

theorem scan_canonical_of_sources : ∃ scanner, Scanner.ofSettings {} = .ok scanner ∧
    scanner.scan Sample.sources ⟨"source"⟩ =
      scanner.scanBy Sample.sources (fun here => (Sample.sources.namesIn here).reverse) ⟨"source"⟩
        ["source"] ∧
    scanner.scan { Sample.sources with entries := Sample.sources.entries.reverse } ⟨"source"⟩ =
      scanner.scan Sample.sources ⟨"source"⟩ := by
  obtain ⟨scanner, compiled⟩ := exists_ofSettings_default
  have canonical := scan_canonical scanner Sample.sources ⟨"source"⟩
  have lists := (FileSystem.lists_namesIn Sample.sources).reverse
  exact ⟨scanner, compiled, canonical.listed rfl rfl lists,
    canonical.made (List.reverse_perm _) (by decide) (.refl _) (by decide) rfl rfl⟩

namespace Sample

/-- A longer spelling of the working directory. -/
def dottedRoot : Path := pathOf (List.replicate 200 ".")

end Sample

/-- The same tree, scanned from two spellings of its root, gives different matches: from the longer
one, the path of the manifest is too long. -/
theorem matches_by_spelling : ∃ scanner, Scanner.ofSettings {} = .ok scanner ∧
    (Sample.nested Sample.longName 15).resolve ⟨"."⟩ = .ok [] ∧
    (Sample.nested Sample.longName 15).resolve Sample.dottedRoot = .ok [] ∧
    (Sample.nested Sample.longName 15).isDirectoryAt [] = true ∧
    scanner.scan (Sample.nested Sample.longName 15) ⟨"."⟩ ≠ [] ∧
    scanner.scan (Sample.nested Sample.longName 15) Sample.dottedRoot = [] := by
  obtain ⟨scanner, compiled⟩ := exists_ofSettings_default
  have resolved : (Sample.nested Sample.longName 15).resolve Sample.dottedRoot = .ok [] :=
    eq_ok_of_toOption (by decide +kernel)
  refine ⟨scanner, compiled, rfl, resolved, rfl, fun nothing => ?_, ?_⟩
  · have leads : (Sample.nested Sample.longName 15).Leads
        (({} : VerifySettings).skipDirs.map Bytes.ofString) []
        (Location.raw (Sample.nestedNames Sample.longName 15)) Sample.manifest :=
      Sample.leads_nested (by decide +kernel)
    have isOpen : (Sample.nested Sample.longName 15).IsOpen []
        (Location.raw (Sample.nestedNames Sample.longName 15)) :=
      FileSystem.isOpen_of_access_eq rfl
    have opens : TokenScanner.canOpen ⟨"."⟩
        (Location.raw (Sample.nestedNames Sample.longName 15)) = true := by decide +kernel
    obtain ⟨found, occurs⟩ : ∃ found, Occurs .standard
        (fun names => TokenScanner.canOpen ⟨"."⟩ names = true ∧
          (Sample.nested Sample.longName 15).IsOpen (Location.raw []) names)
        {} (Sample.nested Sample.longName 15) (Location.raw []) ⟨_, 1, 0⟩ found :=
      exists_occurs_of_leads ⟨opens, isOpen⟩ leads
    have held := TokenScanner.mem_scan_of_occurs compiled rfl rfl occurs
    rw [nothing] at held
    cases held
  · refine TokenScanner.scan_eq_nil_of_forall_not resolved rfl fun names content leads opens => ?_
    obtain ⟨mode, held⟩ := leads.held
    obtain rfl : names = _ := Sample.eq_of_rawLookup_nested held
    exact absurd opens.1 (by decide +kernel)

end SealedBuild
