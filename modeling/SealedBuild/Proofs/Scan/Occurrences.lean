import SealedBuild.Proofs.OsPath
import SealedBuild.Proofs.Outcome
import SealedBuild.Proofs.Scan.Hits

/-!
# A scan finds every occurrence

A token occurs where its pattern matches a line of a text file that names lead to from the root of
the scan. A scan reports each occurrence once, and nothing else. Only files that the program cannot
come by are passed over, with whatever they hold: those whose path is too long, those that it may
not read, and those below a directory that it may not list.

The patterns that a scan uses are compiled from the settings, one for each token and in the same
order, so the place of a token in the settings is its place among the compiled ones. In which
languages the patterns are written makes no difference.

Main statement: `occurrences_of_scan`. Its proof reads the hits of the scan as occurrences:
`mem_scannedFiles_iff` says which files are read, and `ofSettings_ok` which patterns are tried.
-/

namespace SealedBuild

open Text

namespace FileSystem

variable {files : FileSystem} {links : Nat} {here place : Location} {names : List String}

/-- A walk to a directory also succeeds if it does not follow a link at its end; it then stops at a
directory or at that link. -/
theorem Walks.unfollowed (walked : Walks files true links here names place)
    (inside : files.isDirectoryAt place = true) :
    ∃ place', Walks files false links here names place' ∧
      ∀ mode content, files.lookup place' ≠ some (.file mode content) := by
  induction walked with
  | done => exact ⟨_, .done, by simp [isDirectoryAt_iff.mp inside]⟩
  | stay through more ih =>
    obtain ⟨place', walked', solid⟩ := ih inside
    exact ⟨place', .stay through walked', solid⟩
  | up through more ih =>
    obtain ⟨place', walked', solid⟩ := ih inside
    exact ⟨place', .up through walked', solid⟩
  | down passes plain more ih =>
    obtain ⟨place', walked', solid⟩ := ih inside
    exact ⟨place', .down passes plain walked', solid⟩
  | stop passes kept => cases kept
  | @link links here place name target rest passes goes more ih =>
    by_cases ending : rest = []
    · subst ending
      exact ⟨_, .stop passes rfl, by simp [passes.held]⟩
    · obtain ⟨place', walked', solid⟩ := ih inside
      exact ⟨place', .link passes (by simp [ending]) walked', solid⟩

end FileSystem

/-- The system takes a stored path in text if it takes the path. -/
theorem FileSystem.takes_ofPath_iff {path : Path} :
    takes (.ofPath path) = true ↔ Usable path := by
  have zero : (0 : UInt8) ∈ (OsPath.ofPath path).bytes ↔ Char.ofNat 0 ∈ path.text.toList := by
    rw [OsPath.ofPath, Bytes.ofString_eq_flatMap]
    exact Bytes.mem_encoded_iff rfl (by decide)
  have empty : (OsPath.ofPath path).bytes = [] ↔ path.text = "" := Bytes.ofString_inj (t := "")
  have length : (OsPath.ofPath path).bytes.length = path.text.utf8ByteSize := rfl
  simp only [takes, Bool.and_eq_true, Bool.not_eq_true', decide_eq_true_eq, ← Bool.not_eq_true,
    List.contains_iff_mem, List.isEmpty_iff, zero, empty, length]
  constructor
  · rintro ⟨⟨noZero, notEmpty⟩, short⟩
    exact ⟨noZero, notEmpty, short⟩
  · rintro ⟨noZero, notEmpty, short⟩
    exact ⟨⟨noZero, notEmpty⟩, short⟩

namespace TokenScanner

variable {languages : Languages} {settings : VerifySettings} {scanner : TokenScanner languages}
  {files : FileSystem} {root : Path} {place : Location} {names : RawPlace} {content : Bytes}
  {spot : Spot} {found : TokenMatch}

/-! ### The compiled patterns -/

theorem compileToken_ok_iff {token : Token} {compiled : languages.lines.Pattern × String} :
    compileToken languages token = .ok compiled ↔
      languages.lines.compile token.pattern = .ok compiled.1 ∧ token.pattern = compiled.2 := by
  obtain ⟨pattern, text⟩ := compiled
  unfold compileToken
  split
  next pattern' compiled => simp [compiled]
  next error refused => simp [refused]

theorem compileAllowed_ok_iff {pattern : String} {compiled : languages.paths.Pattern} :
    compileAllowed languages pattern = .ok compiled ↔
      languages.paths.compile pattern = .ok compiled := by
  unfold compileAllowed
  split
  next compiled' parsed => simp [parsed]
  next error refused => simp [refused]

/-- A scanner holds the patterns of its settings, each in its place. -/
theorem ofSettings_ok (compiled : ofSettings languages settings = .ok scanner) :
    settings.tokens.mapM (compileToken languages) = .ok scanner.tokens ∧
      settings.allowedPaths.mapM (compileAllowed languages) = .ok scanner.allowed ∧
      settings.skipDirs = scanner.skipDirs := by
  obtain ⟨tokens, compiledTokens, compiled⟩ := ok_of_bind compiled
  obtain ⟨patterns, allowed, made⟩ := ok_of_bind compiled
  obtain rfl := Except.ok.inj made
  exact ⟨compiledTokens, allowed, rfl⟩

/-- Tokens are allowed on the paths that one of the settings' patterns describes. -/
theorem isAllowed_iff (compiled : ofSettings languages settings = .ok scanner) (path : Path) :
    scanner.isAllowed path = true ↔ ∃ pattern ∈ settings.allowedPaths, ∃ compiled,
      languages.paths.compile pattern = .ok compiled ∧
        languages.paths.isMatch compiled path.text = true := by
  obtain ⟨-, allowed, -⟩ := ofSettings_ok compiled
  simp only [isAllowed, List.any_eq_true, mem_of_mapM_ok allowed, compileAllowed_ok_iff]
  constructor
  · rintro ⟨compiled, ⟨pattern, mem, parsed⟩, isMatch⟩
    exact ⟨pattern, mem, compiled, parsed, isMatch⟩
  · rintro ⟨pattern, mem, compiled, parsed, isMatch⟩
    exact ⟨compiled, ⟨pattern, mem, parsed⟩, isMatch⟩

/-- On stored paths, tokens are allowed only if these are text. -/
theorem allows_iff (compiled : ofSettings languages settings = .ok scanner) {path : OsPath} :
    scanner.allows path = true ↔ ∃ text, path = .ofPath text ∧
      ∃ pattern ∈ settings.allowedPaths, ∃ compiled,
        languages.paths.compile pattern = .ok compiled ∧
          languages.paths.isMatch compiled text.text = true := by
  simp only [allows, Option.any_eq_true, ← isAllowed_iff compiled]
  constructor
  · rintro ⟨text, isText, allowed⟩
    exact ⟨⟨text⟩, OsPath.text?_eq_some_iff.mp isText, allowed⟩
  · rintro ⟨text, rfl, allowed⟩
    exact ⟨text.text, OsPath.text?_ofPath text, allowed⟩

/-! ### The files that are read -/

/-- A scan of a directory reads the files of its listing that can be opened. -/
theorem scannedFiles_of_isDirectoryAt (resolved : files.resolve root = .ok place)
    (inside : files.isDirectoryAt place = true) :
    scanner.scannedFiles files root =
      (files.listing scanner.skipNames (Location.raw place)).filter fun file =>
        canOpen root file.1 := by
  have wellFormed : FileSystem.malformed? root = none := by
    cases fault : FileSystem.malformed? root with
    | none => rfl
    | some error => simp [FileSystem.resolve, fault] at resolved
  have walked :
      files.walk true FileSystem.maxLinks (files.startOf root) root.steps = .ok place := by
    simpa [FileSystem.resolve, wellFormed] using resolved
  obtain ⟨place', walked', solid⟩ := (FileSystem.walk_ok_iff.mp walked).unfollowed inside
  rw [scannedFiles, wellFormed]
  simp only [FileSystem.walk_ok_iff.mpr walked', resolved, inside, if_true]

theorem mem_scannedFiles_iff (resolved : files.resolve root = .ok place)
    (inside : files.isDirectoryAt place = true) :
    (names, content) ∈ scanner.scannedFiles files root ↔
      files.Leads scanner.skipNames (Location.raw place) names content ∧
        canOpen root names = true ∧ files.IsOpen (Location.raw place) names := by
  have held : files.rawLookup (Location.raw place) = some .directory := by
    rw [FileSystem.rawLookup_raw]
    exact FileSystem.isDirectoryAt_iff.mp inside
  rw [scannedFiles_of_isDirectoryAt resolved inside, List.mem_filter, FileSystem.mem_listing_iff,
    FileSystem.sees_iff, and_iff_right held, and_assoc, and_comm (b := _ = true)]

end TokenScanner

/-- A token of the settings occurs at a spot in the tree at a place, in a file whose names are as
wanted. The names lead to the file through real directories, none of which has a name to skip. -/
inductive Occurs (languages : Languages) (wanted : RawPlace → Prop) (settings : VerifySettings)
    (files : FileSystem) (place : RawPlace) : Spot → TokenMatch → Prop
  | on {names : RawPlace} {number index : Nat} {content : Bytes} {text line : String}
      {token : Token} {pattern : languages.lines.Pattern} {allowed : Bool}
      (leads : files.Leads (settings.skipDirs.map Bytes.ofString) place names content)
      (isWanted : wanted names) (isText : content.text? = some text)
      (isLine : (linesOf text)[number]? = some line)
      (isToken : settings.tokens[index]? = some token)
      (isCompiled : languages.lines.compile token.pattern = .ok pattern)
      (isMatch : languages.lines.isMatch pattern line = true)
      (isAllowed : allowed = true ↔ ∃ path, .ofNames names = OsPath.ofPath path ∧
        ∃ pattern ∈ settings.allowedPaths, ∃ compiled,
          languages.paths.compile pattern = .ok compiled ∧
            languages.paths.isMatch compiled path.text = true) :
      Occurs languages wanted settings files place ⟨names, number + 1, index⟩
        { path := .ofNames names, line := number + 1, token := token.pattern
          excerpt := Scanner.excerpt line, allowed }

theorem Occurs.path_eq {languages : Languages} {wanted : RawPlace → Prop}
    {settings : VerifySettings} {files : FileSystem} {place : RawPlace} {spot : Spot}
    {found : TokenMatch} (occurs : Occurs languages wanted settings files place spot found) :
    found.path = .ofNames spot.names := by
  cases occurs
  rfl

namespace TokenScanner

variable {languages : Languages} {settings : VerifySettings} {scanner : TokenScanner languages}
  {files : FileSystem} {root : Path} {place : Location} {spot : Spot} {found : TokenMatch}

/-- The hits of a scan are the occurrences of the settings' tokens in files that can be opened. -/
theorem mem_hits_iff_occurs (compiled : ofSettings languages settings = .ok scanner)
    (resolved : files.resolve root = .ok place) (inside : files.isDirectoryAt place = true) :
    (spot, found) ∈ scanner.hits files root ↔
      Occurs languages
        (fun names => canOpen root names = true ∧ files.IsOpen (Location.raw place) names)
        settings files (Location.raw place) spot found := by
  obtain ⟨tokens, -, skipDirs⟩ := ofSettings_ok compiled
  have skipNames : scanner.skipNames = settings.skipDirs.map Bytes.ofString := by
    rw [TokenScanner.skipNames, skipDirs]
  rw [mem_hits_iff]
  simp only [mem_scannedFiles_iff resolved inside, skipNames]
  constructor
  · rintro ⟨content, ⟨leads, opens⟩, finds⟩
    cases finds with
    | @on names number index text line token isText isLine isToken isMatch =>
      obtain ⟨given, isGiven, made⟩ := (getElem?_of_mapM_ok tokens index token).mp isToken
      obtain ⟨isCompiled, pattern⟩ := compileToken_ok_iff.mp made
      rw [← pattern]
      exact .on leads opens isText isLine isGiven isCompiled isMatch (allows_iff compiled)
  · intro occurs
    cases occurs with
    | @on names number index content text line token pattern allowed leads opens isText isLine
        isToken isCompiled isMatch isAllowed =>
      have made : compileToken languages token = .ok (pattern, token.pattern) :=
        compileToken_ok_iff.mpr ⟨isCompiled, rfl⟩
      have isToken' := (getElem?_of_mapM_ok tokens index _).mpr ⟨token, isToken, made⟩
      have same : allowed = scanner.allows (.ofNames names) := by
        rw [Bool.eq_iff_iff, isAllowed, allows_iff compiled]
      rw [same]
      exact ⟨content, ⟨leads, opens⟩, .on isText isLine isToken' isMatch⟩

theorem mem_scan_of_occurs (compiled : ofSettings languages settings = .ok scanner)
    (resolved : files.resolve root = .ok place) (inside : files.isDirectoryAt place = true)
    (occurs : Occurs languages
      (fun names => canOpen root names = true ∧ files.IsOpen (Location.raw place) names)
      settings files (Location.raw place) spot found) : found ∈ scanner.scan files root := by
  rw [← hits_map_snd]
  exact List.mem_map.mpr ⟨_, (mem_hits_iff_occurs compiled resolved inside).mpr occurs, rfl⟩

end TokenScanner

/-- A scan of a directory reports the occurrences of the settings' tokens in the files that the
program can come by: all of them, each once, and nothing else. It can come by a file if the system
takes its path, if every directory on the way from the root, the root included, can be listed, and
if the file can be read. -/
theorem occurrences_of_scan {languages : Languages} {settings : VerifySettings}
    {scanner : TokenScanner languages} {files : FileSystem} {root : Path} {place : Location}
    (compiled : TokenScanner.ofSettings languages settings = .ok scanner)
    (resolved : files.resolve root = .ok place) (inside : files.isDirectoryAt place = true) :
    ∃ hits : List (Spot × TokenMatch),
      scanner.scan files root = hits.map (·.2) ∧
      (hits.map (·.1)).Nodup ∧
      ∀ spot found, (spot, found) ∈ hits ↔
        Occurs languages
          (fun names => FileSystem.takes ((OsPath.ofPath root).join (.ofNames names)) = true ∧
            files.IsOpen (Location.raw place) names)
          settings files (Location.raw place) spot found := by
  refine ⟨scanner.hits files root, (TokenScanner.hits_map_snd _ _ _).symm, ?_, fun spot found =>
    TokenScanner.mem_hits_iff_occurs compiled resolved inside⟩
  refine List.pairwise_map.mpr ((TokenScanner.hits_pairwise_before scanner files root).imp ?_)
  intro hit hit' before same
  exact hit'.1.not_before_self (same ▸ before)

namespace Sample

/-- A source tree with a manifest that names a forbidden package, and with a build directory, whose
name is one to skip, and a file of that name. -/
def sources : FileSystem where
  entries := [(["source"], .directory), (["source", "crate"], .directory),
    (["source", "crate", "Cargo.toml"],
      .file 0o644 (Bytes.ofString "[dependencies]\nsentry = \"0.34\"\n")),
    (["source", "target"], .directory),
    (["source", "target", "lib.rs"], .file 0o644 (Bytes.ofString "use sentry::init;\n")),
    (["source", "crate", "target"], .file 0o644 (Bytes.ofString "openssl = 1\n")),
    (["source", "latest"], .link "target")]
  workingDirectory := []

end Sample

/-- The patterns of the default settings can be compiled. -/
theorem exists_ofSettings_default : ∃ scanner, Scanner.ofSettings {} = .ok scanner := by
  have well : (Scanner.ofSettings {}).toOption.any (fun _ => true) = true := by decide
  obtain ⟨scanner, compiled, -⟩ := exists_of_toOption_any well
  exact ⟨scanner, compiled⟩

theorem occurrences_of_sources : ∃ scanner, Scanner.ofSettings {} = .ok scanner ∧
    Sample.sources.resolve ⟨"source"⟩ = .ok ["source"] ∧
    Sample.sources.isDirectoryAt ["source"] = true ∧
    ∃ hits : List (Spot × TokenMatch),
      scanner.scan Sample.sources ⟨"source"⟩ = hits.map (·.2) ∧ (hits.map (·.1)).Nodup ∧
      ∀ spot found, (spot, found) ∈ hits ↔
        Occurs .standard
          (fun names =>
            FileSystem.takes ((OsPath.ofPath ⟨"source"⟩).join (.ofNames names)) = true ∧
              Sample.sources.IsOpen (Location.raw ["source"]) names)
          {} Sample.sources (Location.raw ["source"]) spot found := by
  obtain ⟨scanner, compiled⟩ := exists_ofSettings_default
  exact ⟨scanner, compiled, rfl, rfl, occurrences_of_scan compiled rfl rfl⟩

/-! ### Files that are out of reach

Names may lead to a file whose path is too long for the system, since every directory on the way is
opened by a shorter path. Nor can a program open every file, or list every directory, that there
is. A scan passes such files over. -/

namespace TokenScanner

variable {languages : Languages} {scanner : TokenScanner languages} {files : FileSystem}
  {root : Path} {place : Location}

/-- A scan finds nothing in a tree where no file can be opened. -/
theorem scan_eq_nil_of_forall_not (resolved : files.resolve root = .ok place)
    (inside : files.isDirectoryAt place = true)
    (closed : ∀ names content, files.Leads scanner.skipNames (Location.raw place) names content →
      ¬ (canOpen root names = true ∧ files.IsOpen (Location.raw place) names)) :
    scanner.scan files root = [] := by
  have nothing : scanner.scannedFiles files root = [] := by
    refine List.eq_nil_iff_forall_not_mem.mpr fun ⟨names, content⟩ read => ?_
    obtain ⟨leads, opens⟩ := (mem_scannedFiles_iff resolved inside).mp read
    exact closed names content leads opens
  rw [scan, nothing, List.flatMap_nil]

end TokenScanner

/-- A joined text is not shorter than the parts at its front. -/
theorem le_utf8ByteSize_intercalate_replicate (separator part last : String) (count : Nat) :
    count * part.utf8ByteSize ≤
      (separator.intercalate (List.replicate count part ++ [last])).utf8ByteSize := by
  induction count with
  | zero => simp
  | succ count ih =>
    obtain ⟨next, more, eq⟩ : ∃ next more, List.replicate count part ++ [last] = next :: more :=
      List.exists_cons_of_ne_nil (by simp)
    rw [eq] at ih
    rw [List.replicate_succ, List.cons_append, eq, String.intercalate_cons_cons,
      String.utf8ByteSize_append, String.utf8ByteSize_append, Nat.succ_mul]
    omega

/-- A path that is joined to another one is not longer than what comes out. -/
theorem le_utf8ByteSize_join (base relative : Path) :
    relative.text.utf8ByteSize ≤ (base.join relative).text.utf8ByteSize := by
  unfold Path.join
  split
  · exact Nat.le_refl _
  · split <;> simp only [String.utf8ByteSize_append] <;> omega

namespace Sample

variable {name : String} {depth : Nat} {skip : List RawName} {location : Location} {entry : Entry}

/-- What a manifest holds that names a forbidden package. -/
def manifest : Bytes := Bytes.ofString "sentry = \"0.34\"\n"

/-- The names down to the manifest of a nested tree. -/
def nestedNames (name : String) (depth : Nat) : Location :=
  List.replicate depth name ++ ["Cargo.toml"]

/-- A manifest below a number of directories that all have one name. -/
def nested (name : String) (depth : Nat) : FileSystem where
  entries := (nestedNames name depth, .file 0o644 manifest) ::
    (List.range depth).map fun k => (List.replicate (k + 1) name, .directory)
  workingDirectory := []

theorem lookup_nested (below : location ≠ []) :
    (nested name depth).lookup location = FileSystem.find (nested name depth).entries location := by
  rw [FileSystem.lookup, if_neg below]

/-- The entries of a nested tree are its manifest and the directories above it. -/
theorem mem_nested_iff :
    (location, entry) ∈ (nested name depth).entries ↔
      (location = nestedNames name depth ∧ entry = .file 0o644 manifest) ∨
        ∃ k < depth, location = List.replicate (k + 1) name ∧ entry = .directory := by
  simp only [nested, List.mem_cons, Prod.mk.injEq, List.mem_map, List.mem_range]
  refine or_congr_right ⟨?_, ?_⟩
  · rintro ⟨k, above, rfl, rfl⟩
    exact ⟨k, above, rfl, rfl⟩
  · rintro ⟨k, above, rfl, rfl⟩
    exact ⟨k, above, rfl, rfl⟩

theorem lookup_nested_directory {k : Nat} (above : k < depth) :
    (nested name depth).lookup (List.replicate (k + 1) name) = some .directory := by
  rw [lookup_nested (by simp)]
  have mem : (List.replicate (k + 1) name, Entry.directory) ∈ (nested name depth).entries :=
    mem_nested_iff.mpr (.inr ⟨k, above, rfl, rfl⟩)
  have held := FileSystem.find_ne_none_iff.mpr ⟨_, mem⟩
  obtain ⟨entry, found⟩ := Option.ne_none_iff_exists'.mp held
  rcases mem_nested_iff.mp (FileSystem.mem_of_find_eq_some found) with ⟨same, -⟩ | ⟨-, -, -, rfl⟩
  · have lengths := congrArg List.length same
    simp only [nestedNames, List.length_append, List.length_replicate, List.length_singleton]
      at lengths
    omega
  · exact found

theorem lookup_nested_file :
    (nested name depth).lookup (nestedNames name depth) = some (.file 0o644 manifest) := by
  rw [lookup_nested (by simp [nestedNames]), nested, FileSystem.find, if_pos rfl]

/-- Only the manifest is a file. -/
theorem eq_of_rawLookup_nested {place : RawPlace} {mode : Nat} {content : Bytes}
    (held : (nested name depth).rawLookup place = some (.file mode content)) :
    place = Location.raw (nestedNames name depth) := by
  obtain ⟨location, rfl, mem⟩ := FileSystem.exists_entry_of_rawLookup rfl held
  rcases mem_nested_iff.mp mem with ⟨same, -⟩ | ⟨-, -, -, eq⟩
  · rw [same]
  · cases eq

theorem leads_nested (kept : Bytes.ofString name ∉ skip) :
    (nested name depth).Leads skip [] (Location.raw (nestedNames name depth)) manifest := by
  -- The walk has come down `above` directories, and `more` are still ahead.
  have onward (more above : Nat) (total : above + more = depth) :
      (nested name depth).Leads skip (Location.raw (List.replicate above name))
        (Location.raw (nestedNames name more)) manifest := by
    induction more generalizing above with
    | zero =>
      obtain rfl : above = depth := total
      refine @FileSystem.Leads.file _ _ _ _ 0o644 _ ?_
      rw [← Location.raw_concat, FileSystem.rawLookup_raw]
      exact lookup_nested_file
    | succ more ih =>
      have next : Location.raw (List.replicate above name) ++ [Bytes.ofString name] =
          Location.raw (List.replicate (above + 1) name) := by
        rw [← Location.raw_concat, ← List.replicate_succ']
      refine .down kept ?_ ?_
      · rw [next, FileSystem.rawLookup_raw]
        exact lookup_nested_directory (by omega)
      · rw [next]
        exact ih (above + 1) (by omega)
  exact onward depth 0 (Nat.zero_add depth)

/-- The path to the manifest is as long as the names on it make it. -/
theorem canOpen_nested_iff {root : Path} :
    TokenScanner.canOpen root (Location.raw (nestedNames name depth)) = true ↔
      FileSystem.Usable (root.join (pathOf (nestedNames name depth))) := by
  rw [TokenScanner.canOpen, OsPath.ofNames_raw, OsPath.join_ofPath, FileSystem.takes_ofPath_iff]

/-- The path to the manifest is at least as long as the names of the directories. -/
theorem le_utf8ByteSize_pathOf_nestedNames (root : Path) :
    depth * name.utf8ByteSize ≤ (root.join (pathOf (nestedNames name depth))).text.utf8ByteSize :=
  Nat.le_trans (le_utf8ByteSize_intercalate_replicate "/" name "Cargo.toml" depth)
    (le_utf8ByteSize_join root _)

/-- A scan of a nested tree finds nothing if the path to the manifest is too long. -/
theorem scan_nested_eq_nil (scanner : Scanner)
    (long : FileSystem.pathBytesLimit ≤ depth * name.utf8ByteSize) :
    scanner.scan (nested name depth) ⟨"."⟩ = [] := by
  refine TokenScanner.scan_eq_nil_of_forall_not rfl rfl fun names content leads opens => ?_
  obtain ⟨mode, held⟩ := leads.held
  obtain rfl : names = _ := eq_of_rawLookup_nested held
  refine absurd (canOpen_nested_iff.mp opens.1).short (Nat.not_lt_of_le ?_)
  exact Nat.le_trans long (le_utf8ByteSize_pathOf_nestedNames _)

/-- A name of 250 characters. -/
def longName : String := String.ofList (List.replicate 250 'n')

/-- A manifest that only the superuser can read. -/
def unreadable : FileSystem where
  entries := [(["Cargo.toml"], .file 0o000 manifest)]
  workingDirectory := []
  access := { readsAll := false }

theorem scan_unreadable_eq_nil (scanner : Scanner) : scanner.scan unreadable ⟨"."⟩ = [] := by
  refine TokenScanner.scan_eq_nil_of_forall_not rfl rfl fun names content leads opens => ?_
  obtain ⟨mode, held⟩ := leads.held
  obtain ⟨location, -, mem⟩ := FileSystem.exists_entry_of_rawLookup rfl held
  obtain ⟨-, rfl, rfl⟩ : location = ["Cargo.toml"] ∧ mode = 0o000 ∧ content = manifest := by
    simpa [unreadable] using mem
  exact absurd (opens.2.reads _ _ held) (by simp [Access.mayRead, unreadable])

/-- A manifest in a directory that cannot be listed. -/
def unlisted : FileSystem where
  entries := [(["crate"], .directory), (["crate", "Cargo.toml"], .file 0o644 manifest)]
  workingDirectory := []
  access := { closed := [Location.raw ["crate"]] }

theorem scan_unlisted_eq_nil (scanner : Scanner) : scanner.scan unlisted ⟨"."⟩ = [] := by
  refine TokenScanner.scan_eq_nil_of_forall_not rfl rfl fun names content leads opens => ?_
  obtain ⟨mode, held⟩ := leads.held
  obtain ⟨location, rfl, mem⟩ := FileSystem.exists_entry_of_rawLookup rfl held
  obtain ⟨rfl, -, -⟩ : location = ["crate", "Cargo.toml"] ∧ mode = 0o644 ∧ content = manifest := by
    simpa [unlisted] using mem
  exact absurd (opens.2.lists [Bytes.ofString "crate"] _ rfl (by simp)) (by decide)

end Sample

/-- The first default token matches the only line of the manifest. -/
theorem exists_regex_manifest : ∃ token regex, defaultTokens[0]? = some token ∧
    Regex.compile token.pattern = .ok regex ∧ regex.isMatch "sentry = \"0.34\"" = true := by
  have well : (Regex.compile defaultTokens[0].pattern).toOption.any
      (fun regex => regex.isMatch "sentry = \"0.34\"") = true := by decide
  obtain ⟨regex, compiled, isMatch⟩ := exists_of_toOption_any well
  exact ⟨_, regex, rfl, compiled, isMatch⟩

/-- A default token occurs wherever names lead to the manifest. -/
theorem exists_occurs_of_leads {files : FileSystem} {place names : RawPlace}
    {wanted : RawPlace → Prop} (isWanted : wanted names)
    (leads : files.Leads (({} : VerifySettings).skipDirs.map Bytes.ofString) place names
      Sample.manifest) :
    ∃ found, Occurs .standard wanted {} files place ⟨names, 1, 0⟩ found := by
  obtain ⟨scanner, compiled⟩ := exists_ofSettings_default
  obtain ⟨token, regex, isToken, isCompiled, isMatch⟩ := exists_regex_manifest
  have isText : Sample.manifest.text? = some "sentry = \"0.34\"\n" := rfl
  have isLine : (linesOf "sentry = \"0.34\"\n")[0]? = some "sentry = \"0.34\"" := by decide
  exact ⟨_, .on leads isWanted isText isLine isToken isCompiled isMatch
    (TokenScanner.allows_iff compiled)⟩

/-- An occurrence is not reported below seventeen directories with names of 250 characters, nor in a
file that cannot be read, nor below a directory that cannot be listed. -/
theorem occurrence_out_of_reach : ∃ scanner, Scanner.ofSettings {} = .ok scanner ∧
    ∀ files ∈ [Sample.nested Sample.longName 17, Sample.unreadable, Sample.unlisted],
      files.resolve ⟨"."⟩ = .ok [] ∧ files.isDirectoryAt [] = true ∧
      (∃ spot found, Occurs .standard (fun _ => True) {} files [] spot found) ∧
      scanner.scan files ⟨"."⟩ = [] := by
  obtain ⟨scanner, compiled⟩ := exists_ofSettings_default
  refine ⟨scanner, compiled, ?_⟩
  simp only [List.forall_mem_cons, List.not_mem_nil, false_imp_iff, implies_true, and_true]
  have next : Sample.unreadable.Leads (({} : VerifySettings).skipDirs.map Bytes.ofString) []
      (Location.raw ["Cargo.toml"]) Sample.manifest :=
    .file (FileSystem.rawLookup_raw _ ["Cargo.toml"])
  have below : Sample.unlisted.Leads (({} : VerifySettings).skipDirs.map Bytes.ofString) []
      (Location.raw ["crate", "Cargo.toml"]) Sample.manifest :=
    .down (by decide) (FileSystem.rawLookup_raw _ ["crate"])
      (.file (FileSystem.rawLookup_raw _ ["crate", "Cargo.toml"]))
  exact ⟨⟨rfl, rfl, ⟨_, exists_occurs_of_leads trivial (Sample.leads_nested (by decide +kernel))⟩,
      Sample.scan_nested_eq_nil _ (by decide +kernel)⟩,
    ⟨rfl, rfl, ⟨_, exists_occurs_of_leads trivial next⟩, Sample.scan_unreadable_eq_nil _⟩,
    ⟨rfl, rfl, ⟨_, exists_occurs_of_leads trivial below⟩, Sample.scan_unlisted_eq_nil _⟩⟩

end SealedBuild
