import SealedBuild.FileSystem.OsError
import SealedBuild.Path
import SealedBuild.Text.Bytes

/-!
# File systems

A file system is a list of entries, each at a location: the names from the root down to the entry.
The root itself is always a directory and is not listed. The list stands for a finite map: the first
entry at a location counts, and `put` and `erase` change one location only.

The system stores names as bytes. No path of a run leads to an entry below a name that is not text,
so such entries are kept apart; only who lists directories meets them. Apart from its entries, a
file system says what the program may read, and whether a step of an install fails.

Main statements: `lookup_put` and `lookup_erase`, which say what every location holds after a
change, and `erase_put_of_lookup_eq_none`, which says that a new entry can be taken away again
without a trace.
-/

namespace SealedBuild

/-- The names from the root down to a place in the file system. -/
abbrev Location := List String

/-- What is at a location. -/
inductive Entry
  | directory
  /-- A regular file with its permission bits. -/
  | file (mode : Nat) (content : Bytes)
  /-- A symbolic link. -/
  | link (target : String)
  deriving DecidableEq

/-- A name as the system stores it. -/
abbrev RawName := Bytes

/-- The names from the root down to a place, as the system stores them. -/
abbrev RawPlace := List RawName

/-- A place that no path in text leads to, since one of its names is not text. -/
structure OddPlace where
  names : RawPlace
  isOdd : names.mapM Bytes.text? = none
  deriving DecidableEq

/-- The odd place with the given names, if one of them is not text. -/
def OddPlace.ofNames? (names : RawPlace) : Option OddPlace :=
  if isOdd : names.mapM Bytes.text? = none then some ⟨names, isOdd⟩ else none

/-- What the system lets the program read. -/
structure Access where
  /-- Files are read whatever their permission bits say, as the superuser reads them. -/
  readsAll : Bool := true
  /-- The files that cannot be read whatever their permission bits say, and the directories that
  cannot be listed. -/
  closed : List RawPlace := []
  deriving DecidableEq

namespace Access

/-- Whether the file at a place can be read, which has the given permission bits. -/
def mayRead (access : Access) (place : RawPlace) (mode : Nat) : Bool :=
  !access.closed.contains place && (access.readsAll || mode.testBit 8)

/-- Whether the directory at a place can be listed. -/
def mayList (access : Access) (place : RawPlace) : Bool := !access.closed.contains place

end Access

/-- The steps of an install that the system can let fail. -/
inductive CopyStep
  | create
  | openSource
  | copy
  | sync
  | setMode
  | rename
  deriving DecidableEq

/-- A step of an install that fails. -/
structure Fault where
  step : CopyStep
  error : OsError
  /-- How many bytes have been copied when copying fails. -/
  copied : Nat := 0
  deriving DecidableEq

/-- A tree of files, with the directory that relative paths start from. -/
structure FileSystem where
  entries : List (Location × Entry)
  workingDirectory : Location
  /-- What is at places with names that are not text. -/
  odd : List (OddPlace × Entry) := []
  access : Access := {}
  /-- The step that fails in every install, if one does. -/
  fault? : Option Fault := none
  deriving DecidableEq

namespace Location

/-- The absolute path of a location. -/
def toPath (location : Location) : Path := ⟨"/" ++ "/".intercalate location⟩

/-- The names of a location as the system stores them. -/
def raw (location : Location) : RawPlace := location.map Bytes.ofString

end Location

namespace FileSystem

/-- The first entry of a list at a place. -/
def find {κ : Type} [DecidableEq κ] (entries : List (κ × Entry)) (wanted : κ) : Option Entry :=
  match entries with
  | [] => none
  | (place, entry) :: rest => if place = wanted then some entry else find rest wanted

/-- What is at a location. -/
def lookup (files : FileSystem) (location : Location) : Option Entry :=
  if location = [] then some .directory else find files.entries location

/-- The entries without those at a location. -/
def without (entries : List (Location × Entry)) (location : Location) : List (Location × Entry) :=
  entries.filter fun e => decide (e.1 ≠ location)

/-- Puts an entry at a location, in place of what was there. -/
def put (files : FileSystem) (location : Location) (entry : Entry) : FileSystem :=
  { files with entries := (location, entry) :: without files.entries location }

/-- Removes the entry at a location. -/
def erase (files : FileSystem) (location : Location) : FileSystem :=
  { files with entries := without files.entries location }

/-- Removes the entry at a location and everything below it. -/
def eraseTree (files : FileSystem) (location : Location) : FileSystem :=
  { files with
    entries := files.entries.filter fun e => !location.isPrefixOf e.1
    odd := files.odd.filter fun e => !location.raw.isPrefixOf e.1.names
    access.closed := files.access.closed.filter fun place => !location.raw.isPrefixOf place }

theorem find_without (entries : List (Location × Entry)) (location place : Location) :
    find (without entries location) place =
      if place = location then none else find entries place := by
  induction entries with
  | nil => simp [without, find]
  | cons e rest ih =>
    obtain ⟨at', entry⟩ := e
    unfold without at ih ⊢
    by_cases h : at' = location
    · subst h
      by_cases hp : place = at'
      · simpa [hp] using ih
      · have : ¬ at' = place := fun h => hp h.symm
        simpa [hp, find, this] using ih
    · by_cases hp : at' = place
      · subst hp
        simp [h, find]
      · simpa [h, find, hp] using ih

/-- A change by `put` shows at its own location only. -/
theorem lookup_put (files : FileSystem) {location : Location} (h : location ≠ [])
    (entry : Entry) (place : Location) :
    (files.put location entry).lookup place =
      if place = location then some entry else files.lookup place := by
  unfold lookup put
  by_cases hp : place = location
  · subst hp
    simp [h, find]
  · have : ¬ location = place := fun h => hp h.symm
    simp [find, hp, this, find_without]

/-- A change by `erase` shows at its own location only. -/
theorem lookup_erase (files : FileSystem) {location : Location} (h : location ≠ [])
    (place : Location) :
    (files.erase location).lookup place =
      if place = location then none else files.lookup place := by
  unfold lookup erase
  by_cases hp : place = location
  · subst hp
    simp [h, find_without]
  · simp [hp, find_without]

@[simp] theorem lookup_put_self (files : FileSystem) {location : Location} (h : location ≠ [])
    (entry : Entry) : (files.put location entry).lookup location = some entry := by
  simp [lookup_put files h]

theorem without_of_find_eq_none {entries : List (Location × Entry)} {location : Location}
    (free : find entries location = none) : without entries location = entries := by
  induction entries with
  | nil => rfl
  | cons e rest ih =>
    obtain ⟨place, entry⟩ := e
    unfold find at free
    by_cases h : place = location
    · simp [h] at free
    · have tail := ih (by simpa [h] using free)
      unfold without at tail ⊢
      rw [List.filter_cons_of_pos (by simpa using h), tail]

@[simp] theorem without_without (entries : List (Location × Entry)) (location : Location) :
    without (without entries location) location = without entries location := by
  simp [without]

/-- The later of two entries at one location counts. -/
@[simp] theorem put_put (files : FileSystem) (location : Location) (first second : Entry) :
    (files.put location first).put location second = files.put location second := by
  simp only [put, FileSystem.mk.injEq, and_true, List.cons.injEq, true_and]
  rw [without, List.filter_cons_of_neg (by simp), ← without, without_without]

/-- It makes no difference whether an entry is removed before another one takes its place. -/
theorem put_erase (files : FileSystem) (location : Location) (entry : Entry) :
    (files.erase location).put location entry = files.put location entry := by
  simp only [put, erase, without_without]

/-- A new entry that is taken away again leaves the file system as it was. -/
theorem erase_put_of_lookup_eq_none {files : FileSystem} {location : Location}
    (h : location ≠ []) (free : files.lookup location = none) (entry : Entry) :
    (files.put location entry).erase location = files := by
  have none_there : find files.entries location = none := by simpa [lookup, h] using free
  have same : without ((location, entry) :: without files.entries location) location =
      files.entries := by
    rw [without, List.filter_cons_of_neg (by simp), ← without, without_without,
      without_of_find_eq_none none_there]
  simp [put, erase, same]

/-- Whether a directory is at a location. -/
def isDirectoryAt (files : FileSystem) (location : Location) : Bool :=
  files.lookup location == some .directory

end FileSystem

end SealedBuild
