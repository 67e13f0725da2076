import SealedBuild.FileSystem.Change

/-!
# Writing to the file system

What a process may do to the file system: it makes directories, links and files, each with the
directories above it, and it removes, moves and protects what is there. A write that the file system
refuses changes nothing. Writing through a link changes the file that the link leads to, and writing
to an existing file replaces its content and its permission bits.
-/

namespace SealedBuild

/-- One thing that a process does to the file system. -/
inductive Write
  | directory (path : Path)
  | link (path : Path) (target : String)
  | file (path : Path) (mode : Nat) (content : Bytes)
  /-- Removes a file, a link or a whole tree. -/
  | remove (path : Path)
  /-- Moves a file, a link or a whole tree. -/
  | move (source destination : Path)
  /-- Sets the permission bits of a file. -/
  | setMode (path : Path) (mode : Nat)
  /-- Lets the program read a file or list a directory, or keeps it from doing so. -/
  | protect (place : RawPlace) (isOpen : Bool)
  /-- Puts an entry at a place whose names are not text, or takes it away. -/
  | odd (place : OddPlace) (held : Option Entry)
  deriving DecidableEq

namespace FileSystem

/-- Goes down one name at a time and creates the directories that are missing. -/
def makeDirectories (files : FileSystem) : Location → List String →
    Option (FileSystem × Location)
  | here, [] => if files.isDirectoryAt here then some (files, here) else none
  | here, name :: rest =>
    if files.isDirectoryAt here = false then none
    else if name = "." then makeDirectories files here rest
    else if name = ".." then makeDirectories files here.dropLast rest
    else if maxNameBytes < name.utf8ByteSize then none
    else match files.lookup (here ++ [name]) with
      | none => makeDirectories (files.put (here ++ [name]) .directory) (here ++ [name]) rest
      | some .directory => makeDirectories files (here ++ [name]) rest
      | some (.link _) =>
        match walk files true maxLinks here [name] with
        | .ok place => makeDirectories files place rest
        | .error _ => none
      | some (.file ..) => none

/-- Puts an entry at the last name of a path, after making the directories above it. -/
def placeAt (files : FileSystem) (path : Path)
    (place : FileSystem → Location → String → FileSystem) : FileSystem :=
  match malformed? path, directoryAndName path with
  | none, some (names, name) =>
    if name = "." ∨ name = ".." ∨ maxNameBytes < name.utf8ByteSize then files
    else match makeDirectories files (files.startOf path) names with
      | some (made, directory) => place made directory name
      | none => files
  | _, _ => files

/-- Writes a regular file under a name of a directory. -/
def writeFile (mode : Nat) (content : Bytes) (files : FileSystem) (directory : Location)
    (name : String) : FileSystem :=
  match files.lookup (directory ++ [name]) with
  | none | some (.file ..) => files.put (directory ++ [name]) (.file mode content)
  | some (.link _) =>
    match walk files true maxLinks directory [name] with
    | .ok place =>
      match files.lookup place with
      | some (.file ..) => files.put place (.file mode content)
      | _ => files
    | .error _ => files
  | some .directory => files

/-- Creates a link under a name of a directory, if the name is free. -/
def writeLink (target : String) (files : FileSystem) (directory : Location) (name : String) :
    FileSystem :=
  match files.lookup (directory ++ [name]) with
  | none => files.put (directory ++ [name]) (.link target)
  | some _ => files

/-- The file system without the file, link or directory tree that a path names. A link at the end
of the path is removed itself. -/
def remove (files : FileSystem) (path : Path) : FileSystem :=
  match malformed? path with
  | some _ => files
  | none =>
    match walk files false maxLinks (files.startOf path) path.steps with
    | .ok [] | .error _ => files
    | .ok place => files.eraseTree place

/-- Where a place is after everything at and below `source` has moved to `destination`. -/
def movedPlace {α : Type} [BEq α] (source destination place : List α) : List α :=
  if source.isPrefixOf place then destination ++ place.drop source.length else place

/-- Moves the entry at a location with everything below it, in place of what was there. -/
def moveTree (files : FileSystem) (source destination : Location) : FileSystem :=
  let cleared := files.eraseTree destination
  { cleared with
    entries := cleared.entries.map fun e => (movedPlace source destination e.1, e.2)
    odd := cleared.odd.filterMap fun e =>
      (OddPlace.ofNames? (movedPlace source.raw destination.raw e.1.names)).map (·, e.2)
    access.closed := cleared.access.closed.map (movedPlace source.raw destination.raw) }

/-- Whether nothing is below a location. -/
def isBare (files : FileSystem) (location : Location) : Bool :=
  files.entries.all (fun e => e.1 = location || !location.isPrefixOf e.1) &&
    files.odd.all fun e => !location.raw.isPrefixOf e.1.names

/-- Moves the directory at a location, unless the place where it is to go is below it or is taken by
anything but an empty directory. -/
def moveDirectory (files : FileSystem) (source destination : Location) : FileSystem :=
  if source.isPrefixOf destination then files
  else match files.lookup destination with
    | none => files.moveTree source destination
    | some .directory =>
      if files.isBare destination then files.moveTree source destination else files
    | some _ => files

/-- Moves what one path names to another. -/
def move (files : FileSystem) (source destination : Path) : FileSystem :=
  match files.namedPlace source, files.namedPlace destination with
  | .ok old, .ok new =>
    if files.isDirectoryAt old then files.moveDirectory old new
    else (files.rename source destination).toOption.getD files
  | _, _ => files

/-- Opens a place to the program, or closes it. -/
def protect (files : FileSystem) (place : RawPlace) (isOpen : Bool) : FileSystem :=
  let others := files.access.closed.filter (· ≠ place)
  { files with access.closed := if isOpen then others else place :: others }

/-- Puts an entry at an odd place, or takes it away. -/
def putOdd (files : FileSystem) (place : OddPlace) (held : Option Entry) : FileSystem :=
  { files with odd := (held.map (place, ·)).toList ++ files.odd.filter (·.1 ≠ place) }

/-- The file system after one write. -/
def apply (files : FileSystem) : Write → FileSystem
  | .directory path =>
    match malformed? path with
    | some _ => files
    | none =>
      match makeDirectories files (files.startOf path) path.steps with
      | some (made, _) => made
      | none => files
  | .link path target => files.placeAt path (writeLink target)
  | .file path mode content => files.placeAt path (writeFile mode content)
  | .remove path => files.remove path
  | .move source destination => files.move source destination
  | .setMode path mode => (files.setMode path mode).toOption.getD files
  | .protect place isOpen => files.protect place isOpen
  | .odd place held => files.putOdd place held

/-- The file system after writes, in order. -/
def applyAll (files : FileSystem) (writes : List Write) : FileSystem := writes.foldl apply files

/-- The file system that holds only the directories down to the working directory. -/
def bare (workingDirectory : Location) : FileSystem :=
  { entries := (List.range workingDirectory.length).reverse.map fun k =>
      (workingDirectory.take (k + 1), .directory)
    workingDirectory }

end FileSystem

end SealedBuild
