import SealedBuild.FileSystem.Basic
import SealedBuild.FileSystem.OsError

/-!
# Resolving paths

A path is resolved name by name from the root or from the working directory. A dot stays, two dots
go up, and a symbolic link is replaced by its target; a path that leads through more than forty
links is refused. A slash at the end asks for a directory, as a dot there would.
-/

namespace SealedBuild

namespace Path

/-- The names that a walk along the path goes through. -/
def steps (path : Path) : List String :=
  let names := (path.pieces.filter (· ≠ [])).map String.ofList
  if names ≠ [] ∧ path.pieces.getLast? = some [] then names ++ ["."] else names

end Path

namespace FileSystem

/-- The longest name, in bytes. -/
def maxNameBytes : Nat := 255

/-- The length from which on a path is too long, in bytes. -/
def pathBytesLimit : Nat := 4096

/-- The number of symbolic links that one resolution may follow. -/
def maxLinks : Nat := 40

/-- Where a walk starts. -/
def startOf (files : FileSystem) (path : Path) : Location :=
  if path.isAbsolute then [] else files.workingDirectory

/-- Walks along names. A link in the way is handed to `onLink` with the directory that its target
starts from and the names still to go; a link at the end is followed only on demand. -/
def walkWith (files : FileSystem) (follow : Bool)
    (onLink : Location → List String → Except OsError Location) :
    Location → List String → Except OsError Location
  | here, [] => .ok here
  | here, name :: rest =>
    if files.isDirectoryAt here = false then .error .notDirectory
    else if name = "." then walkWith files follow onLink here rest
    else if name = ".." then walkWith files follow onLink here.dropLast rest
    else if maxNameBytes < name.utf8ByteSize then .error .nameTooLong
    else match files.lookup (here ++ [name]) with
      | none => .error .notFound
      | some (.link target) =>
        if rest = [] ∧ follow = false then .ok (here ++ [name])
        else onLink (if Path.isAbsolute ⟨target⟩ then [] else here) (Path.steps ⟨target⟩ ++ rest)
      | some _ => walkWith files follow onLink (here ++ [name]) rest

/-- Walks along names and follows at most the given number of links. -/
def walk (files : FileSystem) (follow : Bool) :
    Nat → Location → List String → Except OsError Location
  | 0 => walkWith files follow fun _ _ => .error .tooManyLinks
  | links + 1 => walkWith files follow (walk files follow links)

/-- The fault that a path has before any directory is looked at. -/
def malformed? (path : Path) : Option OsError :=
  if path.text.toList.contains (Char.ofNat 0) then some .zeroInPath
  else if path.text = "" then some .notFound
  else if pathBytesLimit ≤ path.text.utf8ByteSize then some .nameTooLong
  else none

/-- The location that a path leads to, all links followed. -/
def resolve (files : FileSystem) (path : Path) : Except OsError Location :=
  match malformed? path with
  | some error => .error error
  | none => walk files true maxLinks (files.startOf path) path.steps

/-- What a path leads to, all links followed. -/
def entryAt (files : FileSystem) (path : Path) : Except OsError Entry :=
  match files.resolve path with
  | .error error => .error error
  | .ok location =>
    match files.lookup location with
    | some entry => .ok entry
    | none => .error .notFound

/-- Whether a path leads to anything. -/
def pathExists (files : FileSystem) (path : Path) : Bool :=
  match files.entryAt path with
  | .ok _ => true
  | .error _ => false

/-- Whether a path leads to a directory. -/
def isDirectory (files : FileSystem) (path : Path) : Bool :=
  match files.entryAt path with
  | .ok .directory => true
  | _ => false

/-- Whether a path leads to a regular file. -/
def isFile (files : FileSystem) (path : Path) : Bool :=
  match files.entryAt path with
  | .ok (.file ..) => true
  | _ => false

/-- Whether the names behind an entry take it for a directory: they go up, or end with a dot. -/
def asksForDirectory : List String → Bool
  | [] => false
  | name :: rest => name == ".." || name == "." && (rest.isEmpty || asksForDirectory rest)

/-- The paths that a walk asks the system about if it writes down where it is: that of each entry on
the way, and again with a slash if the entry is taken for a directory. A link is handed to
`onLink`. -/
def askedWith (files : FileSystem) (onLink : Location → List String → List Path) :
    Location → List String → List Path
  | _, [] => []
  | here, name :: rest =>
    if name = "." then askedWith files onLink here rest
    else if name = ".." then
      if files.isDirectoryAt here then askedWith files onLink here.dropLast rest else []
    else
      let next := here ++ [name]
      next.toPath :: match files.lookup next with
      | none => []
      | some (.link target) =>
        onLink (if Path.isAbsolute ⟨target⟩ then [] else here) (Path.steps ⟨target⟩ ++ rest)
      | some _ =>
        (if asksForDirectory rest then [⟨next.toPath.text ++ "/"⟩] else []) ++
          askedWith files onLink next rest

/-- The paths that such a walk asks about if it follows at most the given number of links. -/
def asked (files : FileSystem) : Nat → Location → List String → List Path
  | 0 => askedWith files fun _ _ => []
  | links + 1 => askedWith files (asked files links)

/-- Whether the system takes all the paths that it is asked about on the way of a path. -/
def isTraceable (files : FileSystem) (path : Path) : Bool :=
  (files.asked maxLinks (files.startOf path) path.steps).all
    (·.text.utf8ByteSize < pathBytesLimit)

/-- The absolute path without links, dots and doubled slashes to the place that a path leads to. It
is put together entry by entry, so that every entry on the way must have a path that the system
takes, while the path itself may be longer. -/
def canonical (files : FileSystem) (path : Path) : Except OsError Path :=
  match malformed? path with
  | none | some .nameTooLong =>
    if files.isTraceable path then
      (walk files true maxLinks (files.startOf path) path.steps).map Location.toPath
    else .error .nameTooLong
  | some error => .error error

/-- The content of the file that a path leads to, if the program may read it. -/
def readBytes (files : FileSystem) (path : Path) : Except OsError Bytes :=
  match files.resolve path with
  | .error error => .error error
  | .ok place =>
    match files.lookup place with
    | none => .error .notFound
    | some (.file mode content) =>
      if files.access.mayRead place.raw mode then .ok content else .error .permissionDenied
    | some _ =>
      if files.access.mayList place.raw then .error .isDirectory else .error .permissionDenied

/-- The text of the file that a path leads to. -/
def readText (files : FileSystem) (path : Path) : Except OsError String :=
  match files.readBytes path with
  | .error error => .error error
  | .ok content =>
    match content.text? with
    | some text => .ok text
    | none => .error .notText

/-- Splits the names of a path into the names of its directory and its last name. -/
def directoryAndName (path : Path) : Option (List String × String) :=
  let names := (path.pieces.filter (· ≠ [])).map String.ofList
  names.getLast?.map fun name => (names.dropLast, name)

/-- The directory that a path lies in, and the last name of the path. -/
def resolveParent (files : FileSystem) (path : Path) : Except OsError (Location × String) :=
  match malformed? path with
  | some error => .error error
  | none =>
    match directoryAndName path with
    | none => .error .busy
    | some (names, name) =>
      match walk files true maxLinks (files.startOf path) names with
      | .error error => .error error
      | .ok place => if files.isDirectoryAt place then .ok (place, name) else .error .notDirectory

end FileSystem

end SealedBuild
