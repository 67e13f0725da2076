import SealedBuild.FileSystem.Resolve

/-!
# Changing single entries

The system calls that change one entry. Each of them names the entry by a path, which is resolved
when the call is made; only a file that is open stays the same whatever becomes of its path. A call
that is refused changes nothing.
-/

namespace SealedBuild.FileSystem

/-- Whether a path ends in a slash. -/
def endsInSlash (path : Path) : Bool := path.text.toList.getLast? == some '/'

/-- The location of the entry that a path names, whether or not anything is there. A link at the end
of the path is not followed. -/
def namedPlace (files : FileSystem) (path : Path) : Except OsError Location :=
  match files.resolveParent path with
  | .error error => .error error
  | .ok (directory, name) =>
    if name = "." ∨ name = ".." then .error .busy
    else if maxNameBytes < name.utf8ByteSize then .error .nameTooLong
    else .ok (directory ++ [name])

/-- Creates an empty regular file under a path at which nothing is, and gives its location. -/
def createFile (files : FileSystem) (path : Path) (mode : Nat) :
    Except OsError (Location × FileSystem) :=
  match files.namedPlace path with
  | .error error => .error error
  | .ok place =>
    if endsInSlash path then .error .isDirectory
    else if files.lookup place = none then .ok (place, files.put place (.file mode []))
    else .error .alreadyExists

/-- Adds to the end of the open file at a location. -/
def append (files : FileSystem) (place : Location) (chunk : Bytes) : FileSystem :=
  match files.lookup place with
  | some (.file mode content) => files.put place (.file mode (content ++ chunk))
  | _ => files

/-- Sets the permission bits of what a path leads to. Those of a directory are not kept. -/
def setMode (files : FileSystem) (path : Path) (mode : Nat) : Except OsError FileSystem :=
  match files.resolve path with
  | .error error => .error error
  | .ok place =>
    match files.lookup place with
    | none => .error .notFound
    | some (.file _ content) => .ok (files.put place (.file mode content))
    | some _ => .ok files

/-- Removes the file or link that a path names. -/
def unlink (files : FileSystem) (path : Path) : Except OsError FileSystem :=
  match files.namedPlace path with
  | .error error => .error error
  | .ok place =>
    match files.lookup place with
    | none => .error .notFound
    | some .directory => .error .isDirectory
    | some _ => if endsInSlash path then .error .notDirectory else .ok (files.erase place)

/-- Moves the file or link that one path names to another, in one step. What is there is replaced,
unless it is a directory. -/
def rename (files : FileSystem) (source destination : Path) : Except OsError FileSystem :=
  if (source.text ++ destination.text).toList.contains (Char.ofNat 0) then .error .invalidArgument
  else match files.namedPlace source with
    | .error error => .error error
    | .ok old =>
      match files.namedPlace destination with
      | .error error => .error error
      | .ok new =>
        match files.lookup old with
        | none => .error .notFound
        | some .directory => .error .isDirectory
        | some entry =>
          if endsInSlash source ∨ endsInSlash destination then .error .notDirectory
          else if files.isDirectoryAt new then .error .isDirectory
          else .ok ((files.erase old).put new entry)

end SealedBuild.FileSystem
