import SealedBuild.FileSystem.Resolve
import SealedBuild.OsPath

/-!
# Listing files

Who lists directories sees the file system as it is stored, with names in bytes. A listing gives the
regular files below a directory that can be read, with the names that lead to them from there. Links
below the directory are not followed. Directories that cannot be listed are left out with all they
contain, and so are directories with certain names. Files come in the order of their names, compared
name by name and byte by byte.
-/

namespace SealedBuild.FileSystem

/-- What is at a place. -/
def rawLookup (files : FileSystem) (place : RawPlace) : Option Entry :=
  match place.mapM Bytes.text? with
  | some location => files.lookup location
  | none => (OddPlace.ofNames? place).bind (find files.odd)

/-- What a listing goes through: directories that can be listed, and regular files that can be
read. -/
inductive Sight
  | directory
  | file (content : Bytes)
  deriving DecidableEq

/-- What a listing sees at a place. -/
def sight? (files : FileSystem) (place : RawPlace) : Option Sight :=
  match files.rawLookup place with
  | some .directory => if files.access.mayList place then some .directory else none
  | some (.file mode content) =>
    if files.access.mayRead place mode then some (.file content) else none
  | some (.link _) | none => none

/-- The places at which there is something. -/
def places (files : FileSystem) : List RawPlace :=
  files.entries.map (fun entry => entry.1.raw) ++ files.odd.map fun entry => entry.1.names

/-- The names that lead from one place to another below it. -/
def below? (root place : RawPlace) : Option RawPlace :=
  if root.isPrefixOf place then some (place.drop root.length) else none

/-- Whether names lead down from a place through directories that can be listed, none of which has
one of the names to skip. The last name is not looked at. -/
def isReached (files : FileSystem) (skip : List RawName) : RawPlace → RawPlace → Bool
  | _, [] => false
  | here, [_] => files.sight? here == some .directory
  | here, name :: rest =>
    files.sight? here == some .directory && !skip.contains name &&
      isReached files skip (here ++ [name]) rest

/-- The file that names lead to, if they lead to one. -/
def fileBelow? (files : FileSystem) (skip : List RawName) (root names : RawPlace) :
    Option (RawPlace × Bytes) :=
  match files.sight? (root ++ names) with
  | some (.file content) => if isReached files skip root names then some (names, content) else none
  | some .directory | none => none

/-- The regular files below a directory. -/
def listing (files : FileSystem) (skip : List RawName) (root : RawPlace) :
    List (RawPlace × Bytes) :=
  let names := ((files.places.filterMap (below? root)).eraseDups).mergeSort
    fun a b => !decide (b < a)
  names.filterMap (fileBelow? files skip root)

/-- Whether the system takes a path: it has no zero byte, is not empty, and is not too long. -/
def takes (path : OsPath) : Bool :=
  !path.bytes.contains 0 && !path.bytes.isEmpty && decide (path.bytes.length < pathBytesLimit)

end SealedBuild.FileSystem
