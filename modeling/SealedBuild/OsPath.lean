import SealedBuild.Json
import SealedBuild.Path
import SealedBuild.Text.Bytes

/-!
# Paths as the system stores them

The system stores a path as bytes, and these need not be text. What is no text is shown with
replacement characters, so that different paths may be shown alike, and cannot be written into a
document.
-/

namespace SealedBuild

/-- A path, as the system stores it. -/
structure OsPath where
  bytes : Bytes
  deriving DecidableEq

namespace OsPath

/-- A path that is written as text. -/
def ofPath (path : Path) : OsPath := ⟨Bytes.ofString path.text⟩

/-- The text of a path, if it is text. -/
def text? (path : OsPath) : Option String := path.bytes.text?

/-- The path as it is shown. -/
def display (path : OsPath) : String := path.bytes.lenientText

/-- The byte of a slash. -/
def slash : UInt8 := 47

/-- The path along names. -/
def ofNames (names : List Bytes) : OsPath := ⟨[slash].intercalate names⟩

/-- The path `relative` as seen from `base`. -/
def join (base relative : OsPath) : OsPath :=
  if relative.bytes.head? = some slash then relative
  else if base.bytes = [] ∨ base.bytes.getLast? = some slash then ⟨base.bytes ++ relative.bytes⟩
  else ⟨base.bytes ++ slash :: relative.bytes⟩

/-- A path as a document, if it is text. -/
def toJson? (path : OsPath) : Option Json := path.text?.map .string

end OsPath

end SealedBuild
