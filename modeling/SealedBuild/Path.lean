import SealedBuild.Text.Pieces

/-!
# Paths

A path is its text. What it means by itself, without any file system, is its list of components:
repeated and trailing slashes do not count, nor does a dot, except at the very front. Two paths
name the same place lexically when their components agree.
-/

namespace SealedBuild

/-- A path, as written. -/
structure Path where
  text : String
  deriving DecidableEq, Inhabited

namespace Path

open Text

/-- One component of a path. -/
inductive Component
  | root
  | current
  | parent
  | name (text : String)
  deriving DecidableEq

/-- The pieces of a path between its slashes. -/
def pieces (path : Path) : List (List Char) := cutAt '/' path.text.toList

/-- Whether a path starts at the root. -/
def isAbsolute (path : Path) : Bool := path.text.toList.head? == some '/'

/-- Whether a path starts with a dot as its first piece. -/
def startsAtDot (path : Path) : Bool := path.pieces.head? == some ['.']

/-- The component that a piece stands for, if it stands for one. -/
def component? (piece : List Char) : Option Component :=
  if piece = [] ∨ piece = ['.'] then none
  else if piece = ['.', '.'] then some .parent
  else some (.name (String.ofList piece))

/-- The component in front of the pieces: the root, a leading dot, or none. -/
def anchor (path : Path) : List Component :=
  if path.isAbsolute then [.root] else if path.startsAtDot then [.current] else []

/-- The components of a path. -/
def components (path : Path) : List Component := path.anchor ++ path.pieces.filterMap component?

/-- Whether two paths have the same components. -/
def sameComponents (a b : Path) : Bool := a.components == b.components

/-- Whether a path is not empty and goes down only: it has names and a dot, but neither a root nor
a step upwards. -/
def isContained (path : Path) : Bool :=
  path.text != "" && path.components.all fun
    | .name _ | .current => true
    | .root | .parent => false

/-- The path `relative` as seen from `base`. An absolute path does not depend on the base; any other
is appended after a slash. -/
def join (base relative : Path) : Path :=
  if relative.isAbsolute then relative
  else if base.text = "" ∨ base.text.toList.getLast? = some '/' then
    ⟨base.text ++ relative.text⟩
  else ⟨base.text ++ "/" ++ relative.text⟩

/-- The name of the last component, if that is a name. -/
def fileName? (path : Path) : Option String :=
  match path.components.getLast? with
  | some (.name text) => some text
  | _ => none

/-- Whether a piece stands for no component of its own. -/
def isIdle (piece : List Char) : Bool := piece == [] || piece == ['.']

/-- The front that is never cut off: the slash of an absolute path, or a leading dot. -/
def front (path : Path) : List Char :=
  if path.isAbsolute then ['/'] else if path.startsAtDot then ['.'] else []

/-- The pieces after the front, last piece first. -/
def bodyReversed (path : Path) : List (List Char) :=
  (cutAt '/' (path.text.toList.drop path.front.length)).reverse

/-- The text of the front and of reversed pieces, without idle pieces at its end. -/
def rebuild (front : List Char) (reversed : List (List Char)) : Path :=
  ⟨String.ofList (front ++ glue '/' (reversed.dropWhile isIdle).reverse)⟩

/-- The path without its last component. The root and the empty path have no parent. -/
def parent? (path : Path) : Option Path :=
  match path.bodyReversed.dropWhile isIdle with
  | _ :: before => some (rebuild path.front before)
  | [] => if path.isAbsolute then none else if path.startsAtDot then some ⟨""⟩ else none

/-- The stem and the extension of a file name, cut at the last dot. A name whose only dot is at its
start has no extension. -/
def splitName (name : List Char) : List Char × Option (List Char) :=
  match (cutAt '.' name).reverse with
  | ending :: before :: rest =>
    let stem := glue '.' (before :: rest).reverse
    if stem = [] then (name, none) else (stem, some ending)
  | _ => (name, none)

/-- The extension of the last component. -/
def extension? (path : Path) : Option String :=
  path.fileName?.bind fun name => (splitName name.toList).2.map String.ofList

/-- The path with the extension of its last component removed. -/
def withoutExtension (path : Path) : Path :=
  match path.extension?, path.bodyReversed.dropWhile isIdle with
  | some _, last :: before =>
    ⟨String.ofList (path.front ++ glue '/' ((splitName last).1 :: before).reverse)⟩
  | _, _ => path

end Path

end SealedBuild
