import SealedBuild.Failure
import SealedBuild.FileSystem.Resolve

/-!
# Requests

A request names the tree that is built and the tree that receives the binary. Both are existing
directories, given by their canonical paths.
-/

namespace SealedBuild

/-- The canonical roots of the source tree and the target tree. -/
structure Request where
  sourceRoot : Path
  targetRoot : Path
  deriving DecidableEq

namespace Request

/-- The target that was given, or the failure to give one. -/
def requireTarget (target? : Option Path) : Except Failure Path :=
  match target? with
  | some target => .ok target
  | none => .error (.usage "missing required argument <TARGET_ROOT>")

/-- Why a path leads nowhere, for a reader. -/
def missingReason (error : OsError) : String :=
  if error = .notFound then "does not exist" else error.message

/-- The canonical path of an existing directory. -/
def existingDirectory (files : FileSystem) (path : Path) : Except Failure Path :=
  match files.entryAt path with
  | .error error => .error (.path path (missingReason error))
  | .ok .directory =>
    match files.canonical path with
    | .ok canonical => .ok canonical
    | .error error => .error (.io error.message)
  | .ok _ => .error (.path path "is not a directory")

/-- The request for a target, if one was given, and a source root. A missing target is reported
first, and then the source root before the target. -/
def make (files : FileSystem) (target? : Option Path) (sourceRoot : Path) :
    Except Failure Request := do
  let target ← requireTarget target?
  let sourceRoot ← existingDirectory files sourceRoot
  let targetRoot ← existingDirectory files target
  return ⟨sourceRoot, targetRoot⟩

/-- The source root that a program belongs to: two levels above the program itself. -/
def sourceRootOfProgram (files : FileSystem) (program : Path) : Except Failure Path :=
  match files.canonical program with
  | .error error =>
    .error (.path program ("cannot resolve program location: " ++ error.message))
  | .ok canonical =>
    match canonical.parent?.bind Path.parent? with
    | some root => .ok root
    | none => .error (.path canonical "program has no grandparent directory")

/-- The source root: the one that was given, or else the one that the running program belongs to. -/
def resolveSourceRoot (files : FileSystem) (given? : Option Path) (program : Path) :
    Except Failure Path :=
  match given? with
  | some path => .ok path
  | none => sourceRootOfProgram files program

end Request

end SealedBuild
