import SealedBuild.Failure
import SealedBuild.FileSystem.Change
import SealedBuild.Text.Quoted

/-!
# Installing

The built binary is copied into the directory of its destination under a name of its own, made
executable there, and renamed. The destination thus becomes a complete executable copy in one step,
and a copy that cannot be completed or renamed is removed again. The directory of the destination
must exist. A link at the destination is replaced itself; what it leads to is left alone.

The copy is an open file while it is written. To everything else that is done to it, it is given by
its path.
-/

namespace SealedBuild

open Text

/-- The permission bits of an installed binary. -/
def artifactMode : Nat := 0o755

/-- A binary that has been installed. -/
structure Artifact where
  sourcePath : Path
  installedPath : Path
  mode : Nat
  deriving DecidableEq

/-- A copy under a name of its own: its path, and where the open file is. -/
structure StagedCopy where
  path : Path
  place : Location
  deriving DecidableEq

namespace FileSystem

/-- The permission bits of a copy that is not complete. -/
def stagingMode : Nat := 0o600

/-- The number of names that are tried for a copy. -/
def stagingAttempts : Nat := 65536

/-- The name of a copy with a number. -/
def stagingName (number : Nat) : String := ".codex-install-" ++ toString (100000 + number)

/-- The absolute path of a directory. -/
def absolute (files : FileSystem) (directory : Path) : Path :=
  files.workingDirectory.toPath.join directory

/-- The path of a name in a directory, as seen from the root. -/
def pathWithin (files : FileSystem) (directory : Path) (name : String) : Path :=
  (files.absolute directory).join ⟨name⟩

/-- The sentence of an error that concerns a path. -/
def atPath (text : String) (path : Path) : String := text ++ " at path " ++ quoted path.text

/-- The fault of a step, if that is the one that fails. -/
def faultAt? (files : FileSystem) (step : CopyStep) : Option Fault :=
  files.fault?.filter fun fault => fault.step = step

/-- The outcome of a step, unless the step fails. -/
def attempt {α : Type} (files : FileSystem) (step : CopyStep) (outcome : Except OsError α) :
    Except OsError α :=
  match files.faultAt? step with
  | some fault => .error fault.error
  | none => outcome

/-- Creates a copy in a directory under the first name that is free, out of a number of names. -/
def createCopy (files : FileSystem) (directory : Path) :
    Nat → Except String (StagedCopy × FileSystem)
  | 0 => .error (atPath "too many temporary files exist" (files.absolute directory))
  | number + 1 =>
    let path := files.pathWithin directory (stagingName number)
    match files.attempt .create (files.createFile path stagingMode) with
    | .ok (place, created) => .ok (⟨path, place⟩, created)
    | .error .alreadyExists => createCopy files directory number
    | .error error => .error (atPath error.message path)

/-- Makes a copy a complete executable copy of a file. If that fails, the error is given, and
whatever has been written stays. -/
def completeCopy (files : FileSystem) (source : Path) (copy : StagedCopy) :
    Option OsError × FileSystem :=
  match files.attempt .openSource (files.readBytes source) with
  | .error error => (some error, files)
  | .ok content =>
    match files.faultAt? .copy with
    | some fault => (some fault.error, files.append copy.place (content.take fault.copied))
    | none =>
      let written := files.append copy.place content
      match written.faultAt? .sync with
      | some fault => (some fault.error, written)
      | none =>
        match written.attempt .setMode (written.setMode copy.path artifactMode) with
        | .error error => (some error, written)
        | .ok complete => (none, complete)

/-- Removes a copy. That it cannot be found makes no difference. -/
def discard (files : FileSystem) (copy : StagedCopy) : FileSystem :=
  match files.unlink copy.path with
  | .ok removed => removed
  | .error _ => files

/-- Makes an executable copy of a file in a directory, or says why there is none. -/
def stageCopy (files : FileSystem) (source directory : Path) :
    Except String StagedCopy × FileSystem :=
  match files.createCopy directory stagingAttempts with
  | .error reason => (.error reason, files)
  | .ok (copy, created) =>
    match created.completeCopy source copy with
    | (some error, after) => (.error error.message, after.discard copy)
    | (none, complete) => (.ok copy, complete)

end FileSystem

/-- Installs the file that one path leads to at another. -/
def installArtifact (files : FileSystem) (source destination : Path) :
    Except Failure Artifact × FileSystem :=
  let refuse (reason : String) := Except.error (Failure.copy source destination reason)
  if !files.isFile source then (refuse "build artifact not found", files)
  else match destination.parent? with
    | none => (refuse "destination has no parent directory", files)
    | some directory =>
      if !files.isDirectory directory then
        (refuse ("destination directory " ++ directory.text ++ " does not exist"), files)
      else match files.stageCopy source directory with
        | (.error reason, after) => (refuse reason, after)
        | (.ok copy, complete) =>
          match complete.attempt .rename (complete.rename copy.path destination) with
          | .error error => (refuse error.message, complete.discard copy)
          | .ok renamed => (.ok ⟨source, destination, artifactMode⟩, renamed)

end SealedBuild
