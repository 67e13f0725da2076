import SealedBuild.Config.Decode
import SealedBuild.Config.Problem
import SealedBuild.FileSystem.Resolve

/-!
# Loading configurations

A run takes its configuration from a file if one is named, and else from the built-in values. Either
way only a configuration without problems is handed out.
-/

namespace SealedBuild.Config

/-- Reads the configuration from the file that a path leads to. It is not checked. -/
def read (files : FileSystem) (path : Path) : Except Failure Config :=
  match files.readText path with
  | .error error => .error (.config ("cannot read " ++ path.text ++ ": " ++ error.message))
  | .ok text =>
    match parse text with
    | .error error => .error (.config ("cannot parse " ++ path.text ++ ": " ++ error.message))
    | .ok config => .ok config

/-- The configuration, if validation finds no problem. -/
def checked (config : Config) : Except Failure Config := config.validate.result.map fun _ => config

/-- The configuration of a run. -/
def load (files : FileSystem) (path? : Option Path) : Except Failure Config :=
  match path? with
  | none => checked {}
  | some path =>
    match read files path with
    | .error failure => .error failure
    | .ok config => config.checked

end SealedBuild.Config
