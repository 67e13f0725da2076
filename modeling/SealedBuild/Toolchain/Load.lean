import SealedBuild.Failure
import SealedBuild.FileSystem.Resolve
import SealedBuild.Toolchain

/-!
# Loading toolchains

The manifest is a file of the source tree. If a manifest that should end in `.toml` does not
exist, the file of the same name without that ending takes its place.
-/

namespace SealedBuild.Toolchain

/-- The file that pins the toolchain. -/
def manifestFile (files : FileSystem) (sourceRoot manifest : Path) : Path :=
  let path := sourceRoot.join manifest
  let bare := path.withoutExtension
  if !files.pathExists path ∧ path.extension? = some "toml" ∧ files.isFile bare then bare
  else path

/-- Reads the toolchain that a source tree pins. -/
def load (files : FileSystem) (sourceRoot manifest : Path) : Except Failure Toolchain :=
  let path := manifestFile files sourceRoot manifest
  match files.readText path with
  | .error error => .error (.toolchainManifest path error.message)
  | .ok content =>
    match parse content with
    | .error error => .error (.toolchainManifest path error.message)
    | .ok toolchain => .ok toolchain

end SealedBuild.Toolchain
