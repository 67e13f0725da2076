import SealedBuild.Constraint
import SealedBuild.Json
import SealedBuild.Path

/-!
# Configuration

Everything about a run that may vary: the sandbox, the toolchain's place, the package that is built,
where its binary goes, and what is verified. Each field has a built-in value, and the version of the
toolchain is not among the fields, since only the source tree pins it.
-/

namespace SealedBuild

/-- The sandbox and its two mounts. -/
structure SandboxSettings where
  /-- The command of the container engine. -/
  engine : String := "docker"
  image : String := "rust:1.90.0-bookworm"
  /-- Where the source tree is seen inside the sandbox. -/
  sourceMount : Path := ⟨"/workspace"⟩
  /-- Where the target tree is seen inside the sandbox. -/
  targetMount : Path := ⟨"/platform"⟩
  /-- The directory that is built in, below the source root. -/
  buildSubdir : Path := ⟨"codex-rs"⟩
  /-- The number of seconds after which the sandbox stops by itself. -/
  maxLifetimeSecs : Nat := 14400
  deriving DecidableEq

/-- Where the toolchain is pinned, and what it needs from the operating system. -/
structure ToolchainSettings where
  manifest : Path := ⟨"codex-rs/rust-toolchain.toml"⟩
  osPackages : List String := ["build-essential", "pkg-config", "git", "ca-certificates"]
  deriving DecidableEq

/-- What is built. -/
structure BuildSettings where
  package : String := "codex-cli"
  binary : String := "codex"
  deriving DecidableEq

/-- Where the binary goes, below the target root. -/
structure InstallSettings where
  destination : Path := ⟨"mooreCube/bin/codex/codex"⟩
  deriving DecidableEq

/-- What is verified. -/
structure VerifySettings where
  /-- Whether a violation keeps the binary from being installed. -/
  enforce : Bool := true
  constraints : List Constraint := defaultConstraints
  tokens : List Token := defaultTokens
  /-- Patterns of paths on which tokens do not count. -/
  allowedPaths : List String := defaultAllowedPaths
  /-- Names of directories that are not searched for tokens. -/
  skipDirs : List String := [".git", "target", "node_modules"]
  deriving DecidableEq

/-- The configuration of a run. -/
structure Config where
  sandbox : SandboxSettings := {}
  toolchain : ToolchainSettings := {}
  build : BuildSettings := {}
  install : InstallSettings := {}
  verify : VerifySettings := {}
  deriving DecidableEq

namespace Config

/-- The directory inside the sandbox in which steps run. -/
def buildDirectory (config : Config) : Path :=
  config.sandbox.sourceMount.join config.sandbox.buildSubdir

/-- The built binary, as seen from outside of the sandbox. -/
def artifactSource (config : Config) (sourceRoot : Path) : Path :=
  (((sourceRoot.join config.sandbox.buildSubdir).join ⟨"target"⟩).join ⟨"release"⟩).join
    ⟨config.build.binary⟩

/-- Where the binary is installed. -/
def artifactDestination (config : Config) (targetRoot : Path) : Path :=
  targetRoot.join config.install.destination

/-- The constraints that forbid something, in order. -/
def forbidden (config : Config) : List Constraint := config.verify.constraints.filter (·.disallowed)

end Config

/-- A path as a document. -/
def Path.toJson (path : Path) : Json := .string path.text

/-- The settings of the sandbox as a document. -/
def SandboxSettings.toJson (settings : SandboxSettings) : Json :=
  .object [("engine", .string settings.engine), ("image", .string settings.image),
    ("source_mount", settings.sourceMount.toJson), ("target_mount", settings.targetMount.toJson),
    ("build_subdir", settings.buildSubdir.toJson),
    ("max_lifetime_secs", .number settings.maxLifetimeSecs)]

/-- The settings of the toolchain as a document. -/
def ToolchainSettings.toJson (settings : ToolchainSettings) : Json :=
  .object [("manifest", settings.manifest.toJson), ("os_packages", .ofStrings settings.osPackages)]

/-- A constraint as a document. -/
def Constraint.toJson (constraint : Constraint) : Json :=
  .object [("package", .string constraint.package), ("disallowed", .bool constraint.disallowed),
    ("rationale", .string constraint.rationale)]

/-- A token as a document. -/
def Token.toJson (token : Token) : Json :=
  .object [("pattern", .string token.pattern), ("rationale", .string token.rationale)]

/-- The settings of the verification as a document. -/
def VerifySettings.toJson (settings : VerifySettings) : Json :=
  .object [("enforce", .bool settings.enforce),
    ("constraints", .array (settings.constraints.map (·.toJson))),
    ("tokens", .array (settings.tokens.map (·.toJson))),
    ("allowed_paths", .ofStrings settings.allowedPaths),
    ("skip_dirs", .ofStrings settings.skipDirs)]

/-- A configuration as a document. -/
def Config.toJson (config : Config) : Json :=
  .object [("sandbox", config.sandbox.toJson), ("toolchain", config.toolchain.toJson),
    ("build", .object [("package", .string config.build.package),
      ("binary", .string config.build.binary)]),
    ("install", .object [("destination", config.install.destination.toJson)]),
    ("verify", config.verify.toJson)]

end SealedBuild
