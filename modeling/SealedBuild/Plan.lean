import SealedBuild.Config
import SealedBuild.Step
import SealedBuild.Toolchain

/-!
# The plan of a run

The steps that run in the sandbox, as far as they are known beforehand: the packages of the
operating system, the pinned toolchain and a probe of it, the build of one binary, and one query
for each package that is forbidden.
-/

namespace SealedBuild

namespace Toolchain

/-- The steps that install packages of the operating system. -/
def packageSteps (osPackages : List String) : List Step :=
  if osPackages = [] then []
  else [⟨"apt-get", ["update"]⟩,
    ⟨"apt-get", ["install", "-y", "--no-install-recommends"] ++ osPackages⟩]

/-- The step that installs the toolchain. -/
def installStep (toolchain : Toolchain) : Step :=
  ⟨"rustup", ["toolchain", "install", toolchain.channel, "--profile", toolchain.effectiveProfile] ++
    toolchain.components.flatMap (fun component => ["--component", component]) ++
    toolchain.targets.flatMap fun target => ["--target", target]⟩

/-- The step that asks the installed compiler for its version. -/
def probeStep (toolchain : Toolchain) : Step := ⟨"rustc", [toolchain.argument, "--version"]⟩

/-- The steps before the build. -/
def provisionSteps (toolchain : Toolchain) (osPackages : List String) : List Step :=
  packageSteps osPackages ++ [toolchain.installStep, toolchain.probeStep]

end Toolchain

namespace Config

/-- The step that builds the binary. -/
def buildStep (config : Config) (toolchain : Toolchain) : Step :=
  ⟨"cargo", [toolchain.argument, "build", "--release", "-p", config.build.package, "--bin",
    config.build.binary]⟩

/-- The step that asks whether, and through what, the built package depends on another one. -/
def dependencyQuery (config : Config) (toolchain : Toolchain) (package : String) : Step :=
  ⟨"cargo", [toolchain.argument, "tree", "-p", config.build.package, "--target", "all", "-e",
    "normal,build", "-i", package]⟩

end Config

end SealedBuild
