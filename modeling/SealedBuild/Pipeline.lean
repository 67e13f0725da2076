import SealedBuild.Install
import SealedBuild.Pipeline.Action
import SealedBuild.Plan
import SealedBuild.Query
import SealedBuild.Scan
import SealedBuild.Toolchain.Load

/-!
# The pipeline

A full run loads the toolchain, starts a sandbox, provisions it, builds, verifies and installs; a
verification does the same without building and installing. Everything happens in this order, and
the first failure ends the run. The sandbox is gone before anything is installed.
-/

namespace SealedBuild

namespace Pipeline

variable {σ : Type}

/-- Runs a step that must end with exit status zero. -/
def require (provider : Provider σ) (refusal : StepOutput → Failure) (step : Step) :
    Action σ Unit := do
  let output ← provider.perform step
  if output.success then pure () else Action.ofExcept (.error (refusal output))

/-- Runs steps in order as long as they end with exit status zero. -/
def provision (provider : Provider σ) : List Step → Action σ Unit
  | [] => pure ()
  | step :: rest => do
    require provider (fun output => .toolchainInstall step.display output.code) step
    provision provider rest

/-- Builds the binary. -/
def build (provider : Provider σ) (config : Config) (toolchain : Toolchain) : Action σ Unit :=
  require provider (fun output => .build config.build.package output.code)
    (config.buildStep toolchain)

/-- Asks for each package that is forbidden whether the build depends on it. -/
def queries (provider : Provider σ) (config : Config) (toolchain : Toolchain) :
    List Constraint → Action σ (List DependencyCheck)
  | [] => pure []
  | constraint :: rest => do
    let output ← provider.perform (config.dependencyQuery toolchain constraint.package)
    let outcome ← Action.ofExcept (interpretQuery constraint.package output)
    let more ← queries provider config toolchain rest
    pure (⟨constraint.package, constraint.rationale, outcome⟩ :: more)

/-- Verifies what was built: all queries, and then a scan of the source tree. The patterns of the
scan are compiled in their languages before the first query. -/
def verifyIn (languages : Languages) (provider : Provider σ) (config : Config)
    (toolchain : Toolchain) (sourceRoot : Path) : Action σ Report := do
  let scanner ← Action.ofExcept (TokenScanner.ofSettings languages config.verify)
  let dependencies ← queries provider config toolchain config.forbidden
  let tokens ← Action.onFiles fun files => scanner.scan files sourceRoot
  pure ⟨config.build.package, dependencies, tokens⟩

/-- Verifies what was built, with the patterns in the languages of the program. -/
def verify (provider : Provider σ) (config : Config) (toolchain : Toolchain) (sourceRoot : Path) :
    Action σ Report :=
  verifyIn .standard provider config toolchain sourceRoot

/-- What happens inside the sandbox of a full run. -/
def buildInside (provider : Provider σ) (config : Config) (mode : VerifyMode)
    (toolchain : Toolchain) (sourceRoot : Path) : Action σ Unit := do
  Action.advance .sandboxReady
  provision provider (toolchain.provisionSteps config.toolchain.osPackages)
  Action.advance .toolchainReady
  build provider config toolchain
  Action.advance .built
  if mode = .skip then pure ()
  else do
    let report ← verify provider config toolchain sourceRoot
    if !report.passed ∧ mode = .enforce then Action.ofExcept (.error report.failure)
    else Action.advance .verified

/-- What happens inside the sandbox of a verification. -/
def verifyInside (provider : Provider σ) (config : Config) (toolchain : Toolchain)
    (sourceRoot : Path) : Action σ Report := do
  Action.advance .sandboxReady
  provision provider (toolchain.provisionSteps config.toolchain.osPackages)
  Action.advance .toolchainReady
  let report ← verify provider config toolchain sourceRoot
  Action.advance .verified
  pure report

/-- Installs the binary. -/
def install (config : Config) (request : Request) : Action σ Artifact := fun world =>
  match installArtifact world.files (config.artifactSource request.sourceRoot)
      (config.artifactDestination request.targetRoot) with
  | (.ok artifact, files) =>
    (.value artifact,
      { world with files, pipeline := world.pipeline.advance .installed })
  | (.error failure, files) => (.failed failure, { world with files })

/-- Loads the toolchain that the source tree pins. -/
def loadToolchain (config : Config) (request : Request) : Action σ Toolchain := do
  let loaded ← Action.onFiles fun files =>
    Toolchain.load files request.sourceRoot config.toolchain.manifest
  let toolchain ← Action.ofExcept loaded
  Action.advance .validated
  pure toolchain

/-- Loads the toolchain, does something with it in a fresh sandbox, and something else after
that. -/
def withToolchain {α β : Type} (provider : Provider σ) (config : Config) (request : Request)
    (inside : Toolchain → Action σ α) (afterwards : α → Action σ β) : Action σ β := do
  let toolchain ← loadToolchain config request
  provider.inSandbox (.forRequest request config) (inside toolchain) afterwards

/-- Builds and verifies in a sandbox, and does something after that. -/
def buildThen {β : Type} (provider : Provider σ) (config : Config) (mode : VerifyMode)
    (request : Request) (afterwards : Action σ β) : Action σ β :=
  withToolchain provider config request
    (fun toolchain => buildInside provider config mode toolchain request.sourceRoot)
    fun _ => afterwards

/-- A full run from the loaded toolchain to the installed binary. -/
def execute (provider : Provider σ) (config : Config) (mode : VerifyMode) (request : Request) :
    Action σ Artifact :=
  buildThen provider config mode request (install config request)

/-- A verification from the loaded toolchain to the report. -/
def executeVerify (provider : Provider σ) (config : Config) (request : Request) :
    Action σ Report :=
  withToolchain provider config request
    (fun toolchain => verifyInside provider config toolchain request.sourceRoot) pure

/-- Ends a run: it is done or has failed, unless it was given up. -/
def finish {α : Type} (action : Action σ α) : Action σ α := fun world =>
  match action world with
  | (.value value, world) =>
    (.value value, { world with pipeline := world.pipeline.advance .done })
  | (.failed failure, world) =>
    (.failed failure, { world with pipeline := world.pipeline.advance (.failed failure.message) })
  | (.abandoned, world) => (.abandoned, world)

/-- Runs an action, unless the pipeline has ended before. -/
def unlessFinished {α : Type} (action : Pipeline → Action σ α) : Action σ α := fun world =>
  if world.pipeline.stage.isTerminal then
    (.failed (.config "pipeline has already finished"), world)
  else finish (action world.pipeline) world

/-- Builds, verifies and installs. -/
def run (provider : Provider σ) (request : Request) : Action σ Artifact :=
  unlessFinished fun pipeline => execute provider pipeline.config pipeline.mode request

/-- Verifies only. -/
def verifyOnly (provider : Provider σ) (request : Request) : Action σ Report :=
  unlessFinished fun pipeline => executeVerify provider pipeline.config request

end Pipeline

end SealedBuild
