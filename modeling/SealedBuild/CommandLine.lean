import SealedBuild.CommandLine.Help
import SealedBuild.Config.Load
import SealedBuild.Container
import SealedBuild.Pipeline

/-!
# The command line

One call of the program: its arguments and environment select a request, a configuration and a mode,
and a pipeline carries them out. Results go to one stream and failures to another, and the exit
status tells a caller what happened.
-/

namespace SealedBuild.CommandLine

/-- What a call of the program leaves behind. -/
structure Output where
  code : Int
  stdout : String
  stderr : String
  deriving DecidableEq

namespace Output

/-- The exit status as a parent process sees it. -/
def status (output : Output) : Nat := (output.code % 256).toNat

/-- The output of a call that succeeds. -/
def success (stdout : String) : Output := ⟨0, stdout, ""⟩

/-- The output of a call that fails after it has printed something. -/
def failure (stdout : String) (failure : Failure) : Output :=
  ⟨failure.exitCode, stdout, "error: " ++ failure.message ++ "\n"⟩

/-- The output of a call that ends while its arguments are read. -/
def ofStop (environment : String → Option String) : Stop → Output
  | .help => success (helpText environment)
  | .version => success versionText
  | .refused error => ⟨1, "", error.report⟩

end Output

/-- What a call is to carry out. -/
structure Task where
  request : Request
  config : Config
  mode : VerifyMode
  verifyOnly : Bool
  json : Bool

/-- The task that arguments stand for. An engine that is given takes the place of the configured
one. -/
def Task.ofArguments (arguments : Arguments) (files : FileSystem) (program : Path) :
    Except Failure Task := do
  let target ← Request.requireTarget arguments.target
  let sourceRoot ← Request.resolveSourceRoot files arguments.sourceRoot program
  let request ← Request.make files (some target) sourceRoot
  let loaded ← Config.load files arguments.config
  let engine := arguments.engine.getD loaded.sandbox.engine
  let config := { loaded with sandbox := { loaded.sandbox with engine } }
  let mode := if arguments.skipVerify then .skip else .ofConfig config
  return ⟨request, config, mode, arguments.verifyOnly, arguments.json⟩

/-- The lines that sum a report up. -/
def summary (report : Report) : String :=
  String.join (report.dependencies.map fun check =>
    check.package ++ ": " ++ check.outcome.describe ++ "\n") ++
    toString report.tokens.length ++ " token matches, " ++
    toString (report.tokens.filter (!·.allowed)).length ++ " outside documentation\n"

/-- What a verification prints. A report with a path that is not text has no document. -/
def reportText (json : Bool) (report : Report) : Except Failure String :=
  if json then
    match report.toJson? with
    | some document => .ok (document.render ++ "\n")
    | none =>
      .error (.config "failed to serialize report: path contains invalid UTF-8 characters")
  else .ok (summary report)

/-- The output of a verification. A run that was given up counts as interrupted. -/
def verifyOutput (json : Bool) : Ending Report → Output
  | .abandoned => .failure "" .interrupted
  | .failed failure => .failure "" failure
  | .value report =>
    match reportText json report with
    | .error failure => .failure "" failure
    | .ok text => if report.passed then .success text else .failure text report.failure

/-- The output of a full run. A run that was given up counts as interrupted. -/
def runOutput (binary : String) : Ending Artifact → Output
  | .abandoned => .failure "" .interrupted
  | .failed failure => .failure "" failure
  | .value artifact =>
    .success ("installed " ++ binary ++ " to " ++ artifact.installedPath.text ++ "\n")

variable {σ : Type}

/-- The world in which a task begins. -/
def Task.world (task : Task) (files : FileSystem) (sandbox : σ) : World σ :=
  ⟨(Pipeline.new task.config).withMode task.mode, files, sandbox, []⟩

/-- Carries a task out. -/
def Task.perform (task : Task) (provider : Provider σ) (world : World σ) : Output × World σ :=
  if task.verifyOnly then
    let (ending, world) := Pipeline.verifyOnly provider task.request world
    (verifyOutput task.json ending, world)
  else
    let (ending, world) := Pipeline.run provider task.request world
    (runOutput task.config.build.binary ending, world)

/-- One call of the program. The provider of sandboxes depends on the engine's command. -/
def run (providerOf : String → Provider σ) (args : List String)
    (environment : String → Option String) (program : Path) (files : FileSystem) (sandbox : σ) :
    Output × FileSystem × σ :=
  match Arguments.parse args environment with
  | .error stop => (.ofStop environment stop, files, sandbox)
  | .ok arguments =>
    match Task.ofArguments arguments files program with
    | .error failure => (.failure "" failure, files, sandbox)
    | .ok task =>
      let (output, world) :=
        task.perform (providerOf task.config.sandbox.engine) (task.world files sandbox)
      (output, world.files, world.sandbox)

/-- One call of the program with containers for sandboxes, all under one name. -/
def runWithContainers {ε : Type} (engine : Engine ε) (name : String) (args : List String)
    (environment : String → Option String) (program : Path) (files : FileSystem) (state : ε) :
    Output × FileSystem × ContainerState ε :=
  run (fun command => ContainerState.provider engine command name) args environment program files
    (.initial state)

end SealedBuild.CommandLine
