import SealedBuild.Config
import SealedBuild.Failure

/-!
# Stages

A run passes through its stages in order, and ends when it is done or has failed. The stages that it
has reached are kept in order; the last of them is the current one.
-/

namespace SealedBuild

/-- Where a run is. -/
inductive Stage
  | start
  | validated
  | sandboxReady
  | toolchainReady
  | built
  | verified
  | installed
  | done
  | failed (reason : String)
  deriving DecidableEq

namespace Stage

/-- Whether nothing comes after a stage. -/
def isTerminal : Stage → Bool
  | done | failed _ => true
  | _ => false

/-- The name of a stage. -/
def name : Stage → String
  | start => "start"
  | validated => "validated"
  | sandboxReady => "sandbox_ready"
  | toolchainReady => "toolchain_ready"
  | built => "built"
  | verified => "verified"
  | installed => "installed"
  | done => "done"
  | failed _ => "failed"

/-- A stage as a document. -/
def toJson (stage : Stage) : Json :=
  match stage with
  | failed reason => .object [("state", .string stage.name), ("reason", .string reason)]
  | _ => .object [("state", .string stage.name)]

end Stage

/-- What the verification means for a build. -/
inductive VerifyMode
  /-- A violation ends the run before anything is installed. -/
  | enforce
  /-- Violations are found but do not matter. -/
  | advisory
  /-- Nothing is verified. -/
  | skip
  deriving DecidableEq

/-- The mode that a configuration asks for. -/
def VerifyMode.ofConfig (config : Config) : VerifyMode :=
  if config.verify.enforce then enforce else advisory

/-- A configured run: the stage that it is in, and all stages up to now. -/
structure Pipeline where
  config : Config
  mode : VerifyMode
  stage : Stage
  history : List Stage

namespace Pipeline

/-- A pipeline at its start. -/
def new (config : Config) : Pipeline := ⟨config, .ofConfig config, .start, [.start]⟩

/-- A pipeline with another mode. -/
def withMode (pipeline : Pipeline) (mode : VerifyMode) : Pipeline := { pipeline with mode }

/-- Moves on to a stage. -/
def advance (pipeline : Pipeline) (stage : Stage) : Pipeline :=
  { pipeline with stage, history := pipeline.history ++ [stage] }

end Pipeline

end SealedBuild
