import SealedBuild.Pipeline.Stage
import SealedBuild.Sandbox

/-!
# Actions

An action changes the world of a run and ends in one of three ways: with a value, with a failure, or
not at all because the start of a sandbox or a step hangs and the run is given up. What follows an
action happens only if the action ends with a value.
-/

namespace SealedBuild

/-- All that a run can change: the pipeline itself, the files, the state of the provider, and the
events so far. -/
structure World (σ : Type) where
  pipeline : Pipeline
  files : FileSystem
  sandbox : σ
  events : List Event

/-- How an action ends. -/
inductive Ending (α : Type)
  | value (value : α)
  | failed (failure : Failure)
  | abandoned
  deriving DecidableEq

/-- A change of the world that may end early. -/
def Action (σ α : Type) := World σ → Ending α × World σ

namespace Action

variable {σ α β : Type}

/-- The action that does nothing but end with a value. -/
def pure (value : α) : Action σ α := fun world => (.value value, world)

/-- One action, and then another that depends on its value. -/
def bind (first : Action σ α) (next : α → Action σ β) : Action σ β := fun world =>
  match first world with
  | (.value value, world) => next value world
  | (.failed failure, world) => (.failed failure, world)
  | (.abandoned, world) => (.abandoned, world)

instance : Monad (Action σ) where
  pure := Action.pure
  bind := Action.bind

/-- Ends with a value, or fails. -/
def ofExcept (result : Except Failure α) : Action σ α := fun world =>
  match result with
  | .ok value => (.value value, world)
  | .error failure => (.failed failure, world)

/-- Moves the pipeline on to a stage. -/
def advance (stage : Stage) : Action σ Unit := fun world =>
  (.value (), { world with pipeline := world.pipeline.advance stage })

/-- Ends with something that is read off the files. -/
def onFiles (read : FileSystem → α) : Action σ α := fun world => (.value (read world.files), world)

end Action

namespace World

variable {σ α : Type}

/-- The world after a reply of the provider and an event. -/
def after (world : World σ) (reply : Reply α) (sandbox : σ) (events : List Event) : World σ :=
  { world with
    files := world.files.applyAll reply.writes
    sandbox
    events := world.events ++ events }

end World

namespace Provider

variable {σ α β : Type}

/-- Starts a sandbox. -/
def start (provider : Provider σ) (session : Session) : Action σ Unit := fun world =>
  match provider.create session world.sandbox with
  | (reply, sandbox) =>
    match reply.answer with
    | .hung => (.abandoned, world.after reply sandbox [.createFailed session none])
    | .failed failure =>
      (.failed failure, world.after reply sandbox [.createFailed session (some failure)])
    | .started => (.value (), world.after reply sandbox [.created session])

/-- Runs one step in the sandbox. -/
def perform (provider : Provider σ) (step : Step) : Action σ StepOutput := fun world =>
  match provider.run step world.sandbox with
  | (reply, sandbox) =>
    let world := world.after reply sandbox [.step step]
    match reply.answer with
    | .hung => (.abandoned, world)
    | .failed failure => (.failed failure, world)
    | .finished output => (.value output, world)

/-- Tears the sandbox down. That this can fail makes no difference to a run. -/
def tearDown (provider : Provider σ) (world : World σ) : World σ :=
  match provider.cleanup world.sandbox with
  | (reply, sandbox) => world.after reply sandbox [.cleanup]

/-- Lets go of the sandbox. -/
def letGo (provider : Provider σ) (events : List Event) (world : World σ) : World σ :=
  match provider.drop world.sandbox with
  | (reply, sandbox) => world.after reply sandbox events

/-- Runs an action in a fresh sandbox and another one after it. The sandbox is torn down as soon
as the first action ends, whether with a value or not, and is let go of at the end; if the run is
given up inside it, it is let go of at once. A sandbox whose start is given up is none to let go
of. -/
def inSandbox (provider : Provider σ) (session : Session) (inside : Action σ α)
    (afterwards : α → Action σ β) : Action σ β := fun world =>
  match provider.start session world with
  | (.abandoned, world) => (.abandoned, world)
  | (.failed failure, world) => (.failed failure, world)
  | (.value (), world) =>
    match inside world with
    | (.abandoned, world) => (.abandoned, provider.letGo [.dropped] world)
    | (.failed failure, world) => (.failed failure, provider.letGo [] (provider.tearDown world))
    | (.value value, world) =>
      let (ending, world) := afterwards value (provider.tearDown world)
      (ending, provider.letGo [] world)

end Provider

end SealedBuild
