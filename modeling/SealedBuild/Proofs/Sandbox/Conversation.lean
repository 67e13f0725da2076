import SealedBuild.Pipeline.Action

/-!
# Conversations with a sandbox

The steps that run in a sandbox, one after another, determine what the provider answers, what it
writes and where its state ends up. Inside the sandbox a run changes the world in two ways only: it
runs steps, and it moves the pipeline on to stages.

Main statements: `replies_append` and `stateAfter_append`, by which a conversation can be cut at
any step, and the equations of `World.ran` and `World.reached`, by which running steps and reaching
stages do not get in each other's way.
-/

namespace SealedBuild

variable {σ : Type}

namespace FileSystem

theorem applyAll_append (files : FileSystem) (first second : List Write) :
    files.applyAll (first ++ second) = (files.applyAll first).applyAll second := by
  simp only [applyAll, List.foldl_append]

@[simp] theorem applyAll_nil (files : FileSystem) : files.applyAll [] = files := rfl

end FileSystem

namespace Provider

variable (provider : Provider σ)

/-- The replies to steps that run one after another, whatever they are. -/
def replies : List Step → σ → List (Reply Response)
  | [], _ => []
  | step :: rest, state =>
    (provider.run step state).1 :: replies rest (provider.run step state).2

/-- The state of the provider after steps that run one after another. -/
def stateAfter : List Step → σ → σ
  | [], state => state
  | step :: rest, state => stateAfter rest (provider.run step state).2

/-- Everything that is written by steps that run one after another. -/
def writesOf (steps : List Step) (state : σ) : List Write :=
  (provider.replies steps state).flatMap (·.writes)

@[simp] theorem replies_nil (state : σ) : provider.replies [] state = [] := rfl

@[simp] theorem stateAfter_nil (state : σ) : provider.stateAfter [] state = state := rfl

@[simp] theorem writesOf_nil (state : σ) : provider.writesOf [] state = [] := rfl

theorem stateAfter_append (first second : List Step) (state : σ) :
    provider.stateAfter (first ++ second) state =
      provider.stateAfter second (provider.stateAfter first state) := by
  induction first generalizing state with
  | nil => rfl
  | cons step rest ih => exact ih _

/-- What is answered to later steps depends on the earlier ones through the state only. -/
theorem replies_append (first second : List Step) (state : σ) :
    provider.replies (first ++ second) state =
      provider.replies first state ++
        provider.replies second (provider.stateAfter first state) := by
  induction first generalizing state with
  | nil => rfl
  | cons step rest ih => exact congrArg _ (ih _)

theorem writesOf_append (first second : List Step) (state : σ) :
    provider.writesOf (first ++ second) state =
      provider.writesOf first state ++
        provider.writesOf second (provider.stateAfter first state) := by
  simp only [writesOf, replies_append, List.flatMap_append]

end Provider

namespace World

variable (world : World σ) (provider : Provider σ)

/-- The world after steps have run in the sandbox one after another. -/
def ran (steps : List Step) : World σ :=
  { world with
    files := world.files.applyAll (provider.writesOf steps world.sandbox)
    sandbox := provider.stateAfter steps world.sandbox
    events := world.events ++ steps.map .step }

/-- The world after the pipeline has reached stages one after another. -/
def reached (stages : List Stage) : World σ :=
  { world with pipeline := stages.foldl Pipeline.advance world.pipeline }

@[simp] theorem ran_nil : world.ran provider [] = world := by
  simp [ran]

@[simp] theorem reached_nil : world.reached [] = world := rfl

theorem ran_append (first second : List Step) :
    world.ran provider (first ++ second) = (world.ran provider first).ran provider second := by
  simp [ran, provider.writesOf_append, provider.stateAfter_append, FileSystem.applyAll_append]

theorem reached_append (first second : List Stage) :
    world.reached (first ++ second) = (world.reached first).reached second := by
  simp only [reached, List.foldl_append]

/-- Steps and stages do not get in each other's way. -/
theorem ran_reached (stages : List Stage) (steps : List Step) :
    (world.reached stages).ran provider steps = (world.ran provider steps).reached stages := rfl

@[simp] theorem ran_pipeline (steps : List Step) :
    (world.ran provider steps).pipeline = world.pipeline := rfl

@[simp] theorem ran_files (steps : List Step) :
    (world.ran provider steps).files =
      world.files.applyAll (provider.writesOf steps world.sandbox) := rfl

@[simp] theorem ran_sandbox (steps : List Step) :
    (world.ran provider steps).sandbox = provider.stateAfter steps world.sandbox := rfl

@[simp] theorem ran_events (steps : List Step) :
    (world.ran provider steps).events = world.events ++ steps.map .step := rfl

@[simp] theorem reached_files (stages : List Stage) : (world.reached stages).files = world.files :=
  rfl

@[simp] theorem reached_sandbox (stages : List Stage) :
    (world.reached stages).sandbox = world.sandbox := rfl

@[simp] theorem reached_events (stages : List Stage) :
    (world.reached stages).events = world.events := rfl

/-- Reaching stages appends them to the history. -/
@[simp] theorem reached_history (stages : List Stage) :
    (world.reached stages).pipeline.history = world.pipeline.history ++ stages := by
  induction stages generalizing world with
  | nil => simp
  | cons stage rest ih =>
      change ((world.reached [stage]).reached rest).pipeline.history = _
      rw [ih]
      simp [reached, Pipeline.advance]

/-- The stage that was reached last is the current one. -/
theorem reached_stage (stages : List Stage)
    (current : world.pipeline.history.getLast? = some world.pipeline.stage) :
    (world.reached stages).pipeline.history.getLast? =
      some (world.reached stages).pipeline.stage := by
  induction stages generalizing world with
  | nil => exact current
  | cons stage rest ih => exact ih (world.reached [stage]) (by simp [reached, Pipeline.advance])

/-- Reaching stages changes neither the configuration nor the mode. -/
theorem reached_settings (stages : List Stage) :
    (world.reached stages).pipeline.config = world.pipeline.config ∧
      (world.reached stages).pipeline.mode = world.pipeline.mode := by
  induction stages generalizing world with
  | nil => exact ⟨rfl, rfl⟩
  | cons stage rest ih => exact ih (world.reached [stage])

end World

end SealedBuild
