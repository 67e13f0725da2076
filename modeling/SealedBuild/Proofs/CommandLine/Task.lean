import SealedBuild.CommandLine
import SealedBuild.Proofs.Container.Life

/-!
# Tasks

A task is one call of a new pipeline. What the program prints and its exit status depend on how the
call ends, and on nothing else.

Main statement: `runWithContainers_of_task`, which gives the account of the call.
-/

namespace SealedBuild.CommandLine

variable {σ ε : Type} {provider : Provider σ} {engine : Engine ε} {name : String}
  {args : List String} {environment : String → Option String} {program : Path}
  {files left : FileSystem} {state : ε} {final : ContainerState ε} {output : Output}
  {arguments : Arguments} {task : Task}

namespace Task

/-- The call of the pipeline that a task stands for. -/
def call (task : Task) : Call :=
  if task.verifyOnly then .verifyOnly task.request else .run task.request

@[simp] theorem call_request (task : Task) : task.call.request = task.request := by
  unfold call
  split <;> rfl

/-- How the call of a task ends if its sandboxes are containers. -/
def ending (task : Task) (engine : Engine ε) (name : String) (files : FileSystem) (state : ε) :
    Ending (Artifact ⊕ Report) :=
  (task.call.perform (ContainerState.provider engine task.config.sandbox.engine name)
    (task.world files (.initial state))).1

/-- What is printed, and the exit status, when the call of a task has ended. A run that was given up
counts as interrupted. -/
def report (task : Task) : Ending (Artifact ⊕ Report) → Output
  | .abandoned => .failure "" .interrupted
  | .failed failure => .failure "" failure
  | .value (.inl artifact) => runOutput task.config.build.binary (.value artifact)
  | .value (.inr report) => verifyOutput task.json (.value report)

/-- To carry a task out is to make its call. -/
theorem perform_eq (task : Task) (provider : Provider σ) (world : World σ) :
    task.perform provider world = (task.report (task.call.perform provider world).1,
      (task.call.perform provider world).2) := by
  unfold perform call
  split
  · rw [Call.perform]
    rcases Pipeline.verifyOnly provider task.request world with ⟨ending, after⟩
    cases ending <;> rfl
  · rw [Call.perform]
    rcases Pipeline.run provider task.request world with ⟨ending, after⟩
    cases ending <;> rfl

end Task

/-- A program whose arguments are not accepted makes no call, and leaves the files as they are. -/
theorem runWithContainers_of_stop {stop : Stop}
    (stopped : Arguments.parse args environment = .error stop)
    (ran : runWithContainers engine name args environment program files state =
      (output, left, final)) :
    left = files ∧ final = .initial state := by
  unfold runWithContainers run at ran
  simp only [stopped] at ran
  obtain ⟨-, rest⟩ := Prod.mk.inj ran
  obtain ⟨rfl, rfl⟩ := Prod.mk.inj rest
  exact ⟨rfl, rfl⟩

/-- What a program prints whose arguments are not accepted, and its exit status. -/
theorem output_of_stop {stop : Stop} (stopped : Arguments.parse args environment = .error stop)
    (ran : runWithContainers engine name args environment program files state =
      (output, left, final)) : output = .ofStop environment stop := by
  unfold runWithContainers run at ran
  simp only [stopped] at ran
  exact (congrArg Prod.fst ran).symm

/-- A program whose arguments stand for no task makes no call, leaves the files as they are, and
fails. -/
theorem runWithContainers_of_refused {failure : Failure}
    (parsed : Arguments.parse args environment = .ok arguments)
    (refused : Task.ofArguments arguments files program = .error failure)
    (ran : runWithContainers engine name args environment program files state =
      (output, left, final)) :
    output = .failure "" failure ∧ left = files ∧ final = .initial state := by
  unfold runWithContainers run at ran
  simp only [parsed, refused] at ran
  obtain ⟨rfl, rest⟩ := Prod.mk.inj ran
  obtain ⟨rfl, rfl⟩ := Prod.mk.inj rest
  exact ⟨rfl, rfl, rfl⟩

/-- A program that is given a task makes the call of the task, and reports how it has ended. -/
theorem runWithContainers_of_task (parsed : Arguments.parse args environment = .ok arguments)
    (given : Task.ofArguments arguments files program = .ok task)
    (ran : runWithContainers engine name args environment program files state =
      (output, left, final)) :
    output = task.report (task.ending engine name files state) ∧
      ∃ executed, Account (ContainerState.provider engine task.config.sandbox.engine name)
        (task.world files (.initial state)) task.call executed
        (task.ending engine name files state) (left, final) := by
  obtain ⟨events, -, told⟩ := task.call.account
    (ContainerState.provider engine task.config.sandbox.engine name)
    (task.world files (.initial state))
  unfold runWithContainers run at ran
  simp only [parsed, given, Task.perform_eq] at ran
  obtain ⟨output_eq, left_eq⟩ := Prod.mk.inj ran
  refine ⟨output_eq.symm, Event.steps events, ?_⟩
  rw [← left_eq]
  exact told

end SealedBuild.CommandLine
