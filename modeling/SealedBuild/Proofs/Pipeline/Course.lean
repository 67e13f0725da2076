import SealedBuild.Pipeline
import SealedBuild.Proofs.Sandbox.Conversation

/-!
# The course of an action inside the sandbox

Inside the sandbox an action follows a plan of steps and a path of stages. It runs the steps of the
plan in order and reaches the stages in order; it comes to the end of both if it ends with a value,
and stops on the way otherwise. The stages that are reached after the last point at which the action
may still fail are its final ones.

Main statements: `buildInside_follows` and `verifyInside_follows`, the courses of a full run and of
a verification, and `Action.bind_value_iff`, by which the value of an action is traced back through
the actions that it is made of.
-/

namespace SealedBuild

variable {σ α β : Type}

namespace Action

/-- The steps that an action ran in a world and the stages that it reached, on its way along a plan
and a path. -/
structure Went (provider : Provider σ) (world : World σ) (result : Ending α × World σ)
    (plan : List Step) (path final : List Stage) (steps : List Step) (stages : List Stage) :
    Prop where
  world_eq : result.2 = (world.ran provider steps).reached stages
  stepsAlong : steps <+: plan
  value : ∀ value, result.1 = .value value → steps = plan ∧ stages = path ++ final
  stagesAlong : (∀ value, result.1 ≠ .value value) → stages <+: path
  hung : result.1 = .abandoned → ∃ done last, steps = done ++ [last] ∧
    (provider.run last (provider.stateAfter done world.sandbox)).1.answer = .hung

/-- In every world an action goes along a plan and a path. -/
def Follows (provider : Provider σ) (action : Action σ α) (plan : List Step)
    (path final : List Stage) : Prop :=
  ∀ world, ∃ steps stages, Went provider world (action world) plan path final steps stages

theorem pure_apply (value : α) (world : World σ) :
    (Pure.pure value : Action σ α) world = (.value value, world) := rfl

theorem bind_apply (action : Action σ α) (next : α → Action σ β) (world : World σ) :
    (action >>= next) world = match action world with
      | (.value value, world) => next value world
      | (.failed failure, world) => (.failed failure, world)
      | (.abandoned, world) => (.abandoned, world) := rfl

theorem bind_assoc {γ : Type} (action : Action σ α) (next : α → Action σ β)
    (last : β → Action σ γ) :
    action >>= next >>= last = action >>= fun value => next value >>= last := by
  funext world
  rw [bind_apply, bind_apply, bind_apply]
  rcases action world with ⟨ending, after⟩
  cases ending <;> rfl

/-- Two actions in a row end with a value if both do. -/
theorem bind_value_iff {action : Action σ α} {next : α → Action σ β} {world : World σ}
    {value : β} : ((action >>= next) world).1 = .value value ↔
      ∃ middle, (action world).1 = .value middle ∧
        (next middle (action world).2).1 = .value value := by
  rw [bind_apply]
  rcases action world with ⟨ending, after⟩
  cases ending with
  | value middle => simp
  | failed failure => simp
  | abandoned => simp

section Courses

variable (provider : Provider σ)

theorem pure_follows (value : α) : Follows provider (Pure.pure value) [] [] [] := by
  intro world
  exact ⟨[], [], by simp [pure_apply], List.prefix_refl _, fun _ _ => ⟨rfl, rfl⟩,
    fun _ => List.prefix_refl _, fun h => by cases h⟩

theorem onFiles_follows (read : FileSystem → α) : Follows provider (onFiles read) [] [] [] := by
  intro world
  exact ⟨[], [], by simp [onFiles], List.prefix_refl _, fun _ _ => ⟨rfl, rfl⟩,
    fun _ => List.prefix_refl _, fun h => by cases h⟩

theorem ofExcept_follows (result : Except Failure α) :
    Follows provider (ofExcept result) [] [] [] := by
  intro world
  cases result with
  | ok value =>
      exact ⟨[], [], by simp [ofExcept], List.prefix_refl _, fun _ _ => ⟨rfl, rfl⟩,
        fun _ => List.prefix_refl _, fun h => by cases h⟩
  | error failure =>
      exact ⟨[], [], by simp [ofExcept], List.prefix_refl _, by simp [ofExcept],
        fun _ => List.prefix_refl _, by simp [ofExcept]⟩

/-- A failure is on the way along any plan and path. -/
theorem fail_follows (failure : Failure) (plan : List Step) (path final : List Stage) :
    Follows provider (ofExcept (.error failure) : Action σ α) plan path final := by
  intro world
  exact ⟨[], [], by simp [ofExcept], List.nil_prefix, by simp [ofExcept],
    fun _ => List.nil_prefix, by simp [ofExcept]⟩

theorem advance_follows (stage : Stage) : Follows provider (advance stage) [] [] [stage] := by
  intro world
  exact ⟨[], [stage], by simp [advance, World.reached], List.prefix_refl _,
    fun _ _ => ⟨rfl, rfl⟩, fun h => absurd rfl (h ()), fun h => by cases h⟩

/-- The world after a step is the same whether it succeeds, fails or hangs. -/
theorem perform_world (step : Step) (world : World σ) :
    (provider.perform step world).2 = world.ran provider [step] := by
  simp only [Provider.perform, World.ran, World.after, Provider.writesOf, Provider.replies,
    Provider.stateAfter, List.flatMap_cons, List.flatMap_nil, List.append_nil, List.map_cons,
    List.map_nil]
  split <;> rfl

theorem perform_ending (step : Step) (world : World σ) :
    (provider.perform step world).1 =
      match (provider.run step world.sandbox).1.answer with
      | .hung => .abandoned
      | .failed failure => .failed failure
      | .finished output => .value output := by
  rcases replied : provider.run step world.sandbox with ⟨reply, state⟩
  simp only [Provider.perform, replied]
  cases reply.answer <;> rfl

theorem perform_follows (step : Step) :
    Follows provider (provider.perform step) [step] [] [] := by
  intro world
  refine ⟨[step], [], perform_world provider step world, List.prefix_refl _, fun _ _ => ⟨rfl, rfl⟩,
    fun _ => List.prefix_refl _, fun h => ⟨[], step, rfl, ?_⟩⟩
  rw [perform_ending] at h
  cases answer : (provider.run step world.sandbox).1.answer with
  | hung => exact answer
  | failed failure => simp [answer] at h
  | finished output => simp [answer] at h

end Courses

variable {provider : Provider σ}

/-- An action after another one follows both plans and both paths in a row. -/
theorem Follows.bind {action : Action σ α} {next : α → Action σ β} {plan plan' : List Step}
    {path final path' final' : List Stage} (first : Follows provider action plan path final)
    (second : ∀ value, Follows provider (next value) plan' path' final') :
    Follows provider (action >>= next) (plan ++ plan') (path ++ final ++ path') final' := by
  intro world
  obtain ⟨steps, stages, went⟩ := first world
  rw [bind_apply]
  cases ran : action world with
  | mk ending middle =>
      rw [ran] at went
      cases ending with
      | value value =>
          obtain ⟨rfl, rfl⟩ := went.value value rfl
          obtain rfl := went.world_eq
          obtain ⟨steps', stages', went'⟩ := second value _
          refine ⟨steps ++ steps', path ++ final ++ stages', ?_, ?_, ?_, ?_, ?_⟩
          · rw [went'.world_eq, World.ran_reached, World.ran_append]
            simp only [World.reached_append]
          · exact List.prefix_append_right_inj _ |>.mpr went'.stepsAlong
          · intro last ends
            obtain ⟨rfl, rfl⟩ := went'.value last ends
            exact ⟨rfl, by simp⟩
          · intro stopped
            exact List.prefix_append_right_inj _ |>.mpr (went'.stagesAlong stopped)
          · intro hangs
            obtain ⟨done, last, rfl, hung⟩ := went'.hung hangs
            refine ⟨steps ++ done, last, by simp, ?_⟩
            simpa [provider.stateAfter_append] using hung
      | failed failure =>
          have stopped := went.stagesAlong (by simp)
          refine ⟨steps, stages, went.world_eq, ?_, by simp, fun _ => ?_, by simp⟩
          · exact went.stepsAlong.trans (List.prefix_append _ _)
          · exact stopped.trans ((List.prefix_append _ _).trans (List.prefix_append _ _))
      | abandoned =>
          have stopped := went.stagesAlong (by simp)
          refine ⟨steps, stages, went.world_eq, ?_, by simp, fun _ => ?_, fun _ => went.hung rfl⟩
          · exact went.stepsAlong.trans (List.prefix_append _ _)
          · exact stopped.trans ((List.prefix_append _ _).trans (List.prefix_append _ _))

/-- Two actions in a row of which the first reaches no stage. -/
theorem Follows.bind_plan {action : Action σ α} {next : α → Action σ β} {plan plan' : List Step}
    {path final : List Stage} (first : Follows provider action plan [] [])
    (second : ∀ value, Follows provider (next value) plan' path final) :
    Follows provider (action >>= next) (plan ++ plan') path final := by
  simpa using first.bind second

/-- Two actions in a row of which only the first runs steps. -/
theorem Follows.bind_rest {action : Action σ α} {next : α → Action σ β} {plan : List Step}
    {path final : List Stage} (first : Follows provider action plan [] [])
    (second : ∀ value, Follows provider (next value) [] path final) :
    Follows provider (action >>= next) plan path final := by
  simpa using first.bind_plan second

/-- The final stages stay final if only a value is formed after them. -/
theorem Follows.bind_pure {action : Action σ α} {plan : List Step} {path final : List Stage}
    (first : Follows provider action plan path final) (form : α → β) :
    Follows provider (action >>= fun value => Pure.pure (form value)) plan path final := by
  intro world
  obtain ⟨steps, stages, went⟩ := first world
  rw [bind_apply]
  cases ran : action world with
  | mk ending after =>
      rw [ran] at went
      cases ending with
      | value value =>
          exact ⟨steps, stages, went.world_eq, went.stepsAlong,
            fun _ _ => went.value value rfl, fun h => absurd rfl (h (form value)),
            fun h => by cases h⟩
      | failed failure =>
          exact ⟨steps, stages, went.world_eq, went.stepsAlong, by simp,
            fun _ => went.stagesAlong (by simp), by simp⟩
      | abandoned =>
          exact ⟨steps, stages, went.world_eq, went.stepsAlong, by simp,
            fun _ => went.stagesAlong (by simp), fun _ => went.hung rfl⟩

end Action

namespace Config

variable (config : Config) (toolchain : Toolchain)

/-- The steps up to the build. -/
def buildPlan : List Step :=
  toolchain.provisionSteps config.toolchain.osPackages ++ [config.buildStep toolchain]

/-- The queries, one for each constraint that forbids something. -/
def queryPlan : List Step :=
  config.forbidden.map fun constraint => config.dependencyQuery toolchain constraint.package

/-- The steps of a full run in a mode. -/
def runPlan (mode : VerifyMode) : List Step :=
  config.buildPlan toolchain ++ if mode = .skip then [] else config.queryPlan toolchain

/-- The steps of a verification. -/
def verifyPlan : List Step :=
  toolchain.provisionSteps config.toolchain.osPackages ++ config.queryPlan toolchain

theorem provisionSteps_subset_buildPlan :
    toolchain.provisionSteps config.toolchain.osPackages ⊆ config.buildPlan toolchain :=
  List.subset_append_left _ _

theorem buildStep_mem_buildPlan : config.buildStep toolchain ∈ config.buildPlan toolchain :=
  List.mem_append_right _ (List.mem_singleton_self _)

theorem buildPlan_subset_runPlan (mode : VerifyMode) :
    config.buildPlan toolchain ⊆ config.runPlan toolchain mode :=
  List.subset_append_left _ _

theorem provisionSteps_subset_runPlan (mode : VerifyMode) :
    toolchain.provisionSteps config.toolchain.osPackages ⊆ config.runPlan toolchain mode :=
  List.Subset.trans (config.provisionSteps_subset_buildPlan toolchain)
    (config.buildPlan_subset_runPlan toolchain mode)

theorem queryPlan_subset_runPlan :
    config.queryPlan toolchain ⊆ config.runPlan toolchain .enforce :=
  List.subset_append_right _ _

end Config

namespace VerifyMode

/-- The stages that tell that nothing stands in the way of the install any more. -/
def clearance (mode : VerifyMode) : List Stage := if mode = .skip then [] else [.verified]

end VerifyMode

namespace Pipeline

open SealedBuild.Action

variable (provider : Provider σ) (config : Config) (toolchain : Toolchain)

theorem require_follows (refusal : StepOutput → Failure) (step : Step) :
    Follows provider (require provider refusal step) [step] [] [] := by
  refine (perform_follows provider step).bind_rest fun output => ?_
  split
  · exact pure_follows provider ()
  · exact ofExcept_follows provider _

theorem provision_follows (steps : List Step) :
    Follows provider (provision provider steps) steps [] [] := by
  induction steps with
  | nil => exact pure_follows provider ()
  | cons step rest ih => exact (require_follows provider _ step).bind_plan fun _ => ih

theorem build_follows :
    Follows provider (build provider config toolchain) [config.buildStep toolchain] [] [] :=
  require_follows provider _ _

theorem queries_follows (constraints : List Constraint) :
    Follows provider (queries provider config toolchain constraints)
      (constraints.map fun constraint => config.dependencyQuery toolchain constraint.package)
      [] [] := by
  induction constraints with
  | nil => exact pure_follows provider []
  | cons constraint rest ih =>
      refine (perform_follows provider _).bind_plan fun output => ?_
      exact (ofExcept_follows provider _).bind_plan fun outcome => ih.bind_pure _

theorem verify_follows (sourceRoot : Path) :
    Follows provider (verify provider config toolchain sourceRoot) (config.queryPlan toolchain)
      [] [] := by
  refine (ofExcept_follows provider _).bind_plan fun scanner => ?_
  refine (queries_follows provider config toolchain config.forbidden).bind_rest fun _ => ?_
  exact (onFiles_follows provider _).bind_pure _

/-- What a full run does up to the end of its build. -/
def untilBuilt : Action σ Unit := do
  Action.advance .sandboxReady
  provision provider (toolchain.provisionSteps config.toolchain.osPackages)
  Action.advance .toolchainReady
  build provider config toolchain
  Action.advance .built

/-- What a full run does after its build: it clears the way for the install unless the verification
stands against that. -/
def clear (mode : VerifyMode) (sourceRoot : Path) : Action σ Unit :=
  if mode = .skip then Pure.pure ()
  else do
    let report ← verify provider config toolchain sourceRoot
    if !report.passed ∧ mode = .enforce then Action.ofExcept (.error report.failure)
    else Action.advance .verified

/-- A full run builds and then clears the way for the install. -/
theorem buildInside_eq (mode : VerifyMode) (sourceRoot : Path) :
    buildInside provider config mode toolchain sourceRoot =
      untilBuilt provider config toolchain >>= fun _ =>
        clear provider config toolchain mode sourceRoot := by
  simp only [buildInside, untilBuilt, clear, bind_assoc]

theorem untilBuilt_follows :
    Follows provider (untilBuilt provider config toolchain) (config.buildPlan toolchain)
      [.sandboxReady, .toolchainReady] [.built] := by
  have course := (advance_follows provider .sandboxReady).bind fun _ =>
    (provision_follows provider (toolchain.provisionSteps config.toolchain.osPackages)).bind
      fun _ => (advance_follows provider .toolchainReady).bind
      fun _ => (build_follows provider config toolchain).bind
      fun _ => advance_follows provider .built
  simpa [untilBuilt, Config.buildPlan] using course

theorem clear_follows (mode : VerifyMode) (sourceRoot : Path) :
    Follows provider (clear provider config toolchain mode sourceRoot)
      (if mode = .skip then [] else config.queryPlan toolchain) [] mode.clearance := by
  unfold clear VerifyMode.clearance
  by_cases skipped : mode = .skip
  · rw [if_pos skipped, if_pos skipped, if_pos skipped]
    exact pure_follows provider ()
  · rw [if_neg skipped, if_neg skipped, if_neg skipped]
    refine (verify_follows provider config toolchain sourceRoot).bind_rest fun report => ?_
    split
    · exact fail_follows provider _ _ _ _
    · exact advance_follows provider _

/-- The course of a full run inside the sandbox. -/
theorem buildInside_follows (mode : VerifyMode) (sourceRoot : Path) :
    Follows provider (buildInside provider config mode toolchain sourceRoot)
      (config.runPlan toolchain mode) [.sandboxReady, .toolchainReady, .built]
      mode.clearance := by
  rw [buildInside_eq]
  exact (untilBuilt_follows provider config toolchain).bind fun _ =>
    clear_follows provider config toolchain mode sourceRoot

/-- The course of a verification inside the sandbox. -/
theorem verifyInside_follows (sourceRoot : Path) :
    Follows provider (verifyInside provider config toolchain sourceRoot)
      (config.verifyPlan toolchain) [.sandboxReady, .toolchainReady] [.verified] := by
  have course := (advance_follows provider .sandboxReady).bind fun _ =>
    (provision_follows provider (toolchain.provisionSteps config.toolchain.osPackages)).bind
      fun _ => (advance_follows provider .toolchainReady).bind
      fun _ => (verify_follows provider config toolchain sourceRoot).bind
      fun report => (advance_follows provider .verified).bind_pure fun _ => report
  simpa [verifyInside, Config.verifyPlan] using course

end Pipeline

end SealedBuild
