import SealedBuild.Proofs.Pipeline.Call
import SealedBuild.Proofs.Pipeline.Verdict

/-!
# Assignments

Each step of a plan has a purpose, and the purpose decides which outputs let the plan go on. A plan
is carried out step by step until all of it is done or one step stops it: a step that hangs, that
cannot be run, or whose output is an objection.

Main statements: `Action.Obeys.bind`, by which plans are put together as actions are, and
`untilBuilt_obeys` and `verifyIn_obeys`, the plans of a build and of a verification.
-/

namespace SealedBuild

variable {σ α β : Type} {provider : Provider σ} {config : Config} {toolchain : Toolchain}
  {world : World σ} {state : σ}

namespace Ending

/-- An ending, and if it is a value, the one that comes of it. -/
def andThen (ending : Ending α) (next : α → Ending β) : Ending β :=
  match ending with
  | .value result => next result
  | .failed failure => .failed failure
  | .abandoned => .abandoned

theorem map_eq_andThen (ending : Ending α) (form : α → β) :
    ending.map form = ending.andThen fun result => .value (form result) := by
  cases ending <;> rfl

end Ending

/-- What a step of a plan is for. -/
inductive Purpose
  | provisioning
  | building (package : String)
  /-- The step asks whether a package is present. -/
  | asking (package : String)
  deriving DecidableEq

/-- A step with its purpose. -/
structure Assignment where
  step : Step
  purpose : Purpose
  deriving DecidableEq

/-- The failure that a result is, if it is one. -/
def failure? : Except Failure α → Option Failure
  | .ok _ => none
  | .error failure => some failure

namespace Assignment

/-- The failure that an output amounts to, unless the plan goes on after it. Of a query it does not
matter how it has ended, as long as its output can be understood. -/
def objection? (assignment : Assignment) (output : StepOutput) : Option Failure :=
  match assignment.purpose with
  | .provisioning =>
    if output.success then none else some (.toolchainInstall assignment.step.display output.code)
  | .building package => if output.success then none else some (.build package output.code)
  | .asking package => failure? (interpretQuery package output)

/-- The plan goes on after a reply. -/
def Passes (assignment : Assignment) (reply : Reply Response) : Prop :=
  ∃ output, reply.answer = .finished output ∧ assignment.objection? output = none

/-- A plan stops at an answer, and an action that carries it out ends accordingly. -/
inductive Stops (assignment : Assignment) : Response → Ending α → Prop
  | hung : Stops assignment .hung .abandoned
  | failed (failure : Failure) : Stops assignment (.failed failure) (.failed failure)
  | objected {output : StepOutput} {failure : Failure}
      (objection : assignment.objection? output = some failure) :
      Stops assignment (.finished output) (.failed failure)

theorem Stops.not_value {assignment : Assignment} {answer : Response} {ending : Ending α}
    (stops : assignment.Stops answer ending) {value : α} : ending ≠ .value value := by
  cases stops <;> simp

/-- What would follow an action makes no difference if its plan stops. -/
theorem Stops.andThen {assignment : Assignment} {answer : Response} {ending : Ending α}
    (next : α → Ending β) (stops : assignment.Stops answer ending) :
    assignment.Stops answer (ending.andThen next) := by
  cases stops with
  | hung => exact .hung
  | failed failure => exact .failed failure
  | objected objection => exact .objected objection

end Assignment

/-- Steps with their purposes, in the order in which they are to be executed. -/
abbrev Plan := List Assignment

namespace Plan

/-- The steps of a plan. -/
def steps (plan : Plan) : List Step := plan.map (·.step)

@[simp] theorem steps_nil : steps [] = [] := rfl

@[simp] theorem steps_append (first second : Plan) :
    steps (first ++ second) = steps first ++ steps second := List.map_append

@[simp] theorem steps_singleton (assignment : Assignment) :
    steps [assignment] = [assignment.step] := rfl

@[simp] theorem length_steps (plan : Plan) : (steps plan).length = plan.length :=
  List.length_map ..

/-- All steps of a plan are executed from a state on, and the plan goes on after each of them. -/
def Passed (provider : Provider σ) (plan : Plan) (state : σ) : Prop :=
  List.Forall₂ Assignment.Passes plan (provider.replies (steps plan) state)

theorem passed_nil : Passed provider [] state := .nil

theorem passed_cons {assignment : Assignment} {rest : Plan} :
    Passed provider (assignment :: rest) state ↔
      assignment.Passes (provider.run assignment.step state).1 ∧
        Passed provider rest (provider.run assignment.step state).2 :=
  List.forall₂_cons

theorem passed_append {first second : Plan} : Passed provider (first ++ second) state ↔
    Passed provider first state ∧
      Passed provider second (provider.stateAfter (steps first) state) := by
  induction first generalizing state with
  | nil => simp [passed_nil]
  | cons assignment rest ih =>
      rw [List.cons_append, passed_cons, passed_cons, ih, and_assoc]
      rfl

/-- How far a plan is carried out from a state on, and how an action that carries it out ends: all
steps are executed and the action ends with a value, or the steps up to one that stops the plan. -/
inductive Progress (provider : Provider σ) (plan : Plan) (state : σ) :
    List Step → Ending α → Prop
  | completed (value : α) (passed : Passed provider plan state) :
      Progress provider plan state (steps plan) (.value value)
  | stopped {done rest : Plan} {last : Assignment} {ending : Ending α}
      (split : plan = done ++ last :: rest) (passed : Passed provider done state)
      (stops : last.Stops
        (provider.run last.step (provider.stateAfter (steps done) state)).1.answer ending) :
      Progress provider plan state (steps done ++ [last.step]) ending

/-- Progress along a plan is progress along a longer one, after a plan that has been passed. -/
theorem Progress.after {first second : Plan} {executed : List Step} {ending : Ending α}
    (passed : Passed provider first state)
    (progress : Progress provider second (provider.stateAfter (steps first) state) executed
      ending) :
    Progress provider (first ++ second) state (steps first ++ executed) ending := by
  cases progress with
  | completed value passed' =>
      rw [← steps_append]
      exact .completed value (passed_append.mpr ⟨passed, passed'⟩)
  | @stopped done rest last ending split passed' stops =>
      have split' : first ++ second = (first ++ done) ++ last :: rest := by
        rw [split, List.append_assoc]
      rw [← List.append_assoc, ← steps_append]
      refine .stopped split' (passed_append.mpr ⟨passed, passed'⟩) ?_
      rw [steps_append, provider.stateAfter_append]
      exact stops

end Plan

namespace Action

/-- An action carries out a plan: it executes its steps in order, and no more after one that stops
the plan. -/
def Obeys (provider : Provider σ) (action : Action σ α) (plan : Plan) : Prop :=
  ∀ world, ∃ executed stages, (action world).2 = (world.ran provider executed).reached stages ∧
    Plan.Progress provider plan world.sandbox executed (action world).1

/-- An action that executes no step and ends with a value carries out the empty plan. -/
theorem obeys_nil {action : Action σ α}
    (idle : ∀ world, ∃ value stages, action world = (.value value, world.reached stages)) :
    Obeys provider action [] := by
  intro world
  obtain ⟨value, stages, action_eq⟩ := idle world
  rw [action_eq]
  exact ⟨[], stages, by rw [World.ran_nil], .completed value Plan.passed_nil⟩

theorem pure_obeys (value : α) : Obeys provider (Pure.pure value) [] :=
  obeys_nil fun _ => ⟨value, [], rfl⟩

theorem advance_obeys (stage : Stage) : Obeys provider (advance stage) [] :=
  obeys_nil fun _ => ⟨(), [stage], rfl⟩

theorem onFiles_obeys (read : FileSystem → α) : Obeys provider (onFiles read) [] :=
  obeys_nil fun world => ⟨read world.files, [], rfl⟩

/-- If a plan stops, nothing is done of what would follow. -/
theorem bind_of_stops {action : Action σ α} (next : α → Action σ β) {assignment : Assignment}
    {answer : Response} (stops : assignment.Stops answer (action world).1) :
    ((action >>= next) world).2 = (action world).2 ∧
      assignment.Stops answer ((action >>= next) world).1 := by
  rw [bind_apply]
  rcases ran : action world with ⟨ending, after⟩
  rw [ran] at stops
  cases stops with
  | hung => exact ⟨rfl, .hung⟩
  | failed failure => exact ⟨rfl, .failed failure⟩
  | objected objection => exact ⟨rfl, .objected objection⟩

/-- Two actions in a row carry out their plans in a row. -/
theorem Obeys.bind {action : Action σ α} {next : α → Action σ β} {first second : Plan}
    (begins : Obeys provider action first) (goesOn : ∀ value, Obeys provider (next value) second) :
    Obeys provider (action >>= next) (first ++ second) := by
  intro world
  obtain ⟨executed, stages, world_eq, progress⟩ := begins world
  generalize ended : (action world).1 = ending at progress
  cases progress with
  | completed value passed =>
      have action_eq : action world =
          (.value value, (world.ran provider (Plan.steps first)).reached stages) :=
        Prod.ext ended world_eq
      obtain ⟨executed', stages', world_eq', progress'⟩ :=
        goesOn value ((world.ran provider (Plan.steps first)).reached stages)
      rw [bind_of_value action_eq]
      refine ⟨Plan.steps first ++ executed', stages ++ stages', ?_, progress'.after passed⟩
      rw [world_eq', World.ran_reached, World.ran_append, World.reached_append]
  | @stopped done rest last ending split passed stops =>
      rw [← ended] at stops
      obtain ⟨same, stops'⟩ := bind_of_stops next stops
      have split' : first ++ second = done ++ last :: (rest ++ second) := by
        rw [split, List.append_assoc, List.cons_append]
      exact ⟨_, stages, same.trans world_eq, .stopped split' passed stops'⟩

/-- An action that only forms a value afterwards carries out the same plan. -/
theorem Obeys.bind_idle {action : Action σ α} {next : α → Action σ β} {plan : Plan}
    (begins : Obeys provider action plan) (idle : ∀ value, Obeys provider (next value) []) :
    Obeys provider (action >>= next) plan := by
  simpa using begins.bind idle

/-- An action that begins by executing nothing carries out the plan of what follows. -/
theorem Obeys.idle_bind {action : Action σ α} {next : α → Action σ β} {plan : Plan}
    (idle : Obeys provider action []) (goesOn : ∀ value, Obeys provider (next value) plan) :
    Obeys provider (action >>= next) plan :=
  idle.bind goesOn

/-- Failing and ending with a value both leave the world as it is. -/
theorem ofExcept_world (result : Except Failure α) (world : World σ) :
    (ofExcept result world).2 = world := by
  cases result <;> rfl

/-- Executing one step and reading its output carries out one assignment, if what is refused when
the output is read is what the assignment objects to. -/
theorem perform_obeys (assignment : Assignment) (read : StepOutput → Except Failure α)
    (objects : ∀ output, assignment.objection? output = failure? (read output)) :
    Obeys provider (provider.perform assignment.step >>= fun output => ofExcept (read output))
      [assignment] := by
  intro world
  have ran := perform_world provider assignment.step world
  have ended := perform_ending provider assignment.step world
  refine ⟨[assignment.step], [], ?_, ?_⟩
  · rw [bind_apply, World.reached_nil, ← ran]
    rcases provider.perform assignment.step world with ⟨ending, after⟩
    cases ending with
    | value output => exact ofExcept_world (read output) after
    | failed failure => rfl
    | abandoned => rfl
  · have stop {ending : Ending α} (stops : assignment.Stops
        (provider.run assignment.step world.sandbox).1.answer ending) :
        Plan.Progress provider [assignment] world.sandbox [assignment.step] ending := by
      have split : [assignment] = [] ++ assignment :: [] := rfl
      exact .stopped split Plan.passed_nil stops
    rcases performed : provider.perform assignment.step world with ⟨ending, after⟩
    rw [performed] at ended
    cases answer : (provider.run assignment.step world.sandbox).1.answer with
    | hung =>
        obtain rfl : ending = .abandoned := by rw [answer] at ended; exact ended
        rw [bind_apply, performed]
        exact stop (answer ▸ .hung)
    | failed failure =>
        obtain rfl : ending = .failed failure := by rw [answer] at ended; exact ended
        rw [bind_apply, performed]
        exact stop (answer ▸ .failed failure)
    | finished output =>
        obtain rfl : ending = .value output := by rw [answer] at ended; exact ended
        rw [bind_of_value performed]
        have objection := objects output
        cases result : read output with
        | error failure =>
            rw [result] at objection
            exact stop (answer ▸ .objected objection)
        | ok value =>
            rw [result] at objection
            exact .completed value (Plan.passed_cons.mpr
              ⟨⟨output, answer, objection⟩, Plan.passed_nil⟩)

end Action

namespace Config

variable (config : Config) (toolchain : Toolchain)

/-- The steps before the build. -/
def provisioning : Plan :=
  (toolchain.provisionSteps config.toolchain.osPackages).map fun step => ⟨step, .provisioning⟩

/-- The build. -/
def building : Assignment := ⟨config.buildStep toolchain, .building config.build.package⟩

/-- The queries, one for each constraint that forbids something. -/
def questions : Plan :=
  config.forbidden.map fun constraint =>
    ⟨config.dependencyQuery toolchain constraint.package, .asking constraint.package⟩

/-- The queries that are planned. -/
def inspection (mode : VerifyMode) : Plan :=
  if mode = .skip then [] else config.questions toolchain

/-- The queries that can be asked: none if the patterns of the scan cannot be compiled. -/
def attainable (mode : VerifyMode) : Plan :=
  match Scanner.ofSettings config.verify with
  | .ok _ => config.inspection toolchain mode
  | .error _ => []

theorem attainable_of_ok {scanner : Scanner} (mode : VerifyMode)
    (compiled : Scanner.ofSettings config.verify = .ok scanner) :
    config.attainable toolchain mode = config.inspection toolchain mode := by
  rw [attainable, compiled]

theorem attainable_of_error {failure : Failure} (mode : VerifyMode)
    (refused : Scanner.ofSettings config.verify = .error failure) :
    config.attainable toolchain mode = [] := by
  rw [attainable, refused]

/-- Either all queries that are planned can be asked, or none. -/
theorem attainable_cases (mode : VerifyMode) :
    config.attainable toolchain mode = config.inspection toolchain mode ∨
      config.attainable toolchain mode = [] := by
  cases compiled : Scanner.ofSettings config.verify with
  | ok scanner => exact Or.inl (config.attainable_of_ok toolchain mode compiled)
  | error failure => exact Or.inr (config.attainable_of_error toolchain mode compiled)

theorem attainable_prefix (mode : VerifyMode) :
    config.attainable toolchain mode <+: config.inspection toolchain mode := by
  rcases config.attainable_cases toolchain mode with attains | attains
  · exact ⟨[], by rw [List.append_nil, attains]⟩
  · rw [attains]
    exact List.nil_prefix

@[simp] theorem steps_provisioning : (config.provisioning toolchain).steps =
    toolchain.provisionSteps config.toolchain.osPackages := by
  rw [provisioning, Plan.steps, List.map_map]
  exact List.map_id _

@[simp] theorem steps_questions :
    (config.questions toolchain).steps = config.queryPlan toolchain := by
  simp [questions, queryPlan, Plan.steps]

end Config

namespace Pipeline

open SealedBuild.Action

/-- A step that must succeed is an assignment that objects to every other end. -/
theorem require_obeys (assignment : Assignment) (refusal : StepOutput → Failure)
    (objects : ∀ output, assignment.objection? output =
      if output.success then none else some (refusal output)) :
    Obeys provider (require provider refusal assignment.step) [assignment] := by
  have require_eq : require provider refusal assignment.step =
      provider.perform assignment.step >>= fun output =>
        ofExcept (if output.success then .ok () else .error (refusal output)) := by
    unfold require
    congr 1
    funext output
    split <;> rfl
  rw [require_eq]
  refine perform_obeys assignment _ fun output => ?_
  rw [objects output]
  cases output.success <;> rfl

theorem provision_obeys (steps : List Step) :
    Obeys provider (provision provider steps) (steps.map fun step => ⟨step, .provisioning⟩) := by
  induction steps with
  | nil => exact pure_obeys ()
  | cons step rest ih =>
      have begins : Obeys provider (require provider _ step) _ :=
        require_obeys ⟨step, .provisioning⟩ _ fun output => rfl
      exact begins.bind fun _ => ih

theorem build_obeys :
    Obeys provider (build provider config toolchain) [config.building toolchain] :=
  require_obeys (config.building toolchain) _ fun _ => rfl

theorem queries_obeys (constraints : List Constraint) :
    Obeys provider (queries provider config toolchain constraints)
      (constraints.map fun constraint =>
        ⟨config.dependencyQuery toolchain constraint.package, .asking constraint.package⟩) := by
  induction constraints with
  | nil => exact pure_obeys []
  | cons constraint rest ih =>
      have asks : Obeys provider
          (provider.perform (config.dependencyQuery toolchain constraint.package) >>= fun output =>
            ofExcept (interpretQuery constraint.package output)) _ :=
        perform_obeys ⟨_, .asking constraint.package⟩ (interpretQuery constraint.package)
          fun output => rfl
      have queries_eq : queries provider config toolchain (constraint :: rest) =
          (provider.perform (config.dependencyQuery toolchain constraint.package) >>= fun output =>
            ofExcept (interpretQuery constraint.package output)) >>= fun outcome =>
              queries provider config toolchain rest >>= fun more =>
                Pure.pure (⟨constraint.package, constraint.rationale, outcome⟩ :: more) := by
        rw [queries, bind_assoc]
      rw [queries_eq]
      exact asks.bind fun outcome => ih.bind_idle fun more => pure_obeys _

/-- A verification carries out the queries if the patterns of the scan can be compiled. -/
theorem verifyIn_obeys {languages : Languages} {scanner : TokenScanner languages}
    (compiled : TokenScanner.ofSettings languages config.verify = .ok scanner)
    (sourceRoot : Path) :
    Obeys provider (verifyIn languages provider config toolchain sourceRoot)
      (config.questions toolchain) := by
  have compiles : Obeys provider (ofExcept (TokenScanner.ofSettings languages config.verify)) [] :=
    obeys_nil fun world => ⟨scanner, [], by rw [compiled]; rfl⟩
  refine compiles.idle_bind fun scanner => ?_
  refine (queries_obeys config.forbidden).bind_idle fun checks => ?_
  exact (onFiles_obeys _).bind_idle fun tokens => pure_obeys _

/-- A verification does nothing if the patterns of the scan cannot be compiled. -/
theorem verify_of_error {failure : Failure}
    (refused : TokenScanner.ofSettings .standard config.verify = .error failure)
    (sourceRoot : Path) :
    verify provider config toolchain sourceRoot world = (.failed failure, world) := by
  rw [verify, verifyIn, bind_apply, refused]
  rfl

/-- A full run carries out the steps before the build and the build. -/
theorem untilBuilt_obeys : Obeys provider (untilBuilt provider config toolchain)
    (config.provisioning toolchain ++ [config.building toolchain]) := by
  refine (advance_obeys _).idle_bind fun _ => ?_
  refine (provision_obeys _).bind fun _ => ?_
  refine (advance_obeys _).idle_bind fun _ => ?_
  exact build_obeys.bind_idle fun _ => advance_obeys _

end Pipeline

end SealedBuild
