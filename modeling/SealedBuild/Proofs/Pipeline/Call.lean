import SealedBuild.Proofs.Pipeline.Exit

/-!
# Calls of a pipeline

A pipeline can be called any number of times, for a full run or for a verification. A call of a
pipeline that has ended is refused and changes nothing. Any other call takes one of the six exits,
and then reaches a last stage unless it was given up. A full run comes to its install in at most one
world, and from there on the install alone decides.

Main statements: `Call.perform_of_terminal`, `run_exit` and `verifyOnly_exit`, which say what a call
does, and `installBegins_iff`, `run_of_installBegins` and `run_of_not_installBegins`, which say when
a full run comes to its install and what happens then and otherwise.
-/

namespace SealedBuild

variable {σ α β : Type} {provider : Provider σ} {world begun : World σ}

namespace Ending

/-- The ending with a function applied to its value. -/
def map (form : α → β) : Ending α → Ending β
  | .value result => .value (form result)
  | .failed failure => .failed failure
  | .abandoned => .abandoned

/-- The stages that an ending leads to: a call that was not given up is done or has failed. -/
def finale : Ending α → List Stage
  | .value _ => [.done]
  | .failed failure => [.failed failure.message]
  | .abandoned => []

end Ending

namespace World

/-- The world of a new pipeline in a mode. -/
def fresh (config : Config) (mode : VerifyMode) (files : FileSystem) (sandbox : σ) : World σ :=
  ⟨(Pipeline.new config).withMode mode, files, sandbox, []⟩

end World

namespace Action

/-- The action that ends with the world as it is. -/
def observe : Action σ (World σ) := fun world => (.value world, world)

/-- An action that closes a call once the sandbox has been torn down: it comes to an end, has
nothing to do with the sandbox, and reaches some stages if it ends with a value. -/
structure Closes (action : Action σ α) (stages : List Stage) : Prop where
  ends : ∀ world, (action world).1 ≠ .abandoned
  apart : ∀ (world : World σ) sandbox, action { world with sandbox } =
    ((action world).1, { (action world).2 with sandbox })
  events_eq : ∀ world, (action world).2.events = world.events
  value : ∀ world value, (action world).1 = .value value →
    (action world).2.pipeline = (world.reached stages).pipeline
  failed : ∀ world failure, (action world).1 = .failed failure →
    (action world).2.pipeline = world.pipeline

theorem pure_closes (value : α) : Closes (Pure.pure value : Action σ α) [] := by
  constructor
  · intro world
    simp [pure_apply]
  · exact fun world sandbox => rfl
  · exact fun world => rfl
  · exact fun world _ _ => rfl
  · exact fun world _ _ => rfl

/-- An action that closes a call leaves the state of the provider alone. -/
theorem Closes.sandbox_eq {action : Action σ α} {stages : List Stage}
    (closes : Closes action stages) (world : World σ) :
    (action world).2.sandbox = world.sandbox :=
  congrArg (fun result => result.2.sandbox) (closes.apart world world.sandbox)

end Action

namespace Pipeline

/-- An install does not touch the sandbox and reaches its stage if it succeeds. -/
theorem install_closes (config : Config) (request : Request) :
    Action.Closes (install config request : Action σ Artifact) [.installed] := by
  constructor
  · intro world
    unfold install
    split <;> simp
  · intro world sandbox
    unfold install
    dsimp only
    split <;> rfl
  · intro world
    unfold install
    split <;> rfl
  · intro world value
    unfold install
    split
    · exact fun _ => rfl
    · exact fun ends => by cases ends
  · intro world failure
    unfold install
    split
    · exact fun ends => by cases ends
    · exact fun _ => rfl

theorem finish_apply (action : Action σ α) (world : World σ) :
    finish action world =
      ((action world).1, (action world).2.reached (action world).1.finale) := by
  unfold finish
  split <;> simp_all [Ending.finale, World.reached]

theorem unlessFinished_of_terminal (action : Pipeline → Action σ α)
    (ended : world.pipeline.stage.isTerminal = true) :
    unlessFinished action world =
      (.failed (.config "pipeline has already finished"), world) := by
  rw [unlessFinished, if_pos ended]

theorem unlessFinished_of_open (action : Pipeline → Action σ α)
    (running : world.pipeline.stage.isTerminal = false) :
    unlessFinished action world = finish (action world.pipeline) world := by
  rw [unlessFinished, if_neg (by simp [running])]

section Fresh

variable {config : Config} {request : Request} {mode : VerifyMode} {files : FileSystem}
  {sandbox : σ}

/-- A new pipeline has not ended. -/
theorem run_fresh : run provider request (World.fresh config mode files sandbox) =
    finish (execute provider config mode request) (World.fresh config mode files sandbox) :=
  unlessFinished_of_open (fun pipeline => execute provider pipeline.config pipeline.mode request)
    (Eq.refl false)

theorem verifyOnly_fresh : verifyOnly provider request (World.fresh config mode files sandbox) =
    finish (executeVerify provider config request) (World.fresh config mode files sandbox) :=
  unlessFinished_of_open (fun pipeline => executeVerify provider pipeline.config request)
    (Eq.refl false)

end Fresh

/-- A full run of a pipeline that has not ended takes one of the six exits. -/
theorem run_exit (provider : Provider σ) (request : Request)
    (running : world.pipeline.stage.isTerminal = false) :
    ∃ result : Ending Artifact × World σ,
      run provider request world = (result.1, result.2.reached result.1.finale) ∧
      Exit provider world.pipeline.config request
        (fun toolchain => buildInside provider world.pipeline.config world.pipeline.mode toolchain
          request.sourceRoot)
        (fun _ => install world.pipeline.config request)
        (fun toolchain => world.pipeline.config.runPlan toolchain world.pipeline.mode)
        [.sandboxReady, .toolchainReady, .built] world.pipeline.mode.clearance world result := by
  refine ⟨_, (unlessFinished_of_open _ running).trans (finish_apply _ world), ?_⟩
  exact withToolchain_exit
    (fun toolchain => buildInside_follows provider _ toolchain _ request.sourceRoot) _ world

/-- A verification of a pipeline that has not ended takes one of the six exits. -/
theorem verifyOnly_exit (provider : Provider σ) (request : Request)
    (running : world.pipeline.stage.isTerminal = false) :
    ∃ result : Ending Report × World σ,
      verifyOnly provider request world = (result.1, result.2.reached result.1.finale) ∧
      Exit provider world.pipeline.config request
        (fun toolchain => verifyInside provider world.pipeline.config toolchain request.sourceRoot)
        Pure.pure (fun toolchain => world.pipeline.config.verifyPlan toolchain)
        [.sandboxReady, .toolchainReady] [.verified] world result := by
  refine ⟨_, (unlessFinished_of_open _ running).trans (finish_apply _ world), ?_⟩
  exact withToolchain_exit
    (fun toolchain => verifyInside_follows provider _ toolchain request.sourceRoot) _ world

section Install

variable {request : Request}

/-- A full run comes to the install, in a world that is called `begun`. -/
def InstallBegins (provider : Provider σ) (request : Request) (world begun : World σ) : Prop :=
  world.pipeline.stage.isTerminal = false ∧
    (buildThen provider world.pipeline.config world.pipeline.mode request Action.observe world).1 =
      .value begun

/-- The world in which the install of a full run begins. -/
def beforeInstall (provider : Provider σ) (request : Request) (world : World σ)
    (toolchain : Toolchain) : World σ :=
  provider.tearDown
    (((world.inSession provider world.pipeline.config request).ran provider
      (world.pipeline.config.runPlan toolchain world.pipeline.mode)).reached
      ([.sandboxReady, .toolchainReady, .built] ++ world.pipeline.mode.clearance))

/-- A full run comes to the install if the toolchain is loaded, a sandbox starts, and everything in
it ends with a value. -/
theorem installBegins_iff : InstallBegins provider request world begun ↔
    world.pipeline.stage.isTerminal = false ∧ ∃ toolchain,
      Ready provider world.pipeline.config request world toolchain ∧
      (buildInside provider world.pipeline.config world.pipeline.mode toolchain request.sourceRoot
        (world.inSession provider world.pipeline.config request)).1 = .value () ∧
      begun = beforeInstall provider request world toolchain := by
  unfold InstallBegins
  refine and_congr_right fun running => ?_
  have taken : Exit provider world.pipeline.config request _ (fun _ => Action.observe) _ _ _ world
      (buildThen provider world.pipeline.config world.pipeline.mode request Action.observe world) :=
    withToolchain_exit (fun toolchain => buildInside_follows provider world.pipeline.config
      toolchain world.pipeline.mode request.sourceRoot) _ world
  constructor
  · intro comes
    generalize buildThen provider world.pipeline.config world.pipeline.mode request Action.observe
      world = result at taken comes
    cases taken with
    | unloaded refused => simp at comes
    | unstarted loaded refused => simp at comes
    | stuck loaded hangs => simp at comes
    | givenUp ready ending => simp at comes
    | broken ready ending => simp at comes
    | completed ready ending afterwards_eq =>
        subst afterwards_eq
        exact ⟨_, ready, ending, (Ending.value.inj comes).symm⟩
  · rintro ⟨toolchain, ready, ending, rfl⟩
    rw [taken.eq_of_value ready ending]
    rfl

/-- Before the install of a new pipeline all stages have been reached that its mode asks for. -/
theorem history_of_installBegins {config : Config} {mode : VerifyMode} {files : FileSystem}
    {sandbox : σ}
    (comes : InstallBegins provider request (World.fresh config mode files sandbox) begun) :
    begun.pipeline.history =
      [.start, .validated, .sandboxReady, .toolchainReady, .built] ++ mode.clearance := by
  obtain ⟨-, toolchain, -, -, rfl⟩ := installBegins_iff.mp comes
  rw [beforeInstall, Provider.tearDown_pipeline, World.reached_history]
  rfl

/-- Once a full run has come to the install, the install alone decides how it ends. -/
theorem run_of_installBegins (comes : InstallBegins provider request world begun) :
    let installed := install world.pipeline.config request begun
    run provider request world =
      (installed.1, (provider.letGo [] installed.2).reached installed.1.finale) := by
  obtain ⟨running, toolchain, ready, ending, rfl⟩ := installBegins_iff.mp comes
  obtain ⟨result, run_eq, taken⟩ := run_exit provider request running
  rw [run_eq, taken.eq_of_value ready ending]
  rfl

/-- As long as a full run does not come to the install, it makes no difference what stands in the
place of the install. -/
theorem run_of_not_installBegins (running : world.pipeline.stage.isTerminal = false)
    (stops : ¬ ∃ begun, InstallBegins provider request world begun) (instead : Action σ Artifact) :
    run provider request world =
      finish (buildThen provider world.pipeline.config world.pipeline.mode request instead)
        world := by
  have same : buildThen provider world.pipeline.config world.pipeline.mode request
      (install world.pipeline.config request) world =
      buildThen provider world.pipeline.config world.pipeline.mode request instead world := by
    refine withToolchain_of_no_value (fun toolchain value ready ending => stops ?_) _ _
    exact ⟨_, installBegins_iff.mpr ⟨running, toolchain, ready, ending, rfl⟩⟩
  rw [run, unlessFinished_of_open _ running, execute, finish_apply, finish_apply, same]

end Install

end Pipeline

/-- A call of a pipeline. -/
inductive Call
  | run (request : Request)
  | verifyOnly (request : Request)
  deriving DecidableEq

namespace Call

/-- The request of a call. -/
def request : Call → Request
  | .run request | .verifyOnly request => request

/-- The stages on which a call may still fail. -/
def path (mode : VerifyMode) : Call → List Stage
  | .run _ => [.validated, .sandboxReady, .toolchainReady, .built] ++ mode.clearance
  | .verifyOnly _ => [.validated, .sandboxReady, .toolchainReady]

/-- The stage after which a call cannot fail any more. -/
def final : Call → List Stage
  | .run _ => [.installed]
  | .verifyOnly _ => [.verified]

/-- Calls the pipeline. A full run gives an artifact and a verification gives a report. -/
def perform (provider : Provider σ) (world : World σ) :
    Call → Ending (Artifact ⊕ Report) × World σ
  | .run request =>
    ((Pipeline.run provider request world).1.map .inl, (Pipeline.run provider request world).2)
  | .verifyOnly request =>
    ((Pipeline.verifyOnly provider request world).1.map .inr,
      (Pipeline.verifyOnly provider request world).2)

/-- A call of a pipeline that has ended is refused and changes nothing. -/
theorem perform_of_terminal (call : Call) (ended : world.pipeline.stage.isTerminal = true) :
    call.perform provider world =
      (.failed (.config "pipeline has already finished"), world) := by
  cases call with
  | run request =>
      rw [perform, Pipeline.run, Pipeline.unlessFinished_of_terminal _ ended]
      rfl
  | verifyOnly request =>
      rw [perform, Pipeline.verifyOnly, Pipeline.unlessFinished_of_terminal _ ended]
      rfl

end Call

/-- The worlds that calls of one pipeline lead to. In between, others may change the files and the
state of the provider. -/
inductive Reachable (provider : Provider σ) (config : Config) (mode : VerifyMode) :
    World σ → Prop
  | fresh (files : FileSystem) (sandbox : σ) :
      Reachable provider config mode (.fresh config mode files sandbox)
  | call {world : World σ} (call : Call) (before : Reachable provider config mode world) :
      Reachable provider config mode (call.perform provider world).2
  | elsewhere {world : World σ} (files : FileSystem) (sandbox : σ)
      (before : Reachable provider config mode world) :
      Reachable provider config mode { world with files, sandbox }

/-- A provider without a state. It writes nothing when a sandbox starts or ends, and replies to
every step in a fixed way. -/
def Provider.scripted (reply : Step → Reply Response) : Provider Unit where
  create _ state := (⟨[], .started⟩, state)
  run step state := (reply step, state)
  cleanup state := (⟨[], none⟩, state)
  drop state := (⟨[], ()⟩, state)

theorem Provider.replies_scripted (reply : Step → Reply Response) (steps : List Step)
    (state : Unit) : (scripted reply).replies steps state = steps.map reply := by
  induction steps with
  | nil => rfl
  | cons step rest ih => exact congrArg _ ih

namespace Sample

/-- A request with two small trees. -/
def request : Request := ⟨⟨"/source"⟩, ⟨"/target"⟩⟩

/-- The two trees: a pinned toolchain, and the directory that the binary goes to. -/
def files : FileSystem :=
  (FileSystem.bare []).applyAll
    [.file ⟨"/source/codex-rs/rust-toolchain.toml"⟩ 0o644
        "[toolchain]\nchannel = \"1.90.0\"\n".toUTF8.toList,
      .directory ⟨"/target/mooreCube/bin/codex"⟩]

/-- A provider whose steps all succeed and whose build writes the binary. -/
def builder : Provider Unit :=
  .scripted fun step =>
    ⟨if step.program = "cargo" then
        [.file ⟨"/source/codex-rs/target/release/codex"⟩ 0o755 [127, 69, 76, 70]]
      else [],
      .finished ⟨some 0, "", ""⟩⟩

/-- A provider whose build fails. -/
def breaker : Provider Unit :=
  .scripted fun step => ⟨[], .finished ⟨some (if "build" ∈ step.args then 101 else 0), "", ""⟩⟩

/-- A new pipeline that does not verify what it builds. -/
def start : World Unit := .fresh {} .skip files ()

/-- What the pipeline installs. -/
def artifact : Artifact :=
  ⟨⟨"/source/codex-rs/target/release/codex"⟩, ⟨"/target/mooreCube/bin/codex/codex"⟩, 0o755⟩

theorem run_value : (Pipeline.run builder request start).1 = .value artifact := by
  decide +kernel

end Sample

end SealedBuild
