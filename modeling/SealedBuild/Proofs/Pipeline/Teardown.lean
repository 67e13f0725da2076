import SealedBuild.Proofs.Pipeline.Call

/-!
# Teardowns make no difference

Two providers that start sandboxes, run steps and write alike may still tear down differently: a
cleanup may succeed with one of them and fail with the other, and leave the provider in another
state. No action inside a sandbox depends on that, and neither does what is done after it.

Main statement: `Call.perform_apart`, by which a call ends alike with both providers and leaves the
same world but for the state of the provider.
-/

namespace SealedBuild

variable {σ α β : Type} {provider other : Provider σ} {world : World σ}

/-- Two providers differ only in whether a teardown succeeds and in the state that it leaves. -/
structure SameButTeardown (provider other : Provider σ) : Prop where
  create_eq : other.create = provider.create
  run_eq : other.run = provider.run
  cleanup_writes : ∀ state, (other.cleanup state).1.writes = (provider.cleanup state).1.writes
  drop_writes : ∀ state, (other.drop state).1.writes = (provider.drop state).1.writes
  close_writes : ∀ state, (other.drop (other.cleanup state).2).1.writes =
    (provider.drop (provider.cleanup state).2).1.writes

namespace SameButTeardown

theorem start_eq (same : SameButTeardown provider other) (session : Session) :
    other.start session = provider.start session := by
  funext world
  simp only [Provider.start, same.create_eq]

theorem perform_eq (same : SameButTeardown provider other) (step : Step) :
    other.perform step = provider.perform step := by
  funext world
  simp only [Provider.perform, same.run_eq]

theorem require_eq (same : SameButTeardown provider other) (refusal : StepOutput → Failure)
    (step : Step) :
    Pipeline.require other refusal step = Pipeline.require provider refusal step := by
  simp only [Pipeline.require, same.perform_eq]

theorem provision_eq (same : SameButTeardown provider other) (steps : List Step) :
    Pipeline.provision other steps = Pipeline.provision provider steps := by
  induction steps with
  | nil => rfl
  | cons step rest ih => simp only [Pipeline.provision, same.require_eq, ih]

theorem queries_eq (same : SameButTeardown provider other) (config : Config)
    (toolchain : Toolchain) (constraints : List Constraint) :
    Pipeline.queries other config toolchain constraints =
      Pipeline.queries provider config toolchain constraints := by
  induction constraints with
  | nil => rfl
  | cons constraint rest ih => simp only [Pipeline.queries, same.perform_eq, ih]

theorem verify_eq (same : SameButTeardown provider other) (config : Config)
    (toolchain : Toolchain) (sourceRoot : Path) :
    Pipeline.verify other config toolchain sourceRoot =
      Pipeline.verify provider config toolchain sourceRoot := by
  simp only [Pipeline.verify, Pipeline.verifyIn, same.queries_eq]

/-- The inside of a full run is the same with both providers. -/
theorem buildInside_eq (same : SameButTeardown provider other) (config : Config)
    (mode : VerifyMode) (toolchain : Toolchain) (sourceRoot : Path) :
    Pipeline.buildInside other config mode toolchain sourceRoot =
      Pipeline.buildInside provider config mode toolchain sourceRoot := by
  simp only [Pipeline.buildInside, Pipeline.build, same.provision_eq, same.require_eq,
    same.verify_eq]

/-- The inside of a verification is the same with both providers. -/
theorem verifyInside_eq (same : SameButTeardown provider other) (config : Config)
    (toolchain : Toolchain) (sourceRoot : Path) :
    Pipeline.verifyInside other config toolchain sourceRoot =
      Pipeline.verifyInside provider config toolchain sourceRoot := by
  simp only [Pipeline.verifyInside, same.provision_eq, same.verify_eq]

/-- A teardown with the other provider leaves the same world but for the state of the provider. -/
theorem tearDown_eq (same : SameButTeardown provider other) (world : World σ) :
    other.tearDown world =
      { provider.tearDown world with sandbox := (other.cleanup world.sandbox).2 } := by
  simp only [Provider.tearDown, World.after, same.cleanup_writes]

end SameButTeardown

/-- An action ends alike in both results, and the worlds are the same but for the state of the
provider. -/
def Apart (result result' : Ending α × World σ) : Prop :=
  ∃ sandbox, result' = (result.1, { result.2 with sandbox })

/-- Letting go of the sandbox keeps results apart only by the state of the provider. -/
theorem apart_letGo {ending : Ending α} {events : List Event} {sandbox : σ}
    (writes : (other.drop sandbox).1.writes = (provider.drop world.sandbox).1.writes) :
    Apart (ending, provider.letGo events world)
      (ending, other.letGo events { world with sandbox }) := by
  refine ⟨(other.drop sandbox).2, ?_⟩
  simp only [Provider.letGo, World.after, writes]

/-- What happens in a sandbox and after it does not depend on how the sandbox is torn down. -/
theorem inSandbox_apart (same : SameButTeardown provider other) (session : Session)
    (inside : Action σ α) {afterwards : α → Action σ β} {extra : List Stage}
    (closes : ∀ value, Action.Closes (afterwards value) extra) (world : World σ) :
    Apart (provider.inSandbox session inside afterwards world)
      (other.inSandbox session inside afterwards world) := by
  unfold Provider.inSandbox
  rw [same.start_eq]
  rcases provider.start session world with ⟨started, world⟩
  cases started with
  | failed failure => exact ⟨world.sandbox, rfl⟩
  | abandoned => exact ⟨world.sandbox, rfl⟩
  | value =>
      dsimp only
      rcases inside world with ⟨ending, inner⟩
      cases ending with
      | abandoned => exact apart_letGo (same.drop_writes inner.sandbox)
      | failed failure =>
          dsimp only
          rw [same.tearDown_eq]
          exact apart_letGo (same.close_writes inner.sandbox)
      | value value =>
          dsimp only
          have torn := (closes value).apart (provider.tearDown inner)
            (other.cleanup inner.sandbox).2
          rw [same.tearDown_eq, torn]
          refine apart_letGo ?_
          rw [(closes value).sandbox_eq, Provider.tearDown_sandbox]
          exact same.close_writes inner.sandbox

namespace Pipeline

variable {config : Config} {request : Request}

/-- A call that has loaded its toolchain does not depend on how its sandbox is torn down. -/
theorem withToolchain_apart (same : SameButTeardown provider other)
    {inside : Toolchain → Action σ α} {afterwards : α → Action σ β} {extra : List Stage}
    (closes : ∀ value, Action.Closes (afterwards value) extra) (world : World σ) :
    Apart (withToolchain provider config request inside afterwards world)
      (withToolchain other config request inside afterwards world) := by
  rw [withToolchain, withToolchain, Action.bind_apply, Action.bind_apply]
  rcases loadToolchain config request world with ⟨loaded, world⟩
  cases loaded with
  | failed failure => exact ⟨world.sandbox, rfl⟩
  | abandoned => exact ⟨world.sandbox, rfl⟩
  | value toolchain => exact inSandbox_apart same _ (inside toolchain) closes world

theorem unlessFinished_apart {action action' : Pipeline → Action σ α}
    (apart : Apart (action world.pipeline world) (action' world.pipeline world)) :
    Apart (unlessFinished action world) (unlessFinished action' world) := by
  cases ended : world.pipeline.stage.isTerminal with
  | true =>
      rw [unlessFinished_of_terminal action ended, unlessFinished_of_terminal action' ended]
      exact ⟨world.sandbox, rfl⟩
  | false =>
      rw [unlessFinished_of_open action ended, unlessFinished_of_open action' ended,
        finish_apply, finish_apply]
      obtain ⟨sandbox, same⟩ := apart
      exact ⟨sandbox, by rw [same]; rfl⟩

end Pipeline

/-- A call ends alike with both providers, and leaves the same world but for the state of the
provider. -/
theorem Call.perform_apart (call : Call) (same : SameButTeardown provider other)
    (world : World σ) : Apart (call.perform provider world) (call.perform other world) := by
  cases call with
  | run request =>
      have apart : Apart (Pipeline.run provider request world)
          (Pipeline.run other request world) := by
        refine Pipeline.unlessFinished_apart ?_
        simp only [Pipeline.execute, Pipeline.buildThen, same.buildInside_eq]
        exact Pipeline.withToolchain_apart same (fun _ => Pipeline.install_closes _ request) world
      obtain ⟨sandbox, run_eq⟩ := apart
      exact ⟨sandbox, by simp only [perform, run_eq]⟩
  | verifyOnly request =>
      have apart : Apart (Pipeline.verifyOnly provider request world)
          (Pipeline.verifyOnly other request world) := by
        refine Pipeline.unlessFinished_apart ?_
        simp only [Pipeline.executeVerify, same.verifyInside_eq]
        exact Pipeline.withToolchain_apart same Action.pure_closes world
      obtain ⟨sandbox, verifyOnly_eq⟩ := apart
      exact ⟨sandbox, by simp only [perform, verifyOnly_eq]⟩

end SealedBuild
