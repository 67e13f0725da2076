import SealedBuild.Proofs.Pipeline.Course

/-!
# How a call of the pipeline ends

A call loads the toolchain, starts a sandbox, follows a course inside it, and does something
afterwards. It can leave this path at six points, and at each of them the world is known: which
steps have run, which stages have been reached, and whether the sandbox has been torn down.

Main statements: `withToolchain_exit`, the six points together, and `Exit.eq_of_value`, by which
the last one is taken as soon as the action inside the sandbox ends with a value.
-/

namespace SealedBuild

variable {σ α β : Type} {provider : Provider σ} {config : Config} {request : Request}

namespace World

/-- The world after the provider has been asked for a sandbox, with the event that came of it. -/
def asked (world : World σ) (provider : Provider σ) (session : Session) (event : Event) :
    World σ :=
  world.after (provider.create session world.sandbox).1
    (provider.create session world.sandbox).2 [event]

@[simp] theorem asked_pipeline (world : World σ) (session : Session) (event : Event) :
    (world.asked provider session event).pipeline = world.pipeline := rfl

@[simp] theorem asked_files (world : World σ) (session : Session) (event : Event) :
    (world.asked provider session event).files =
      world.files.applyAll (provider.create session world.sandbox).1.writes := rfl

@[simp] theorem asked_sandbox (world : World σ) (session : Session) (event : Event) :
    (world.asked provider session event).sandbox = (provider.create session world.sandbox).2 := rfl

@[simp] theorem asked_events (world : World σ) (session : Session) (event : Event) :
    (world.asked provider session event).events = world.events ++ [event] := rfl

/-- The world in which a sandbox has been started for a validated request. -/
def inSession (world : World σ) (provider : Provider σ) (config : Config) (request : Request) :
    World σ :=
  (world.reached [.validated]).asked provider (.forRequest request config)
    (.created (.forRequest request config))

end World

namespace Provider

@[simp] theorem tearDown_pipeline (world : World σ) :
    (provider.tearDown world).pipeline = world.pipeline := rfl

@[simp] theorem tearDown_files (world : World σ) :
    (provider.tearDown world).files =
      world.files.applyAll (provider.cleanup world.sandbox).1.writes := rfl

@[simp] theorem tearDown_sandbox (world : World σ) :
    (provider.tearDown world).sandbox = (provider.cleanup world.sandbox).2 := rfl

@[simp] theorem tearDown_events (world : World σ) :
    (provider.tearDown world).events = world.events ++ [.cleanup] := rfl

@[simp] theorem letGo_pipeline (events : List Event) (world : World σ) :
    (provider.letGo events world).pipeline = world.pipeline := rfl

@[simp] theorem letGo_files (events : List Event) (world : World σ) :
    (provider.letGo events world).files =
      world.files.applyAll (provider.drop world.sandbox).1.writes := rfl

@[simp] theorem letGo_events (events : List Event) (world : World σ) :
    (provider.letGo events world).events = world.events ++ events := rfl

/-- The world after the sandbox has been torn down and let go of. -/
def close (provider : Provider σ) (world : World σ) : World σ :=
  provider.letGo [] (provider.tearDown world)

end Provider

namespace Pipeline

/-- The toolchain is loaded and a sandbox starts. -/
structure Ready (provider : Provider σ) (config : Config) (request : Request) (world : World σ)
    (toolchain : Toolchain) : Prop where
  loaded : Toolchain.load world.files request.sourceRoot config.toolchain.manifest = .ok toolchain
  started : (provider.create (.forRequest request config) world.sandbox).1.answer = .started

/-- The six ways in which a call ends. -/
inductive Exit (provider : Provider σ) (config : Config) (request : Request)
    (inside : Toolchain → Action σ α) (afterwards : α → Action σ β)
    (plan : Toolchain → List Step) (path final : List Stage) (world : World σ) :
    Ending β × World σ → Prop
  /-- The toolchain cannot be loaded. -/
  | unloaded {failure : Failure}
      (refused : Toolchain.load world.files request.sourceRoot config.toolchain.manifest =
        .error failure) :
      Exit provider config request inside afterwards plan path final world (.failed failure, world)
  /-- The sandbox does not start. -/
  | unstarted {toolchain : Toolchain} {failure : Failure}
      (loaded : Toolchain.load world.files request.sourceRoot config.toolchain.manifest =
        .ok toolchain)
      (refused : (provider.create (.forRequest request config) world.sandbox).1.answer =
        .failed failure) :
      Exit provider config request inside afterwards plan path final world
        (.failed failure, (world.reached [.validated]).asked provider (.forRequest request config)
          (.createFailed (.forRequest request config) (some failure)))
  /-- The start of the sandbox hangs, and the call is given up. -/
  | stuck {toolchain : Toolchain}
      (loaded : Toolchain.load world.files request.sourceRoot config.toolchain.manifest =
        .ok toolchain)
      (hangs : (provider.create (.forRequest request config) world.sandbox).1.answer = .hung) :
      Exit provider config request inside afterwards plan path final world
        (.abandoned, (world.reached [.validated]).asked provider (.forRequest request config)
          (.createFailed (.forRequest request config) none))
  /-- A step hangs, and the call is given up. -/
  | givenUp {toolchain : Toolchain} {steps : List Step} {stages : List Stage}
      (ready : Ready provider config request world toolchain)
      (ending : (inside toolchain (world.inSession provider config request)).1 = .abandoned)
      (stepsAlong : steps <+: plan toolchain) (someStep : steps ≠ [])
      (stagesAlong : stages <+: path) :
      Exit provider config request inside afterwards plan path final world
        (.abandoned, provider.letGo [.dropped]
          (((world.inSession provider config request).ran provider steps).reached stages))
  /-- The action inside the sandbox fails. -/
  | broken {toolchain : Toolchain} {steps : List Step} {stages : List Stage} {failure : Failure}
      (ready : Ready provider config request world toolchain)
      (ending : (inside toolchain (world.inSession provider config request)).1 = .failed failure)
      (stepsAlong : steps <+: plan toolchain) (stagesAlong : stages <+: path) :
      Exit provider config request inside afterwards plan path final world
        (.failed failure, provider.close
          (((world.inSession provider config request).ran provider steps).reached stages))
  /-- The action inside the sandbox ends with a value, and what comes afterwards is done. -/
  | completed {toolchain : Toolchain} {value : α} {outcome : Ending β × World σ}
      (ready : Ready provider config request world toolchain)
      (ending : (inside toolchain (world.inSession provider config request)).1 = .value value)
      (afterwards_eq : afterwards value (provider.tearDown
        (((world.inSession provider config request).ran provider (plan toolchain)).reached
          (path ++ final))) = outcome) :
      Exit provider config request inside afterwards plan path final world
        (outcome.1, provider.letGo [] outcome.2)

theorem start_of_started {session : Session} (world : World σ)
    (started : (provider.create session world.sandbox).1.answer = .started) :
    provider.start session world =
      (.value (), world.asked provider session (.created session)) := by
  simp only [Provider.start, started]
  rfl

theorem start_of_failed {session : Session} (world : World σ) {failure : Failure}
    (refused : (provider.create session world.sandbox).1.answer = .failed failure) :
    provider.start session world =
      (.failed failure, world.asked provider session (.createFailed session (some failure))) := by
  simp only [Provider.start, refused]
  rfl

theorem start_of_hung {session : Session} (world : World σ)
    (hangs : (provider.create session world.sandbox).1.answer = .hung) :
    provider.start session world =
      (.abandoned, world.asked provider session (.createFailed session none)) := by
  simp only [Provider.start, hangs]
  rfl

theorem loadToolchain_of_error {world : World σ} {failure : Failure}
    (refused : Toolchain.load world.files request.sourceRoot config.toolchain.manifest =
      .error failure) : loadToolchain config request world = (.failed failure, world) := by
  simp [loadToolchain, Action.bind_apply, Action.onFiles, Action.ofExcept, refused]

theorem loadToolchain_of_ok {world : World σ} {toolchain : Toolchain}
    (loaded : Toolchain.load world.files request.sourceRoot config.toolchain.manifest =
      .ok toolchain) :
    loadToolchain config request world = (.value toolchain, world.reached [.validated]) := by
  simp [loadToolchain, Action.bind_apply, Action.onFiles, Action.ofExcept, Action.advance,
    Action.pure_apply, loaded, World.reached]

/-- A call fails and changes nothing if the toolchain cannot be loaded. -/
theorem withToolchain_of_unloaded {inside : Toolchain → Action σ α} {afterwards : α → Action σ β}
    {world : World σ} {failure : Failure}
    (refused : Toolchain.load world.files request.sourceRoot config.toolchain.manifest =
      .error failure) :
    withToolchain provider config request inside afterwards world = (.failed failure, world) := by
  rw [withToolchain, Action.bind_apply, loadToolchain_of_error refused]

/-- A call fails as its sandbox does if that does not start. -/
theorem withToolchain_of_unstarted {inside : Toolchain → Action σ α} {afterwards : α → Action σ β}
    {world : World σ} {toolchain : Toolchain} {failure : Failure}
    (loaded : Toolchain.load world.files request.sourceRoot config.toolchain.manifest =
      .ok toolchain)
    (refused : (provider.create (.forRequest request config) world.sandbox).1.answer =
      .failed failure) :
    withToolchain provider config request inside afterwards world =
      (.failed failure, (world.reached [.validated]).asked provider (.forRequest request config)
        (.createFailed (.forRequest request config) (some failure))) := by
  rw [withToolchain, Action.bind_apply, loadToolchain_of_ok loaded]
  dsimp only
  rw [Provider.inSandbox, start_of_failed (world.reached [.validated]) refused]

/-- A call is given up as soon as the start of its sandbox is. -/
theorem withToolchain_of_stuck {inside : Toolchain → Action σ α} {afterwards : α → Action σ β}
    {world : World σ} {toolchain : Toolchain}
    (loaded : Toolchain.load world.files request.sourceRoot config.toolchain.manifest =
      .ok toolchain)
    (hangs : (provider.create (.forRequest request config) world.sandbox).1.answer = .hung) :
    withToolchain provider config request inside afterwards world =
      (.abandoned, (world.reached [.validated]).asked provider (.forRequest request config)
        (.createFailed (.forRequest request config) none)) := by
  rw [withToolchain, Action.bind_apply, loadToolchain_of_ok loaded]
  dsimp only
  rw [Provider.inSandbox, start_of_hung (world.reached [.validated]) hangs]

/-- Once a sandbox has started, the action inside it decides how a call goes on. -/
theorem withToolchain_of_ready {inside : Toolchain → Action σ α} {afterwards : α → Action σ β}
    {world : World σ} {toolchain : Toolchain}
    (ready : Ready provider config request world toolchain) :
    withToolchain provider config request inside afterwards world =
      match inside toolchain (world.inSession provider config request) with
      | (.value value, after) =>
        ((afterwards value (provider.tearDown after)).1,
          provider.letGo [] (afterwards value (provider.tearDown after)).2)
      | (.failed failure, after) => (.failed failure, provider.close after)
      | (.abandoned, after) => (.abandoned, provider.letGo [.dropped] after) := by
  rw [withToolchain, Action.bind_apply, loadToolchain_of_ok ready.loaded]
  dsimp only
  rw [Provider.inSandbox, start_of_started (world.reached [.validated]) ready.started]
  rw [World.inSession]
  dsimp only
  rcases inside toolchain ((world.reached [.validated]).asked provider
    (.forRequest request config) (.created (.forRequest request config))) with ⟨ending, after⟩
  cases ending <;> rfl

/-- A call leaves its path at one of six points. -/
theorem withToolchain_exit {inside : Toolchain → Action σ α} {plan : Toolchain → List Step}
    {path final : List Stage}
    (course : ∀ toolchain, Action.Follows provider (inside toolchain) (plan toolchain) path final)
    (afterwards : α → Action σ β) (world : World σ) :
    Exit provider config request inside afterwards plan path final world
      (withToolchain provider config request inside afterwards world) := by
  cases loaded : Toolchain.load world.files request.sourceRoot config.toolchain.manifest with
  | error failure =>
      rw [withToolchain_of_unloaded loaded]
      exact .unloaded loaded
  | ok toolchain =>
      cases answer : (provider.create (.forRequest request config) world.sandbox).1.answer with
      | failed failure =>
          rw [withToolchain_of_unstarted loaded answer]
          exact .unstarted loaded answer
      | hung =>
          rw [withToolchain_of_stuck loaded answer]
          exact .stuck loaded answer
      | started =>
          have ready : Ready provider config request world toolchain := ⟨loaded, answer⟩
          obtain ⟨steps, stages, went⟩ :=
            course toolchain (world.inSession provider config request)
          rw [withToolchain_of_ready ready]
          rcases ran : inside toolchain (world.inSession provider config request) with
            ⟨ending, after⟩
          rw [ran] at went
          obtain rfl := went.world_eq
          cases ending with
          | value value =>
              obtain ⟨rfl, rfl⟩ := went.value value rfl
              exact .completed ready (congrArg Prod.fst ran) rfl
          | failed failure =>
              exact .broken ready (congrArg Prod.fst ran) went.stepsAlong
                (went.stagesAlong (by simp))
          | abandoned =>
              obtain ⟨done, last, rfl, _⟩ := went.hung rfl
              exact .givenUp ready (congrArg Prod.fst ran) went.stepsAlong (by simp)
                (went.stagesAlong (by simp))

/-- The exit is the last one if the action inside the sandbox ends with a value. -/
theorem Exit.eq_of_value {inside : Toolchain → Action σ α} {afterwards : α → Action σ β}
    {plan : Toolchain → List Step} {path final : List Stage} {world : World σ}
    {result : Ending β × World σ}
    (taken : Exit provider config request inside afterwards plan path final world result)
    {toolchain : Toolchain} {value : α} (ready : Ready provider config request world toolchain)
    (ending : (inside toolchain (world.inSession provider config request)).1 = .value value) :
    let outcome := afterwards value (provider.tearDown
      (((world.inSession provider config request).ran provider (plan toolchain)).reached
        (path ++ final)))
    result = (outcome.1, provider.letGo [] outcome.2) := by
  have same {other : Toolchain} (loaded :
      Toolchain.load world.files request.sourceRoot config.toolchain.manifest = .ok other) :
      toolchain = other := Except.ok.inj (ready.loaded.symm.trans loaded)
  cases taken with
  | unloaded refused => exact absurd (ready.loaded.symm.trans refused) (by simp)
  | unstarted loaded refused => exact absurd (ready.started.symm.trans refused) (by simp)
  | stuck loaded hangs => exact absurd (ready.started.symm.trans hangs) (by simp)
  | givenUp ready' ending' =>
      obtain rfl := same ready'.loaded
      exact absurd (ending.symm.trans ending') (by simp)
  | broken ready' ending' =>
      obtain rfl := same ready'.loaded
      exact absurd (ending.symm.trans ending') (by simp)
  | completed ready' ending' afterwards_eq =>
      obtain rfl := same ready'.loaded
      obtain rfl : value = _ := Ending.value.inj (ending.symm.trans ending')
      rw [afterwards_eq]

/-- A call fails as the action inside its sandbox does. -/
theorem withToolchain_of_failed {inside : Toolchain → Action σ α} {world after : World σ}
    {toolchain : Toolchain} {failure : Failure}
    (ready : Ready provider config request world toolchain)
    (ending : inside toolchain (world.inSession provider config request) =
      (.failed failure, after)) (afterwards : α → Action σ β) :
    withToolchain provider config request inside afterwards world =
      (.failed failure, provider.close after) := by
  rw [withToolchain_of_ready ready, ending]

/-- Unless the action inside the sandbox ends with a value, it makes no difference what would be
done after it. -/
theorem withToolchain_of_no_value {inside : Toolchain → Action σ α} {world : World σ}
    (stops : ∀ toolchain value, Ready provider config request world toolchain →
      (inside toolchain (world.inSession provider config request)).1 ≠ .value value)
    (first second : α → Action σ β) :
    withToolchain provider config request inside first world =
      withToolchain provider config request inside second world := by
  cases loaded : Toolchain.load world.files request.sourceRoot config.toolchain.manifest with
  | error failure => rw [withToolchain_of_unloaded loaded, withToolchain_of_unloaded loaded]
  | ok toolchain =>
      cases answer : (provider.create (.forRequest request config) world.sandbox).1.answer with
      | failed failure =>
          rw [withToolchain_of_unstarted loaded answer, withToolchain_of_unstarted loaded answer]
      | hung => rw [withToolchain_of_stuck loaded answer, withToolchain_of_stuck loaded answer]
      | started =>
          have ready : Ready provider config request world toolchain := ⟨loaded, answer⟩
          rw [withToolchain_of_ready ready, withToolchain_of_ready ready]
          rcases ran : inside toolchain (world.inSession provider config request) with
            ⟨ending, after⟩
          cases ending with
          | failed failure => rfl
          | abandoned => rfl
          | value value => exact absurd (congrArg Prod.fst ran) (stops toolchain value ready)

end Pipeline

end SealedBuild
