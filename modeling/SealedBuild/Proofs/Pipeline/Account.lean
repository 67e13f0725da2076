import SealedBuild.Proofs.Pipeline.Assignment
import SealedBuild.Proofs.Pipeline.Atomicity

/-!
# Accounts of calls

A call either asks for no sandbox, or gets none, or carries out its plan in one. What it has
executed and how it has ended are told together: it stops at a step, or for a reason of its own once
certain steps have passed, or it comes to the end of its plan.

Main statement: `Call.account`, for every call in every world.

## Implementation notes

An account does not name the world in which its call has ended, only what is left outside the
pipeline. The stages and the events of a call are told elsewhere, and an account without them can be
taken apart by its cases with nothing to rewrite first.
-/

namespace SealedBuild

open Pipeline (Reports)

variable {σ α β : Type} {provider : Provider σ} {config : Config} {toolchain : Toolchain}
  {request : Request} {sourceRoot : Path} {mode : VerifyMode} {before : Plan} {world : World σ}
  {executed : List Step}

/-- What has been executed inside a sandbox of a preparation and the queries of a mode, and how it
has ended. -/
inductive Course (provider : Provider σ) (config : Config) (toolchain : Toolchain)
    (sourceRoot : Path) (mode : VerifyMode) (preparation : Plan) (world : World σ) :
    List Step → Ending α → Prop
  /-- A step stops the plan. -/
  | stopped {done rest : Plan} {last : Assignment} {ending : Ending α}
      (split : preparation ++ config.attainable toolchain mode = done ++ last :: rest)
      (passed : done.Passed provider world.sandbox)
      (stops : last.Stops
        (provider.run last.step (provider.stateAfter done.steps world.sandbox)).1.answer ending) :
      Course provider config toolchain sourceRoot mode preparation world
        (done.steps ++ [last.step]) ending
  /-- The patterns of the scan cannot be compiled. -/
  | uncompiled {failure : Failure} (verifies : mode ≠ .skip)
      (refused : Scanner.ofSettings config.verify = .error failure)
      (passed : preparation.Passed provider world.sandbox) :
      Course provider config toolchain sourceRoot mode preparation world preparation.steps
        (.failed failure)
  /-- There are violations, and the mode is strict. -/
  | violated {scanner : Scanner} {report : Report} (enforces : mode = .enforce)
      (reports : Reports provider config toolchain sourceRoot
        (world.ran provider preparation.steps) scanner report)
      (violated : report.passed = false)
      (attains : config.attainable toolchain mode = config.inspection toolchain mode)
      (passed : Plan.Passed provider (preparation ++ config.inspection toolchain mode)
        world.sandbox) :
      Course provider config toolchain sourceRoot mode preparation world
        (Plan.steps (preparation ++ config.inspection toolchain mode)) (.failed report.failure)
  /-- The plan comes to its end, and no violation counts. -/
  | completed (value : α)
      (attains : config.attainable toolchain mode = config.inspection toolchain mode)
      (cleared : mode = .enforce → ∃ (scanner : Scanner) (report : Report),
        Reports provider config toolchain sourceRoot
          (world.ran provider preparation.steps) scanner report ∧ report.passed = true)
      (passed : Plan.Passed provider (preparation ++ config.inspection toolchain mode)
        world.sandbox) :
      Course provider config toolchain sourceRoot mode preparation world
        (Plan.steps (preparation ++ config.inspection toolchain mode)) (.value value)

namespace Course

/-- The stages that have been reached before do not count in a course. -/
theorem of_reached {stages : List Stage} {ending : Ending α}
    (course : Course provider config toolchain sourceRoot mode before (world.reached stages)
      executed ending) :
    Course provider config toolchain sourceRoot mode before world executed ending := by
  have unstaged {scanner : Scanner} {report : Report}
      (reports : Reports provider config toolchain sourceRoot
        ((world.reached stages).ran provider before.steps) scanner report) :
      Reports provider config toolchain sourceRoot (world.ran provider before.steps) scanner
        report := by
    rw [World.ran_reached] at reports
    exact Pipeline.reports_reached.mp reports
  cases course with
  | stopped split passed stops => exact .stopped split passed stops
  | uncompiled verifies refused passed => exact .uncompiled verifies refused passed
  | violated enforces reports violated attains passed =>
      exact .violated enforces (unstaged reports) violated attains passed
  | completed value attains cleared passed =>
      refine .completed value attains (fun enforces => ?_) passed
      obtain ⟨scanner, report, reports, clean⟩ := cleared enforces
      exact ⟨scanner, report, unstaged reports, clean⟩

/-- A course after more steps that have passed. -/
theorem after {first : Plan} {ending : Ending α} (passed : first.Passed provider world.sandbox)
    (course : Course provider config toolchain sourceRoot mode []
      (world.ran provider first.steps) executed ending) :
    Course provider config toolchain sourceRoot mode first world (first.steps ++ executed)
      ending := by
  cases course with
  | @stopped done rest last ending split passed' stops =>
      have split' : first ++ config.attainable toolchain mode =
          (first ++ done) ++ last :: rest := by
        rw [List.nil_append] at split
        rw [split, List.append_assoc]
      rw [← List.append_assoc, ← Plan.steps_append]
      refine .stopped split' (Plan.passed_append.mpr ⟨passed, passed'⟩) ?_
      rw [Plan.steps_append, provider.stateAfter_append]
      exact stops
  | uncompiled verifies refused passed' =>
      rw [Plan.steps_nil, List.append_nil]
      exact .uncompiled verifies refused passed
  | violated enforces reports violated attains passed' =>
      rw [← Plan.steps_append]
      rw [Plan.steps_nil, World.ran_nil] at reports
      exact .violated enforces reports violated attains (Plan.passed_append.mpr ⟨passed, passed'⟩)
  | completed value attains cleared passed' =>
      rw [← Plan.steps_append]
      rw [Plan.steps_nil, World.ran_nil] at cleared
      exact .completed value attains cleared (Plan.passed_append.mpr ⟨passed, passed'⟩)

/-- A course is one of what follows too if that ends with a value, or if the course does not. -/
theorem andThen {ending : Ending α} (next : α → Ending β)
    (course : Course provider config toolchain sourceRoot mode before world executed ending)
    (goesOn : ∀ result, ending = .value result → ∃ value, next result = .value value) :
    Course provider config toolchain sourceRoot mode before world executed
      (ending.andThen next) := by
  cases course with
  | stopped split passed stops => exact .stopped split passed (stops.andThen next)
  | uncompiled verifies refused passed => exact .uncompiled verifies refused passed
  | violated enforces reports violated attains passed =>
      exact .violated enforces reports violated attains passed
  | completed result attains cleared passed =>
      obtain ⟨value, next_eq⟩ := goesOn result rfl
      rw [Ending.andThen, next_eq]
      exact .completed value attains cleared passed

theorem map {ending : Ending α} (form : α → β)
    (course : Course provider config toolchain sourceRoot mode before world executed ending) :
    Course provider config toolchain sourceRoot mode before world executed (ending.map form) := by
  rw [Ending.map_eq_andThen]
  exact course.andThen _ fun result _ => ⟨form result, rfl⟩

end Course

namespace Action

/-- In every world an action takes a course. -/
def Takes (provider : Provider σ) (config : Config) (toolchain : Toolchain) (sourceRoot : Path)
    (mode : VerifyMode) (before : Plan) (action : Action σ α) : Prop :=
  ∀ world, ∃ executed stages, (action world).2 = (world.ran provider executed).reached stages ∧
    Course provider config toolchain sourceRoot mode before world executed (action world).1

/-- An action that takes a course may be prepared for by another one. -/
theorem Obeys.bind_takes {prepare : Action σ Unit} {check : Action σ α}
    (prepares : Obeys provider prepare before)
    (checks : Takes provider config toolchain sourceRoot mode [] check) :
    Takes provider config toolchain sourceRoot mode before (prepare >>= fun _ => check) := by
  intro world
  obtain ⟨executed, stages, world_eq, progress⟩ := prepares world
  generalize ended : (prepare world).1 = ending at progress
  cases progress with
  | completed value passed =>
      have prepare_eq : prepare world =
          (.value value, (world.ran provider before.steps).reached stages) :=
        Prod.ext ended world_eq
      obtain ⟨executed', stages', world_eq', course⟩ :=
        checks ((world.ran provider before.steps).reached stages)
      rw [bind_of_value prepare_eq]
      refine ⟨before.steps ++ executed', stages ++ stages', ?_, course.of_reached.after passed⟩
      rw [world_eq', World.ran_reached, World.ran_append, World.reached_append]
  | @stopped done rest last ending split passed stops =>
      rw [← ended] at stops
      obtain ⟨same, stops'⟩ := bind_of_stops (fun _ => check) stops
      have split' : before ++ config.attainable toolchain mode =
          done ++ last :: (rest ++ config.attainable toolchain mode) := by
        rw [split, List.append_assoc, List.cons_append]
      exact ⟨_, stages, same.trans world_eq, .stopped split' passed stops'⟩

end Action

namespace Pipeline

open SealedBuild.Action

/-- A verification and what is done with its report take a course. What is done executes nothing,
and does not fail unless the mode is strict and the report has violations. -/
theorem verify_bind_takes (verifies : mode ≠ .skip) (sourceRoot : Path)
    {next : Report → Action σ α}
    (settles : ∀ report world,
      (∃ value stages, (mode = .enforce → report.passed = true) ∧
        next report world = (.value value, world.reached stages)) ∨
      (mode = .enforce ∧ report.passed = false ∧
        next report world = (.failed report.failure, world))) :
    Takes provider config toolchain sourceRoot mode []
      (verify provider config toolchain sourceRoot >>= next) := by
  intro world
  have planned : config.inspection toolchain mode = config.questions toolchain := if_neg verifies
  cases compiled : Scanner.ofSettings config.verify with
  | error failure =>
      rw [bind_apply, verify_of_error compiled]
      exact ⟨[], [], by rw [World.ran_nil]; rfl, .uncompiled verifies compiled Plan.passed_nil⟩
  | ok scanner =>
      have attains := config.attainable_of_ok toolchain mode compiled
      have carriesOut : Obeys provider (verify provider config toolchain sourceRoot) _ :=
        verifyIn_obeys compiled sourceRoot
      obtain ⟨executed, stages, world_eq, progress⟩ := carriesOut world
      generalize ended : (verify provider config toolchain sourceRoot world).1 = ending at progress
      rw [← planned] at progress
      cases progress with
      | completed report passed =>
          have verify_eq : verify provider config toolchain sourceRoot world = (.value report,
              (world.ran provider (config.inspection toolchain mode).steps).reached stages) :=
            Prod.ext ended world_eq
          obtain ⟨scanner, reports⟩ := verify_value_iff.mp ended
          have here : world.ran provider (Plan.steps []) = world := World.ran_nil ..
          rw [← here] at reports
          rw [bind_of_value verify_eq]
          rcases settles report ((world.ran provider
            (config.inspection toolchain mode).steps).reached stages) with
            ⟨value, stages', clean, next_eq⟩ | ⟨enforces, violated, next_eq⟩
          · rw [next_eq]
            refine ⟨_, stages ++ stages', (World.reached_append ..).symm,
              .completed value attains (fun enforces => ?_) passed⟩
            exact ⟨scanner, report, reports, clean enforces⟩
          · rw [next_eq]
            exact ⟨_, stages, rfl, .violated enforces reports violated attains passed⟩
      | @stopped done rest last ending split passed stops =>
          rw [← ended] at stops
          obtain ⟨same, stops'⟩ := bind_of_stops next stops
          have split' : [] ++ config.attainable toolchain mode = done ++ last :: rest := by
            rw [attains, List.nil_append, split]
          exact ⟨_, stages, same.trans world_eq, .stopped split' passed stops'⟩

/-- The course of what a full run does after its build. -/
theorem clear_takes (mode : VerifyMode) (sourceRoot : Path) :
    Takes provider config toolchain sourceRoot mode []
      (clear provider config toolchain mode sourceRoot) := by
  by_cases skipped : mode = .skip
  · have nothing : config.inspection toolchain mode = [] := if_pos skipped
    have attains : config.attainable toolchain mode = config.inspection toolchain mode := by
      rcases config.attainable_cases toolchain mode with attains | attains
      · exact attains
      · rw [attains, nothing]
    intro world
    rw [clear, if_pos skipped]
    refine ⟨_, [], ?_, .completed () attains (fun enforces => ?_) ?_⟩
    · rw [nothing, List.nil_append, Plan.steps_nil, World.ran_nil]
      rfl
    · rw [skipped] at enforces
      cases enforces
    · rw [nothing]
      exact Plan.passed_nil
  · rw [clear, if_neg skipped]
    refine verify_bind_takes skipped sourceRoot fun report world => ?_
    by_cases refused : !report.passed ∧ mode = .enforce
    · rw [if_pos refused]
      exact Or.inr ⟨refused.2, by simpa using refused.1, rfl⟩
    · rw [if_neg refused]
      refine Or.inl ⟨(), [.verified], fun enforces => ?_, rfl⟩
      simpa [enforces] using refused

/-- The course of a full run inside the sandbox. -/
theorem buildInside_takes (mode : VerifyMode) (sourceRoot : Path) :
    Takes provider config toolchain sourceRoot mode
      (config.provisioning toolchain ++ [config.building toolchain])
      (buildInside provider config mode toolchain sourceRoot) := by
  rw [buildInside_eq]
  exact untilBuilt_obeys.bind_takes (clear_takes mode sourceRoot)

/-- The course of a verification inside the sandbox. It goes to its end even if there are
violations, like a full run that is only advised by them. -/
theorem verifyInside_takes (sourceRoot : Path) :
    Takes provider config toolchain sourceRoot .advisory (config.provisioning toolchain)
      (verifyInside provider config toolchain sourceRoot) := by
  have verifyInside_eq : verifyInside provider config toolchain sourceRoot =
      (Action.advance .sandboxReady >>= fun _ =>
        provision provider (toolchain.provisionSteps config.toolchain.osPackages) >>= fun _ =>
          Action.advance .toolchainReady) >>= fun _ =>
        verify provider config toolchain sourceRoot >>= fun report =>
          Action.advance .verified >>= fun _ => Pure.pure report := by
    simp only [verifyInside, bind_assoc]
  have prepares : Obeys provider (Action.advance .sandboxReady >>= fun _ =>
      provision provider (toolchain.provisionSteps config.toolchain.osPackages) >>= fun _ =>
        Action.advance .toolchainReady) (config.provisioning toolchain) :=
    (advance_obeys _).idle_bind fun _ => (provision_obeys _).bind_idle fun _ => advance_obeys _
  rw [verifyInside_eq]
  refine prepares.bind_takes (verify_bind_takes (by simp) sourceRoot fun report world => ?_)
  exact Or.inl ⟨report, [.verified], by simp, rfl⟩

end Pipeline

namespace World

/-- What is left of a world when a call is over: the files, and the state of the provider. -/
def outside (world : World σ) : FileSystem × σ := (world.files, world.sandbox)

@[simp] theorem reached_outside (stages : List Stage) :
    (world.reached stages).outside = world.outside := rfl

end World

namespace Provider

/-- What is left after the sandbox has been let go of. -/
def released (provider : Provider σ) (files : FileSystem) (sandbox : σ) : FileSystem × σ :=
  (files.applyAll (provider.drop sandbox).1.writes, (provider.drop sandbox).2)

@[simp] theorem letGo_outside (events : List Event) :
    (provider.letGo events world).outside = provider.released world.files world.sandbox := rfl

/-- What is left after the action inside a sandbox has ended without a value: the sandbox has been
torn down and let go of, or only let go of if a step hangs. -/
def left (provider : Provider σ) (ending : Ending α) (world : World σ) : FileSystem × σ :=
  match ending with
  | .abandoned => provider.released world.files world.sandbox
  | _ => provider.released (provider.tearDown world).files (provider.tearDown world).sandbox

theorem left_map (ending : Ending α) (form : α → β) :
    provider.left (ending.map form) world = provider.left ending world := by
  cases ending <;> rfl

end Provider

namespace Call

/-- What a verification means for a call. A call that only verifies goes to its end whatever is
found. -/
def stance (mode : VerifyMode) : Call → VerifyMode
  | .run _ => mode
  | .verifyOnly _ => .advisory

/-- The steps of a call before its queries. -/
def preparation (config : Config) (toolchain : Toolchain) : Call → Plan
  | .run _ => config.provisioning toolchain ++ [config.building toolchain]
  | .verifyOnly _ => config.provisioning toolchain

/-- The steps of a call. -/
def plan (config : Config) (mode : VerifyMode) (toolchain : Toolchain) (call : Call) : Plan :=
  call.preparation config toolchain ++ config.inspection toolchain (call.stance mode)

/-- The state of the provider once it has been asked for the sandbox of a call. -/
def opened (provider : Provider σ) (world : World σ) (call : Call) : σ :=
  (provider.create (.forRequest call.request world.pipeline.config) world.sandbox).2

/-- The world in which the sandbox of a call has been started. -/
def begun (provider : Provider σ) (world : World σ) (call : Call) : World σ :=
  world.inSession provider world.pipeline.config call.request

/-- The world in which steps have been executed in the sandbox of a call, and the sandbox has been
torn down. -/
def torn (provider : Provider σ) (world : World σ) (call : Call) (executed : List Step) : World σ :=
  provider.tearDown ((call.begun provider world).ran provider executed)

end Call

/-- What a call has executed, how it has ended, and what it has left behind. -/
inductive Account (provider : Provider σ) (world : World σ) (call : Call) :
    List Step → Ending (Artifact ⊕ Report) → FileSystem × σ → Prop
  /-- The pipeline had ended before. -/
  | finished (ended : world.pipeline.stage.isTerminal = true) :
      Account provider world call [] (.failed (.config "pipeline has already finished"))
        world.outside
  /-- The toolchain cannot be loaded. -/
  | unloaded {failure : Failure} (running : world.pipeline.stage.isTerminal = false)
      (refused : Toolchain.load world.files call.request.sourceRoot
        world.pipeline.config.toolchain.manifest = .error failure) :
      Account provider world call [] (.failed failure) world.outside
  /-- The sandbox does not start. -/
  | unstarted {toolchain : Toolchain} {failure : Failure}
      (running : world.pipeline.stage.isTerminal = false)
      (loaded : Toolchain.load world.files call.request.sourceRoot
        world.pipeline.config.toolchain.manifest = .ok toolchain)
      (refused : (provider.create (.forRequest call.request world.pipeline.config)
        world.sandbox).1.answer = .failed failure) :
      Account provider world call [] (.failed failure) (call.begun provider world).outside
  /-- The start of the sandbox hangs, and the call is given up. -/
  | stuck {toolchain : Toolchain} (running : world.pipeline.stage.isTerminal = false)
      (loaded : Toolchain.load world.files call.request.sourceRoot
        world.pipeline.config.toolchain.manifest = .ok toolchain)
      (hangs : (provider.create (.forRequest call.request world.pipeline.config)
        world.sandbox).1.answer = .hung) :
      Account provider world call [] .abandoned (call.begun provider world).outside
  /-- The plan is not carried out to its end, or there are violations that count. -/
  | broken {toolchain : Toolchain} {executed : List Step} {ending : Ending (Artifact ⊕ Report)}
      (running : world.pipeline.stage.isTerminal = false)
      (ready : Pipeline.Ready provider world.pipeline.config call.request world toolchain)
      (course : Course provider world.pipeline.config toolchain call.request.sourceRoot
        (call.stance world.pipeline.mode) (call.preparation world.pipeline.config toolchain)
        (call.begun provider world) executed ending)
      (stops : ∀ result, ending ≠ .value result) :
      Account provider world call executed ending
        (provider.left ending ((call.begun provider world).ran provider executed))
  /-- A verification has come to its end. -/
  | reported {toolchain : Toolchain} {executed : List Step} {report : Report}
      (verifies : call = .verifyOnly call.request)
      (running : world.pipeline.stage.isTerminal = false)
      (ready : Pipeline.Ready provider world.pipeline.config call.request world toolchain)
      (course : Course provider world.pipeline.config toolchain call.request.sourceRoot
        (call.stance world.pipeline.mode) (call.preparation world.pipeline.config toolchain)
        (call.begun provider world) executed (.value () : Ending Unit)) :
      Account provider world call executed (.value (.inr report))
        (provider.released (call.torn provider world executed).files
          (call.torn provider world executed).sandbox)
  /-- A full run has come to the end of its plan, and its binary has been installed. -/
  | installed {toolchain : Toolchain} {executed : List Step} {artifact : Artifact}
      {files : FileSystem} (builds : call = .run call.request)
      (running : world.pipeline.stage.isTerminal = false)
      (ready : Pipeline.Ready provider world.pipeline.config call.request world toolchain)
      (course : Course provider world.pipeline.config toolchain call.request.sourceRoot
        (call.stance world.pipeline.mode) (call.preparation world.pipeline.config toolchain)
        (call.begun provider world) executed (.value () : Ending Unit))
      (done : installArtifact (call.torn provider world executed).files
        (world.pipeline.config.artifactSource call.request.sourceRoot)
        (world.pipeline.config.artifactDestination call.request.targetRoot) =
          (.ok artifact, files)) :
      Account provider world call executed (.value (.inl artifact))
        (provider.released files (call.torn provider world executed).sandbox)
  /-- A full run has come to the end of its plan, and its binary cannot be installed. -/
  | uninstalled {toolchain : Toolchain} {executed : List Step} {failure : Failure}
      {files : FileSystem} (builds : call = .run call.request)
      (running : world.pipeline.stage.isTerminal = false)
      (ready : Pipeline.Ready provider world.pipeline.config call.request world toolchain)
      (course : Course provider world.pipeline.config toolchain call.request.sourceRoot
        (call.stance world.pipeline.mode) (call.preparation world.pipeline.config toolchain)
        (call.begun provider world) executed (.value () : Ending Unit))
      (refused : installArtifact (call.torn provider world executed).files
        (world.pipeline.config.artifactSource call.request.sourceRoot)
        (world.pipeline.config.artifactDestination call.request.targetRoot) =
          (.error failure, files)) :
      Account provider world call executed (.failed failure)
        (provider.released files (call.torn provider world executed).sandbox)

namespace Pipeline

/-- What a call whose sandbox has started leaves behind: it has taken its course in the sandbox, and
if that has ended with a value, what comes after the sandbox decides. -/
theorem withToolchain_of_takes {inside : Toolchain → Action σ α} {afterwards : α → Action σ β}
    {extra : List Stage} (closes : ∀ value, Action.Closes (afterwards value) extra)
    (ready : Ready provider config request world toolchain)
    (takes : Action.Takes provider config toolchain sourceRoot mode before (inside toolchain))
    {result : Ending β × World σ}
    (result_eq : withToolchain provider config request inside afterwards world = result)
    {begun : World σ} (begun_eq : world.inSession provider config request = begun) :
    ∃ executed last, result.2.events = world.events ++
        (.created (.forRequest request config) :: executed.map .step ++ [last]) ∧
      last.step? = none ∧
      (Course provider config toolchain sourceRoot mode before begun executed result.1 ∧
          (∀ value, result.1 ≠ .value value) ∧
          result.2.outside = provider.left result.1 (begun.ran provider executed) ∨
        ∃ value torn, Course provider config toolchain sourceRoot mode before begun executed
            (.value () : Ending Unit) ∧
          torn.outside = (provider.tearDown (begun.ran provider executed)).outside ∧
          result.1 = (afterwards value torn).1 ∧
          result.2.outside = (provider.letGo [] (afterwards value torn).2).outside) := by
  obtain ⟨executed, stages, world_eq, course⟩ := takes begun
  rw [withToolchain_of_ready ready, begun_eq] at result_eq
  have opened_events : begun.events =
      world.events ++ [.created (.forRequest request config)] := by
    rw [← begun_eq]
    rfl
  rcases ran : inside toolchain begun with ⟨ending, after⟩
  rw [ran] at world_eq course result_eq
  subst world_eq
  subst result_eq
  refine ⟨executed, ?_⟩
  cases ending with
  | abandoned =>
      refine ⟨.dropped, by simp [opened_events], rfl, Or.inl ⟨?_, by simp, rfl⟩⟩
      exact course.andThen (fun _ => .abandoned) fun _ ends => by cases ends
  | failed failure =>
      refine ⟨.cleanup, by simp [opened_events, Provider.close], rfl, Or.inl ⟨?_, by simp, rfl⟩⟩
      exact course.andThen (fun _ => .abandoned) fun _ ends => by cases ends
  | value result =>
      refine ⟨.cleanup, ?_, rfl, Or.inr ⟨result,
        provider.tearDown ((begun.ran provider executed).reached stages), course.map fun _ => (),
        rfl, rfl, rfl⟩⟩
      dsimp only
      rw [Provider.letGo_events, List.append_nil, (closes result).events_eq]
      simp [opened_events]

/-- The account of a call of a pipeline that has not ended, as soon as it is known what comes of it
after its sandbox. -/
theorem account_of_running (call : Call) {inside : Toolchain → Action σ α}
    {afterwards : α → Action σ β} {extra : List Stage} (form : β → Artifact ⊕ Report)
    (running : world.pipeline.stage.isTerminal = false)
    (closes : ∀ value, Action.Closes (afterwards value) extra)
    (takes : ∀ toolchain, Action.Takes provider world.pipeline.config toolchain
      call.request.sourceRoot (call.stance world.pipeline.mode)
      (call.preparation world.pipeline.config toolchain) (inside toolchain))
    (settles : ∀ toolchain executed value torn,
      Ready provider world.pipeline.config call.request world toolchain →
      Course provider world.pipeline.config toolchain call.request.sourceRoot
        (call.stance world.pipeline.mode) (call.preparation world.pipeline.config toolchain)
        (call.begun provider world) executed (.value () : Ending Unit) →
      torn.outside = (call.torn provider world executed).outside →
      Account provider world call executed ((afterwards value torn).1.map form)
        (provider.letGo [] (afterwards value torn).2).outside)
    {result : Ending β × World σ}
    (result_eq : withToolchain provider world.pipeline.config call.request inside afterwards world =
      result) :
    ∃ events, result.2.events = world.events ++ events ∧
      Account provider world call (Event.steps events) (result.1.map form) result.2.outside := by
  cases loaded : Toolchain.load world.files call.request.sourceRoot
      world.pipeline.config.toolchain.manifest with
  | error failure =>
      rw [withToolchain_of_unloaded loaded] at result_eq
      subst result_eq
      exact ⟨[], by simp, .unloaded running loaded⟩
  | ok toolchain =>
      cases answer : (provider.create (.forRequest call.request world.pipeline.config)
          world.sandbox).1.answer with
      | failed failure =>
          rw [withToolchain_of_unstarted loaded answer] at result_eq
          subst result_eq
          exact ⟨[.createFailed _ (some failure)], rfl, .unstarted running loaded answer⟩
      | hung =>
          rw [withToolchain_of_stuck loaded answer] at result_eq
          subst result_eq
          exact ⟨[.createFailed _ none], rfl, .stuck running loaded answer⟩
      | started =>
          have ready : Ready provider world.pipeline.config call.request world toolchain :=
            ⟨loaded, answer⟩
          obtain ⟨executed, last, events_eq, ends, taken⟩ :=
            withToolchain_of_takes closes ready (takes toolchain) result_eq rfl
          refine ⟨_, events_eq, ?_⟩
          rw [Event.steps_eq _ _ ends]
          rcases taken with ⟨course, stops, left⟩ | ⟨value, torn, course, torn_eq, ending, left⟩
          · rw [left, ← Provider.left_map result.1 form]
            refine .broken running ready (course.map form) fun value ends => ?_
            cases stopped : result.1 with
            | value value => exact stops value stopped
            | failed failure => simp [stopped, Ending.map] at ends
            | abandoned => simp [stopped, Ending.map] at ends
          · rw [left, ending]
            exact settles toolchain executed value torn ready course torn_eq

end Pipeline

namespace Call

/-- What a full run comes to after its sandbox. -/
theorem account_of_install {call : Call} (builds : call = .run call.request)
    (running : world.pipeline.stage.isTerminal = false)
    (ready : Pipeline.Ready provider world.pipeline.config call.request world toolchain)
    (course : Course provider world.pipeline.config toolchain call.request.sourceRoot
      (call.stance world.pipeline.mode) (call.preparation world.pipeline.config toolchain)
      (call.begun provider world) executed (.value () : Ending Unit))
    {torn : World σ} (torn_eq : torn.outside = (call.torn provider world executed).outside) :
    Account provider world call executed
      ((Pipeline.install world.pipeline.config call.request torn).1.map Sum.inl)
      (provider.letGo [] (Pipeline.install world.pipeline.config call.request torn).2).outside := by
  have files_eq : torn.files = (call.torn provider world executed).files :=
    congrArg Prod.fst torn_eq
  have sandbox_eq : torn.sandbox = (call.torn provider world executed).sandbox :=
    congrArg Prod.snd torn_eq
  unfold Pipeline.install
  rw [files_eq]
  split
  · rename_i artifact files done
    rw [Provider.letGo_outside]
    dsimp only
    rw [sandbox_eq]
    exact .installed builds running ready course done
  · rename_i failure files refused
    rw [Provider.letGo_outside]
    dsimp only
    rw [sandbox_eq]
    exact .uninstalled builds running ready course refused

/-- What a call has executed, how it has ended and what it has left behind, in every world. -/
theorem account (call : Call) (provider : Provider σ) (world : World σ) :
    ∃ events, (call.perform provider world).2.events = world.events ++ events ∧
      Account provider world call (Event.steps events) (call.perform provider world).1
        (call.perform provider world).2.outside := by
  cases ended : world.pipeline.stage.isTerminal with
  | true =>
      rw [call.perform_of_terminal ended]
      exact ⟨[], by simp, .finished ended⟩
  | false =>
      cases call with
      | run request =>
          have run_eq : Pipeline.run provider request world = _ :=
            (Pipeline.unlessFinished_of_open _ ended).trans (Pipeline.finish_apply _ world)
          rw [perform, run_eq]
          simp only [World.reached_events, World.reached_outside, Pipeline.execute,
            Pipeline.buildThen]
          exact Pipeline.account_of_running (.run request) Sum.inl ended
            (fun _ => Pipeline.install_closes world.pipeline.config request)
            (fun toolchain => Pipeline.buildInside_takes _ request.sourceRoot)
            (fun _ _ _ _ ready course torn_eq =>
              account_of_install rfl ended ready course torn_eq) rfl
      | verifyOnly request =>
          have verifyOnly_eq : Pipeline.verifyOnly provider request world = _ :=
            (Pipeline.unlessFinished_of_open _ ended).trans (Pipeline.finish_apply _ world)
          rw [perform, verifyOnly_eq]
          simp only [World.reached_events, World.reached_outside, Pipeline.executeVerify]
          refine Pipeline.account_of_running (.verifyOnly request) Sum.inr ended
            Action.pure_closes
            (fun toolchain => Pipeline.verifyInside_takes request.sourceRoot)
            (fun _ executed report torn ready course torn_eq => ?_) rfl
          have left : (provider.letGo [] torn).outside = provider.released
              ((Call.verifyOnly request).torn provider world executed).files
              ((Call.verifyOnly request).torn provider world executed).sandbox :=
            congrArg (fun outside : FileSystem × σ => provider.released outside.1 outside.2) torn_eq
          exact left ▸ .reported rfl ended ready course

end Call

end SealedBuild
